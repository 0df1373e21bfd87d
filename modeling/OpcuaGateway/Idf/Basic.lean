import Mathlib.Data.List.Basic

namespace OpcuaGateway
namespace Idf

/-! ## Error codes -/

abbrev EspErr := Int

def espOk : EspErr := 0
def espFail : EspErr := -1
def espErrInvalidArg : EspErr := 0x102
def espErrInvalidState : EspErr := 0x103

/-- `CONFIG_FREERTOS_HZ` is 100. -/
def portTickPeriodMs : Nat := 10

/-! ## The I2C driver -/

/-- One entry of an I2C command link. -/
inductive I2cCommand where
  | start
  | writeByte (data : UInt8)
  | write (data : List UInt8)
  | read (size : Nat)
  | stop
deriving DecidableEq, Repr

/-- `i2c_master_cmd_begin` on a port: its result, and the bytes it read. -/
abbrev I2cBus := Int → List I2cCommand → (n : Nat) → EspErr × Vector UInt8 n

end Idf
end OpcuaGateway
