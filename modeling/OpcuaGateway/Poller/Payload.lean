import OpcuaGateway.Rtc.Ds3231
import OpcuaGateway.Text.Fixed

namespace OpcuaGateway
namespace Poller

open Text Numeric Rtc

/-- What `snprintf` leaves in a buffer of `size` bytes, up to the terminator. -/
def snprintf (size : Nat) (text : Bytes) : Bytes := text.take (size - 1)

/-- The conversions `20%04d-%02d-%02d %02d:%02d:%02d`. -/
def timestampText (t : Tm) : Bytes :=
  ascii "20" ++ formatInt 4 t.tmYear ++ ascii "-" ++ formatInt 2 t.tmMon ++ ascii "-" ++
    formatInt 2 t.tmMday ++ ascii " " ++ formatInt 2 t.tmHour ++ ascii ":" ++
    formatInt 2 t.tmMin ++ ascii ":" ++ formatInt 2 t.tmSec

/-- The text the format string stands for, before it is cut to the buffer. -/
def payloadText (name value : Bytes) (t : Tm) : Bytes :=
  ascii "\x7b\"name\":\"" ++ name ++ ascii "\",\"value\":" ++ value ++
    ascii ",\"timestamp\":\"" ++ timestampText t ++ ascii "\"\x7d"

/-- `char data_receiver_opcua[100]` after the `snprintf`.  `nodeName` is a
NUL-terminated buffer and `value` the text of `%f` or `%d`. -/
def dataReceiverOpcua (nodeName value : Bytes) (t : Tm) : Bytes :=
  snprintf 100 (payloadText (cString nodeName) value t)

/-! ## The values the three branches format -/

/-- A value of a type the task publishes.  In the DOUBLE branch `doubleValue` is
read through a `float *`, which on the little-endian target is the low half. -/
inductive Sample where
  | floatValue (bits : UInt32)
  | doubleValue (bits : UInt64)
  | intValue (value : UInt16)
deriving DecidableEq, Repr

def Sample.valueText : Sample → Bytes
  | .floatValue bits => formatFixed binary32 bits.toNat
  | .doubleValue bits => formatFixed binary32 bits.toUInt32.toNat
  | .intValue value => formatInt 0 value.toNat

end Poller
end OpcuaGateway
