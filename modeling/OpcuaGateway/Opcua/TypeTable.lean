/-
The entries of `UA_TYPES`.

The sizes are those of a machine with 32-bit pointers and sizes, 8-byte integers aligned
to 8, and numbers stored as the encoding has them, so that arrays of numbers are
overlayable.
-/
import OpcuaGateway.Opcua.DataTypes

namespace OpcuaGateway
namespace Opcua

def uaTypesString : Nat := 11
def uaTypesDatetime : Nat := 12
def uaTypesBytestring : Nat := 14
def uaTypesNodeid : Nat := 16
def uaTypesStatuscode : Nat := 18
def uaTypesUint32 : Nat := 6
def uaTypesRequestheader : Nat := 31
def uaTypesClosesecurechannelrequest : Nat := 34
def uaTypesTimestampstoreturn : Nat := 60
def uaTypesMessagesecuritymode : Nat := 66
def uaTypesChannelsecuritytoken : Nat := 71
def uaTypesSecuritytokenrequesttype : Nat := 76
def uaTypesReadvalueid : Nat := 88
def uaTypesResponseheader : Nat := 90
def uaTypesOpensecurechannelresponse : Nat := 112
def uaTypesReadresponse : Nat := 176
def uaTypesReadrequest : Nat := 178
def uaTypesOpensecurechannelrequest : Nat := 179
def uaTypesServicefault : Nat := 194
def uaTypesCount : Nat := 216

def member (type : Nat) : UaDataTypeMember := { memberTypeIndex := type, isArray := false }

def arrayMember (type : Nat) : UaDataTypeMember := { memberTypeIndex := type, isArray := true }

def builtinMemSizes : List Nat :=
  [1, 1, 1, 2, 2, 4, 4, 8, 8, 4, 8, 8, 8, 16, 8, 8, 24, 36, 4, 12, 16, 36, 64, 24, 36]

def overlayableTypes : List Nat := [0, 1, 2, 3, 4, 5, 6, 7, 8, 9, 10, 12, 13, 18]

def builtinMembers (i : Nat) : List UaDataTypeMember :=
  if i = 11 ∨ i = 14 ∨ i = 15 then [arrayMember uaTypesByte]
  else if i = uaTypesQualifiedname then [member 3, member uaTypesString]
  else [member i]

/-- The entry of a built-in type.  `QualifiedName` has one of its own. -/
def builtinType (i : Nat) : UaDataType where
  typeIdNamespace := 0
  typeIdNumeric := UInt32.ofNat (i + 1)
  memSize := builtinMemSizes.getD i 0
  typeIndex := i
  builtin := true
  overlayable := overlayableTypes.contains i
  binaryEncodingId := 0
  members := builtinMembers i

/-- An enumeration is encoded as an `Int32`. -/
def enumerationType (typeId : UInt32) : UaDataType where
  typeIdNamespace := 0
  typeIdNumeric := typeId
  memSize := 4
  typeIndex := uaTypesInt32
  builtin := true
  overlayable := true
  binaryEncodingId := 0
  members := [member uaTypesInt32]

def structType (i : Nat) (typeId : UInt32) (binaryEncodingId : UInt16) (memSize : Nat)
    (members : List UaDataTypeMember) : UaDataType where
  typeIdNamespace := 0
  typeIdNumeric := typeId
  memSize := memSize
  typeIndex := i
  builtin := false
  overlayable := false
  binaryEncodingId := binaryEncodingId
  members := members

/-- A structure of numbers that lie next to each other. -/
def overlayableStruct (i : Nat) (typeId : UInt32) (binaryEncodingId : UInt16) (memSize : Nat)
    (members : List UaDataTypeMember) : UaDataType :=
  { structType i typeId binaryEncodingId memSize members with overlayable := true }

/-! ## The types of the client's own services -/

def requestHeaderType : UaDataType :=
  structType uaTypesRequestheader 389 391 88
    [member uaTypesNodeid, member uaTypesDatetime, member uaTypesUint32, member uaTypesUint32,
      member uaTypesString, member uaTypesUint32, member uaTypesExtensionobject]

def closeSecureChannelRequestType : UaDataType :=
  structType uaTypesClosesecurechannelrequest 450 452 88 [member uaTypesRequestheader]

def channelSecurityTokenType : UaDataType :=
  overlayableStruct uaTypesChannelsecuritytoken 441 443 24
    [member uaTypesUint32, member uaTypesUint32, member uaTypesDatetime, member uaTypesUint32]

def readValueIdType : UaDataType :=
  structType uaTypesReadvalueid 626 628 48
    [member uaTypesNodeid, member uaTypesUint32, member uaTypesString, member uaTypesQualifiedname]

def responseHeaderType : UaDataType :=
  structType uaTypesResponseheader 392 394 96
    [member uaTypesDatetime, member uaTypesUint32, member uaTypesStatuscode,
      member uaTypesDiagnosticinfo, arrayMember uaTypesString, member uaTypesExtensionobject]

def openSecureChannelResponseType : UaDataType :=
  structType uaTypesOpensecurechannelresponse 447 449 136
    [member uaTypesResponseheader, member uaTypesUint32, member uaTypesChannelsecuritytoken,
      member uaTypesBytestring]

def readResponseType : UaDataType :=
  structType uaTypesReadresponse 632 634 112
    [member uaTypesResponseheader, arrayMember uaTypesDatavalue, arrayMember uaTypesDiagnosticinfo]

def readRequestType : UaDataType :=
  structType uaTypesReadrequest 629 631 112
    [member uaTypesRequestheader, member uaTypesDouble, member uaTypesTimestampstoreturn,
      arrayMember uaTypesReadvalueid]

def openSecureChannelRequestType : UaDataType :=
  structType uaTypesOpensecurechannelrequest 444 446 112
    [member uaTypesRequestheader, member uaTypesUint32, member uaTypesSecuritytokenrequesttype,
      member uaTypesMessagesecuritymode, member uaTypesBytestring, member uaTypesUint32]

def serviceFaultType : UaDataType :=
  structType uaTypesServicefault 395 397 96 [member uaTypesResponseheader]

/-! ## The table -/

/-- The structures and enumerations behind the built-in types, in the order of the table.
The comments have their names. -/
def generatedTypes : List UaDataType :=
  [
    -- SignedSoftwareCertificate, DataSetFieldFlags, SemanticChangeStructureDataType,
    -- StatusChangeNotification, BrowsePathTarget, ViewAttributes
    structType 25 344 346 16 [member 14, member 14],
    enumerationType 15904,
    structType 27 897 899 48 [member 16, member 16],
    structType 28 818 820 40 [member 18, member 24],
    structType 29 546 548 40 [member 17, member 6],
    structType 30 373 375 48 [member 6, member 20, member 20, member 6, member 6, member 0,
      member 2],
    -- RequestHeader, MonitoredItemModifyResult, ElementOperand, CloseSecureChannelRequest,
    -- AddNodesResult, VariableAttributes
    requestHeaderType,
    structType 32 758 760 56 [member 18, member 10, member 6, member 21],
    overlayableStruct 33 592 594 4 [member 6],
    closeSecureChannelRequestType,
    structType 35 483 485 28 [member 18, member 16],
    structType 36 355 357 128 [member 6, member 20, member 20, member 6, member 6, member 23,
      member 16, member 5, arrayMember 6, member 2, member 2, member 10, member 0],
    -- NotificationMessage, FindServersOnNetworkRequest, StructureField, EventFieldList,
    -- MonitoringMode, MdnsDiscoveryConfiguration
    structType 37 803 805 24 [member 6, member 12, arrayMember 21],
    structType 38 12190 12208 104 [member 31, member 6, member 6, arrayMember 11],
    structType 39 101 14844 68 [member 11, member 20, member 16, member 5, arrayMember 6,
      member 6, member 0],
    structType 40 917 919 12 [member 6, arrayMember 23],
    enumerationType 716,
    structType 42 12891 12901 16 [member 11, arrayMember 11],
    -- CallMethodResult, ParsingResult, RelativePathElement, BrowseDirection, CallMethodRequest,
    -- KeyValuePair
    structType 43 707 709 28 [member 18, arrayMember 18, arrayMember 24, arrayMember 23],
    structType 44 610 612 20 [member 18, arrayMember 18, arrayMember 24],
    structType 45 537 539 40 [member 16, member 0, member 0, member 19],
    enumerationType 510,
    structType 47 704 706 56 [member 16, member 16, arrayMember 23],
    structType 48 14533 14846 36 [member 19, member 23],
    -- ConfigurationVersionDataType, RedundancySupport, EventNotificationList,
    -- UnregisterNodesRequest, ContentFilterElementResult, SimpleAttributeOperand
    overlayableStruct 49 14593 14847 8 [member 6, member 6],
    enumerationType 851,
    structType 51 914 916 8 [arrayMember 40],
    structType 52 564 566 96 [member 31, arrayMember 16],
    structType 53 604 606 20 [member 18, arrayMember 18, arrayMember 24],
    structType 54 601 603 44 [member 16, arrayMember 19, member 6, member 11],
    -- LiteralOperand, QueryDataSet, AnonymousIdentityToken, SetPublishingModeRequest,
    -- MonitoredItemCreateResult, TimestampsToReturn
    structType 55 595 597 24 [member 23],
    structType 56 577 579 80 [member 17, member 17, arrayMember 23],
    structType 57 319 321 8 [member 11],
    structType 58 797 799 104 [member 31, member 0, arrayMember 6],
    structType 59 746 748 56 [member 18, member 6, member 10, member 6, member 21],
    enumerationType 625,
    -- CallRequest, MethodAttributes, DeleteReferencesItem, WriteValue, NodeAttributesMask,
    -- MessageSecurityMode
    structType 61 710 712 96 [member 31, arrayMember 47],
    structType 62 358 360 48 [member 6, member 20, member 20, member 6, member 6, member 0,
      member 0],
    structType 63 385 387 92 [member 16, member 16, member 0, member 17, member 0],
    structType 64 668 670 104 [member 16, member 6, member 11, member 22],
    enumerationType 348,
    enumerationType 302,
    -- MonitoringParameters, ReferenceNode, Argument, UtcTime, ChannelSecurityToken,
    -- UserIdentityToken
    structType 67 740 742 64 [member 6, member 10, member 21, member 6, member 0],
    structType 68 285 287 64 [member 16, member 0, member 17],
    structType 69 296 298 60 [member 11, member 16, member 5, arrayMember 6, member 20],
    structType 70 294 0 8 [member 12],
    channelSecurityTokenType,
    structType 72 316 318 8 [member 11],
    -- SignatureData, ObjectTypeAttributes, DeadbandType, SecurityTokenRequestType,
    -- NodeAttributes, DataChangeTrigger
    structType 73 456 458 16 [member 11, member 14],
    structType 74 361 363 48 [member 6, member 20, member 20, member 6, member 6, member 0],
    enumerationType 718,
    enumerationType 315,
    structType 77 349 351 44 [member 6, member 20, member 20, member 6, member 6],
    enumerationType 717,
    -- BuildInfo, NodeClass, SubscriptionDiagnosticsDataType, FilterOperand,
    -- MonitoredItemNotification, DeleteNodesItem
    structType 79 338 340 48 [member 11, member 11, member 11, member 11, member 11, member 12],
    enumerationType 257,
    structType 81 874 876 152 [member 16, member 6, member 2, member 10, member 6, member 6,
      member 6, member 0, member 6, member 6, member 6, member 6, member 6, member 6, member 6,
      member 6, member 6, member 6, member 6, member 6, member 6, member 6, member 6, member 6,
      member 6, member 6, member 6, member 6, member 6, member 6, member 6],
    overlayableStruct 82 589 591 4 [],
    structType 83 806 808 72 [member 6, member 22],
    structType 84 382 384 28 [member 16, member 0],
    -- DeleteSubscriptionsRequest, SubscriptionAcknowledgement, StructureType, ReadValueId,
    -- DataTypeAttributes, ResponseHeader
    structType 85 845 847 96 [member 31, arrayMember 6],
    overlayableStruct 86 821 823 8 [member 6, member 6],
    enumerationType 98,
    readValueIdType,
    structType 89 370 372 48 [member 6, member 20, member 20, member 6, member 6, member 0],
    responseHeaderType,
    -- DeleteMonitoredItemsRequest, ViewDescription, ServerOnNetwork,
    -- DeleteMonitoredItemsResponse, FindServersOnNetworkResponse, RelativePath
    structType 91 779 781 104 [member 31, member 6, arrayMember 6],
    structType 92 511 513 40 [member 16, member 12, member 6],
    structType 93 12189 12207 28 [member 6, member 11, member 11, arrayMember 11],
    structType 94 782 784 112 [member 90, arrayMember 18, arrayMember 24],
    structType 95 12191 12209 112 [member 90, member 12, arrayMember 93],
    structType 96 540 542 8 [arrayMember 45],
    -- NetworkAddressUrlDataType, RegisterNodesRequest, AggregateConfiguration,
    -- DeleteNodesRequest, StructureDefinition, PublishResponse
    structType 97 15510 21152 16 [member 11, member 11],
    structType 98 558 560 96 [member 31, arrayMember 16],
    overlayableStruct 99 948 950 5 [member 0, member 0, member 2, member 2, member 0],
    structType 100 498 500 96 [member 31, arrayMember 84],
    structType 101 99 122 60 [member 16, member 16, member 87, arrayMember 39],
    structType 102 827 829 152 [member 90, member 6, arrayMember 6, member 0, member 37,
      arrayMember 18, arrayMember 24],
    -- MonitoredItemModifyRequest, ServiceCounterDataType, ModelChangeStructureDataType,
    -- UserNameIdentityToken, IdType, UserTokenType
    structType 103 755 757 72 [member 6, member 67],
    overlayableStruct 104 871 873 8 [member 6, member 6],
    structType 105 877 879 52 [member 16, member 16, member 2],
    structType 106 322 324 32 [member 11, member 11, member 14, member 11],
    enumerationType 256,
    enumerationType 303,
    -- SetTriggeringResponse, TimeZoneDataType, ActivateSessionRequest,
    -- OpenSecureChannelResponse, ApplicationType, ServerState
    structType 109 776 778 128 [member 90, arrayMember 18, arrayMember 24, arrayMember 18,
      arrayMember 24],
    overlayableStruct 110 8912 8917 4 [member 3, member 0],
    structType 111 465 467 176 [member 31, member 73, arrayMember 25, arrayMember 11, member 21,
      member 73],
    openSecureChannelResponseType,
    enumerationType 307,
    enumerationType 852,
    -- QueryNextResponse, LocaleId, DiscoveryConfiguration, ActivateSessionResponse,
    -- EndpointUrlListDataType, FilterOperator
    structType 115 622 624 112 [member 90, arrayMember 56, member 14],
    structType 116 295 0 8 [member 11],
    overlayableStruct 117 12890 12900 4 [],
    structType 118 468 470 120 [member 90, member 14, arrayMember 18, arrayMember 24],
    structType 119 11943 11957 8 [arrayMember 11],
    enumerationType 576,
    -- QueryNextRequest, WriteResponse, BrowseNextRequest, CreateSubscriptionRequest, EnumField,
    -- VariableTypeAttributes
    structType 121 619 621 104 [member 31, member 0, member 14],
    structType 122 674 676 112 [member 90, arrayMember 18, arrayMember 24],
    structType 123 531 533 104 [member 31, member 0, arrayMember 14],
    structType 124 785 787 112 [member 31, member 10, member 6, member 6, member 6, member 0,
      member 2],
    structType 125 102 14845 48 [member 7, member 20, member 20, member 11],
    structType 126 364 366 108 [member 6, member 20, member 20, member 6, member 6, member 23,
      member 16, member 5, arrayMember 6, member 0],
    -- BrowsePathResult, ModifySubscriptionResponse, RedundantServerDataType,
    -- PublishedVariableDataType, RegisterNodesResponse, CloseSessionRequest
    structType 127 549 551 12 [member 18, arrayMember 29],
    structType 128 794 796 112 [member 90, member 10, member 6, member 6],
    structType 129 853 855 16 [member 11, member 2, member 114],
    structType 130 14273 14323 96 [member 16, member 6, member 10, member 6, member 10,
      member 11, member 23, arrayMember 19],
    structType 131 561 563 104 [member 90, arrayMember 16],
    structType 132 471 473 96 [member 31, member 0],
    -- ModifyMonitoredItemsResponse, ModifySubscriptionRequest,
    -- ServerDiagnosticsSummaryDataType, UserTokenPolicy, ReferenceTypeAttributes, BrowsePath
    structType 133 764 766 112 [member 90, arrayMember 32, arrayMember 24],
    structType 134 791 793 120 [member 31, member 6, member 10, member 6, member 6, member 6,
      member 2],
    overlayableStruct 135 859 861 48 [member 6, member 6, member 6, member 6, member 6,
      member 6, member 6, member 6, member 6, member 6, member 6, member 6],
    structType 136 304 306 36 [member 11, member 108, member 11, member 11, member 11],
    structType 137 367 369 64 [member 6, member 20, member 20, member 6, member 6, member 0,
      member 0, member 20],
    structType 138 543 545 32 [member 16, member 96],
    -- SetMonitoringModeRequest, UnregisterNodesResponse, WriteRequest, ObjectAttributes,
    -- BrowseResultMask, BrowseDescription
    structType 139 767 769 104 [member 31, member 6, member 41, arrayMember 6],
    structType 140 567 569 96 [member 90],
    structType 141 671 673 96 [member 31, arrayMember 64],
    structType 142 352 354 48 [member 6, member 20, member 20, member 6, member 6, member 2],
    enumerationType 517,
    structType 144 514 516 64 [member 16, member 46, member 16, member 0, member 6, member 6],
    -- Duration, SetTriggeringRequest, SessionSecurityDiagnosticsDataType, RepublishRequest,
    -- GetEndpointsRequest, PublishRequest
    structType 145 290 0 8 [member 10],
    structType 146 773 775 112 [member 31, member 6, member 6, arrayMember 6, arrayMember 6],
    structType 147 868 870 84 [member 16, member 11, arrayMember 11, member 11, member 11,
      member 11, member 66, member 11, member 14],
    structType 148 830 832 96 [member 31, member 6, member 6],
    structType 149 426 428 112 [member 31, member 11, arrayMember 11, arrayMember 11],
    structType 150 824 826 96 [member 31, arrayMember 86],
    -- DeleteSubscriptionsResponse, AddNodesResponse, DataChangeNotification,
    -- CloseSecureChannelResponse, ModifyMonitoredItemsRequest, SetMonitoringModeResponse
    structType 151 848 850 112 [member 90, arrayMember 18, arrayMember 24],
    structType 152 489 491 112 [member 90, arrayMember 35, arrayMember 24],
    structType 153 809 811 16 [arrayMember 83, arrayMember 24],
    structType 154 453 455 96 [member 90],
    structType 155 761 763 104 [member 31, member 6, member 60, arrayMember 103],
    structType 156 770 772 112 [member 90, arrayMember 18, arrayMember 24],
    -- FindServersRequest, FieldMetaData, ReferenceDescription, SetPublishingModeResponse,
    -- ContentFilterResult, RegisterServerResponse
    structType 157 420 422 112 [member 31, member 11, arrayMember 11, arrayMember 11],
    structType 158 14524 14839 96 [member 11, member 20, member 26, member 2, member 16,
      member 5, arrayMember 6, member 6, member 13, arrayMember 48],
    structType 159 518 520 132 [member 16, member 0, member 17, member 19, member 20, member 80,
      member 17],
    structType 160 800 802 112 [member 90, arrayMember 18, arrayMember 24],
    structType 161 607 609 16 [arrayMember 53, arrayMember 24],
    structType 162 438 440 96 [member 90],
    -- AddReferencesItem, QueryDataDescription, CreateSubscriptionResponse,
    -- StructureDescription, NetworkGroupDataType, EnumDefinition
    structType 163 379 381 100 [member 16, member 16, member 0, member 11, member 17,
      member 80],
    structType 164 570 572 20 [member 96, member 6, member 11],
    structType 165 788 790 120 [member 90, member 6, member 10, member 6, member 6],
    structType 166 15487 126 96 [member 16, member 19, member 101],
    structType 167 11944 11958 16 [member 11, arrayMember 119],
    structType 168 100 123 8 [arrayMember 125],
    -- DeleteReferencesResponse, CreateMonitoredItemsResponse, CallResponse,
    -- DeleteNodesResponse, RepublishResponse, MonitoredItemCreateRequest
    structType 169 507 509 112 [member 90, arrayMember 18, arrayMember 24],
    structType 170 752 754 112 [member 90, arrayMember 59, arrayMember 24],
    structType 171 713 715 112 [member 90, arrayMember 43, arrayMember 24],
    structType 172 501 503 112 [member 90, arrayMember 18, arrayMember 24],
    structType 173 833 835 120 [member 90, member 37],
    structType 174 743 745 120 [member 88, member 41, member 67],
    -- DeleteReferencesRequest, ReadResponse, AddReferencesRequest, ReadRequest,
    -- OpenSecureChannelRequest, RegisterServer2Response
    structType 175 504 506 96 [member 31, arrayMember 63],
    readResponseType,
    structType 177 492 494 96 [member 31, arrayMember 163],
    readRequestType,
    openSecureChannelRequestType,
    structType 180 12194 12212 112 [member 90, arrayMember 18, arrayMember 24],
    -- AddNodesItem, NodeTypeDescription, ServerStatusDataType, AttributeOperand,
    -- AddReferencesResponse, EventFilterResult
    structType 181 376 378 184 [member 17, member 16, member 17, member 19, member 80,
      member 21, member 17],
    structType 182 573 575 48 [member 17, member 0, arrayMember 164],
    structType 183 862 864 96 [member 12, member 12, member 114, member 79, member 6,
      member 20],
    structType 184 598 600 52 [member 16, member 11, member 96, member 6, member 11],
    structType 185 495 497 112 [member 90, arrayMember 18, arrayMember 24],
    structType 186 734 736 32 [arrayMember 18, arrayMember 24, member 161],
    -- TranslateBrowsePathsToNodeIdsResponse, DataChangeFilter, ContentFilterElement,
    -- TranslateBrowsePathsToNodeIdsRequest, CloseSessionResponse, ApplicationDescription
    structType 187 555 557 112 [member 90, arrayMember 127, arrayMember 24],
    overlayableStruct 188 722 724 16 [member 78, member 6, member 10],
    structType 189 583 585 12 [member 120, arrayMember 21],
    structType 190 552 554 96 [member 31, arrayMember 138],
    structType 191 474 476 96 [member 90],
    structType 192 308 310 60 [member 11, member 11, member 20, member 113, member 11,
      member 11, arrayMember 11],
    -- SessionDiagnosticsDataType, ServiceFault, RegisteredServer, AggregateFilter,
    -- RegisterServerRequest, EndpointDescription
    structType 193 865 867 400 [member 16, member 11, member 192, member 11, member 11,
      arrayMember 11, member 10, member 6, member 12, member 12, member 6, member 6, member 6,
      member 104, member 6, member 104, member 104, member 104, member 104, member 104,
      member 104, member 104, member 104, member 104, member 104, member 104, member 104,
      member 104, member 104, member 104, member 104, member 104, member 104, member 104,
      member 104, member 104, member 104, member 104, member 104, member 104, member 104,
      member 104, member 104],
    serviceFaultType,
    structType 195 432 434 56 [member 11, member 11, arrayMember 20, member 113, member 11,
      arrayMember 11, member 11, member 0],
    structType 196 728 730 48 [member 12, member 16, member 10, member 99],
    structType 197 435 437 144 [member 31, member 195],
    structType 198 312 314 108 [member 11, member 192, member 14, member 66, member 11,
      arrayMember 136, member 11, member 2],
    -- CreateMonitoredItemsRequest, ContentFilter, QueryFirstResponse, AddNodesRequest,
    -- BrowseRequest, BrowseResult
    structType 199 749 751 104 [member 31, member 6, member 60, arrayMember 174],
    structType 200 586 588 8 [arrayMember 189],
    structType 201 616 618 144 [member 90, arrayMember 56, member 14, arrayMember 44,
      arrayMember 24, member 161],
    structType 202 486 488 96 [member 31, arrayMember 181],
    structType 203 525 527 144 [member 31, member 92, member 6, arrayMember 144],
    structType 204 522 524 20 [member 18, member 14, arrayMember 159],
    -- EnumDescription, RegisterServer2Request, CreateSessionRequest, EventFilter,
    -- DataSetMetaDataType, GetEndpointsResponse
    structType 205 15488 127 44 [member 16, member 19, member 168],
    structType 206 12193 12211 152 [member 31, member 195, arrayMember 21],
    structType 207 459 461 208 [member 31, member 192, member 11, member 11, member 11,
      member 14, member 14, member 10, member 6],
    structType 208 725 727 16 [arrayMember 54, member 200],
    structType 209 14523 124 80 [member 11, member 20, arrayMember 158, member 13,
      arrayMember 11, arrayMember 166, arrayMember 205, member 49],
    structType 210 429 431 104 [member 90, arrayMember 198],
    -- FindServersResponse, BrowseNextResponse, BrowseResponse, CreateSessionResponse,
    -- QueryFirstRequest
    structType 211 423 425 104 [member 90, arrayMember 192],
    structType 212 534 536 112 [member 90, arrayMember 204, arrayMember 24],
    structType 213 528 530 112 [member 90, arrayMember 204, arrayMember 24],
    structType 214 462 464 208 [member 90, member 16, member 16, member 10, member 14,
      member 14, arrayMember 198, arrayMember 25, member 73, member 6],
    structType 215 613 615 152 [member 31, member 92, arrayMember 182, member 200, member 6,
      member 6]]

def generatedType (i : Nat) : UaDataType :=
  generatedTypes.getD (i - uaBuiltinTypesCount) (structType i 0 0 0 [])

/-- The table has no entry behind these. -/
example : uaBuiltinTypesCount + generatedTypes.length = uaTypesCount := by decide +kernel

def tableEntry (i : Nat) : UaDataType :=
  if i < uaBuiltinTypesCount then builtinType i else generatedType i

theorem generatedType_cases (i : Nat) :
    generatedType i ∈ generatedTypes ∨ generatedType i = structType i 0 0 0 [] := by
  unfold generatedType
  rw [List.getD_eq_getElem?_getD]
  cases h : generatedTypes[i - uaBuiltinTypesCount]? with
  | none => exact Or.inr rfl
  | some type => exact Or.inl (List.mem_of_getElem? h)

theorem generatedType_builtin {i : Nat} (h : (generatedType i).builtin = true) :
    (generatedType i).typeIndex < uaBuiltinTypesCount ∧
      (generatedType i).binaryEncodingId = 0 ∧ (generatedType i).typeIdNamespace = 0 := by
  rcases generatedType_cases i with hmem | heq
  · have hall : ∀ type ∈ generatedTypes, type.builtin = true →
        type.typeIndex < uaBuiltinTypesCount ∧ type.binaryEncodingId = 0 ∧
          type.typeIdNamespace = 0 := by decide +kernel
    exact hall _ hmem h
  · rw [heq] at h
    cases h

theorem tableEntry_members (i : Nat) :
    ∀ m ∈ (tableEntry i).members, m.memberTypeIndex < uaTypesCount := by
  unfold tableEntry
  split_ifs with hbuiltin
  · show ∀ m ∈ builtinMembers i, _
    unfold builtinMembers
    split_ifs
    · decide
    · decide
    · intro m hm
      rw [List.mem_singleton.mp hm]
      exact Nat.lt_trans hbuiltin (by decide)
  · rcases generatedType_cases i with hmem | heq
    · have hall : ∀ type ∈ generatedTypes, ∀ m ∈ type.members,
          m.memberTypeIndex < uaTypesCount := by decide +kernel
      exact hall _ hmem
    · rw [heq]
      exact nofun

def uaTypesTable : UaTypeTable where
  types := (List.range uaTypesCount).map tableEntry
  builtins i hi := by
    refine ⟨builtinType i, ?_, rfl, rfl⟩
    rw [List.getElem?_map, List.getElem?_range (Nat.lt_trans hi (by decide)), Option.map_some,
      tableEntry, if_pos hi]
  builtinIndex type htype hbuiltin := by
    obtain ⟨i, -, rfl⟩ := List.mem_map.mp htype
    unfold tableEntry at hbuiltin ⊢
    split_ifs at hbuiltin ⊢ with hi
    · exact hi
    · exact (generatedType_builtin hbuiltin).1
  unencoded type htype hbuiltin := by
    obtain ⟨i, -, rfl⟩ := List.mem_map.mp htype
    unfold tableEntry at hbuiltin ⊢
    split_ifs at hbuiltin ⊢ with hi
    · exact ⟨rfl, rfl⟩
    · exact (generatedType_builtin hbuiltin).2
  memberIndex type htype := by
    obtain ⟨i, -, rfl⟩ := List.mem_map.mp htype
    rw [List.length_map, List.length_range]
    exact tableEntry_members i

theorem uaTypesTable_getElem? {i : Nat} (h : i < uaTypesCount) :
    uaTypesTable.types[i]? = some (tableEntry i) := by
  show ((List.range uaTypesCount).map tableEntry)[i]? = _
  rw [List.getElem?_map, List.getElem?_range h, Option.map_some]

end Opcua
end OpcuaGateway
