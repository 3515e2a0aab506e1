import Pkcs11Proxy.Lib.Lines
import Pkcs11Proxy.Types.CkRv

namespace Pkcs11Proxy.Types

open Lib

-- `VALUE`, `PRIVATE_EXPONENT`, `PRIME_1`, `PRIME_2`, `EXPONENT_1`, `EXPONENT_2` and
-- `COEFFICIENT`.
def valueBearingSecret : List UInt64 := [0x11, 0x123, 0x124, 0x125, 0x126, 0x127, 0x128]

def isValueBearingSecret (attrType : UInt64) : Bool := valueBearingSecret.contains attrType

-- `WRAP_TEMPLATE`, `UNWRAP_TEMPLATE` and `DERIVE_TEMPLATE`.
def isAttributeTemplate (attrType : UInt64) : Bool := [0x40000211, 0x40000212, 0x40000213].contains attrType

-- From `CLASS` to `TRUST_OCSP_SIGNING`, in the order of the source.
def ulongAttributes : List UInt64 :=
  [0x0, 0x80, 0x87, 0x88, 0x8c, 0x100, 0x201, 0x121, 0x133, 0x134, 0x160, 0x161, 0x166, 0x220, 0x221, 0x222, 0x224,
    0x225, 0x226, 0x227, 0x300, 0x400, 0x401, 0x402, 0x403, 0x404, 0x406, 0x500, 0x601, 0x603, 0x60f, 0x610, 0x611,
    0x617, 0x618, 0x619, 0x61c, 0x61d, 0x61e, 0x61f, 0x621, 0x623, 0x624, 0x62c, 0x62d, 0x62e, 0x62f, 0x630, 0x631,
    0x632]

def isUlong (attrType : UInt64) : Bool := ulongAttributes.contains attrType

-- `ALLOWED_MECHANISMS`, `HSS_LMS_TYPES` and `HSS_LMOTS_TYPES`.
def isUlongArray (attrType : UInt64) : Bool := [0x40000600, 0x61a, 0x61b].contains attrType

def vendorDefined : UInt64 := 0x80000000

def attributeOutputsDefined (rv : CkRv) : Bool :=
  [CkRv.ok, CkRv.attributeSensitive, CkRv.attributeTypeInvalid, CkRv.bufferTooSmall].contains rv

mutual

inductive CkAttributeValue where
  | bool (value : Bool)
  | ulong (value : UInt64)
  | bytes (value : Bytes)
  | string (value : Bytes)
  | nestedTemplate (attributes : List CkAttribute)

inductive CkAttribute where
  | mk (attrType : UInt64) (value : Option CkAttributeValue)

end

def CkAttribute.attrType : CkAttribute → UInt64
  | .mk attrType _ => attrType

def CkAttribute.value : CkAttribute → Option CkAttributeValue
  | .mk _ value => value

def CkAttribute.withValue (entry : CkAttribute) (value : Option CkAttributeValue) : CkAttribute := .mk entry.attrType value

def CkAttributeValue.isNested : CkAttributeValue → Bool
  | .nestedTemplate _ => true
  | _ => false

mutual

inductive WireAttributeValue where
  | boolValue (value : Bool)
  | ulongValue (value : UInt64)
  | bytesValue (value : Bytes)
  | stringValue (value : Bytes)
  | nestedTemplate (attributes : List WireAttribute)

inductive WireAttribute where
  | mk (attrType : UInt64) (value : Option WireAttributeValue)

end

mutual

def convertValue : WireAttributeValue → Except CkRv CkAttributeValue
  | .boolValue value => .ok (.bool value)
  | .ulongValue value => .ok (.ulong value)
  | .bytesValue value => .ok (.bytes value)
  | .stringValue value => .ok (.string value)
  | .nestedTemplate attributes => do
      let subs ← convertTemplate attributes
      -- one level of nesting
      if subs.any fun sub => sub.value.any CkAttributeValue.isNested then throw .attributeValueInvalid
      return .nestedTemplate subs

def convertAttribute : WireAttribute → Except CkRv CkAttribute
  | .mk attrType none => .ok (.mk attrType none)
  | .mk attrType (some value) => do
      let converted ← convertValue value
      return .mk attrType (some converted)

def convertTemplate : List WireAttribute → Except CkRv (List CkAttribute)
  | [] => .ok []
  | entry :: rest => do
      let first ← convertAttribute entry
      let others ← convertTemplate rest
      return first :: others

end

inductive CkAttributeQuery where
  | mk (attrType : UInt64) (bufferPresent : Bool) (bufferLen : UInt64) (nested : Option (List CkAttributeQuery))

namespace CkAttributeQuery

def attrType : CkAttributeQuery → UInt64
  | .mk attrType _ _ _ => attrType

def bufferPresent : CkAttributeQuery → Bool
  | .mk _ bufferPresent _ _ => bufferPresent

def bufferLen : CkAttributeQuery → UInt64
  | .mk _ _ bufferLen _ => bufferLen

def nested : CkAttributeQuery → Option (List CkAttributeQuery)
  | .mk _ _ _ nested => nested

end CkAttributeQuery

inductive CkAttributeQueryResult where
  | mk (attrType returnedLen : UInt64) (applyReturnedLen applyType : Bool) (value : Option Bytes) (ckRv : Option CkRv)
      (nested : Option (List CkAttributeQueryResult))

namespace CkAttributeQueryResult

def attrType : CkAttributeQueryResult → UInt64
  | .mk attrType _ _ _ _ _ _ => attrType

def returnedLen : CkAttributeQueryResult → UInt64
  | .mk _ returnedLen _ _ _ _ _ => returnedLen

def applyReturnedLen : CkAttributeQueryResult → Bool
  | .mk _ _ applyReturnedLen _ _ _ _ => applyReturnedLen

def applyType : CkAttributeQueryResult → Bool
  | .mk _ _ _ applyType _ _ _ => applyType

def value : CkAttributeQueryResult → Option Bytes
  | .mk _ _ _ _ value _ _ => value

def ckRv : CkAttributeQueryResult → Option CkRv
  | .mk _ _ _ _ _ ckRv _ => ckRv

def nested : CkAttributeQueryResult → Option (List CkAttributeQueryResult)
  | .mk _ _ _ _ _ _ nested => nested

end CkAttributeQueryResult

end Pkcs11Proxy.Types
