import Pkcs11Proxy.Types.Attribute
import Pkcs11Proxy.Types.Layout
import Pkcs11Proxy.Types.Width

namespace Pkcs11Proxy.Shim

open Lib Pkcs11Proxy.Types

def maxSerializableBytes : Nat := 512 * 1024 * 1024

def maxTemplateCount : Nat := 65536

section

variable (abi : ParamAbi) (memory : Memory)

-- `rv as CK_RV`
def rvErr (rv : CkRv) : Nat := rv.value.toNat % abi.ulongLimit

def fieldOffset (fields : List FieldClass) (index : Nat) : Nat :=
  ((placed (FieldClass.size abi) (FieldClass.align abi) 0 fields).map Prod.snd).getD index 0

def typeField (pointer : Nat) : Nat := pointer + fieldOffset abi attributeFields 0

def valueField (pointer : Nat) : Nat := pointer + fieldOffset abi attributeFields 1

def lengthField (pointer : Nat) : Nat := pointer + fieldOffset abi attributeFields 2

def readUlong (address : Nat) : Nat := wordOf (readBytes memory address abi.ulongSize)

def readPointer (address : Nat) : Nat := wordOf (readBytes memory address abi.pointerSize)

end

def isUlongTyped (attrType : UInt64) : Bool := isUlong attrType || isUlongArray attrType

def bridgeRequestBufferLen (attrType : UInt64) (clientLen clientWidth backendWidth : Nat) : Except WidthError Nat :=
  if clientWidth = backendWidth ∨ ¬ isUlongTyped attrType then .ok clientLen
  else translateUlongLen clientLen clientWidth backendWidth

-- The byte order is the client's own, which the backend shares.
def bridgeOutputValue (order : ByteOrder) (attrType : UInt64) (value : Option Bytes) (returnedLen backendWidth clientWidth : Nat) :
    Except WidthError (Option Bytes × Nat) :=
  if backendWidth = clientWidth ∨ ¬ isUlongTyped attrType then .ok (value, returnedLen)
  else do
    let clientLen ← translateUlongLen returnedLen backendWidth clientWidth
    match value with
    | some bytes => do
        let clientValue ← reencodeUlong bytes backendWidth clientWidth order
        return (some clientValue, clientLen)
    | none => return (none, clientLen)

structure CapturedAttribute where
  query : CkAttributeQuery
  value : Nat
  capacity : Nat
  length : Nat
  attrType : Nat

-- The entries of a template are captured at one level: `capture` does not look into an
-- entry of an entry.
structure AttributeCall where
  entry : CapturedAttribute
  nested : Option (List CapturedAttribute)

section

variable (abi : ParamAbi) (memory : Memory) (clientWidth backendWidth backendStride : Nat)

section

variable (pointer : Nat)

def attributeType : UInt64 := UInt64.ofNat (readUlong abi memory (typeField abi pointer))

def attributeValue : Nat := readPointer abi memory (valueField abi pointer)

-- The length of a NULL value is output only and not read.
def attributeCapacity : Nat :=
  if attributeValue abi memory pointer = 0 then 0 else readUlong abi memory (lengthField abi pointer)

def capturedEntry (bufferLen : Nat) (nested : Option (List CkAttributeQuery)) : CapturedAttribute where
  query := .mk (attributeType abi memory pointer) (decide (attributeValue abi memory pointer ≠ 0)) (UInt64.ofNat bufferLen) nested
  value := attributeValue abi memory pointer
  capacity := attributeCapacity abi memory pointer
  length := lengthField abi pointer
  attrType := typeField abi pointer

def captureNested : Except CkRv CapturedAttribute :=
  if attributeCapacity abi memory pointer > maxSerializableBytes then .error .hostMemory
  else if clientWidth ≠ backendWidth ∧ attributeValue abi memory pointer ≠ 0 then .error .functionNotSupported
  else .ok (capturedEntry abi memory pointer (attributeCapacity abi memory pointer) none)

def captureTemplateValue : Except CkRv AttributeCall :=
  let count := attributeCapacity abi memory pointer / attributeStride abi
  if attributeCapacity abi memory pointer % attributeStride abi ≠ 0 ∨ count > maxTemplateCount then .error .argumentsBad
  else do
    let captured ← mapChecked (fun index =>
      captureNested abi memory clientWidth backendWidth (attributeValue abi memory pointer + index * attributeStride abi)) (List.range count)
    if count * backendStride < UInt64.size then
      return ⟨capturedEntry abi memory pointer (count * backendStride) (some (captured.map CapturedAttribute.query)), some captured⟩
    else .error .hostMemory

def requestError : WidthError → CkRv
  | .lengthOverflow => .hostMemory
  | _ => .generalError

def capture : Except CkRv AttributeCall :=
  if attributeCapacity abi memory pointer > maxSerializableBytes then .error .hostMemory
  else if isAttributeTemplate (attributeType abi memory pointer) then
    if attributeValue abi memory pointer = 0 then
      .ok ⟨capturedEntry abi memory pointer (attributeCapacity abi memory pointer) none, none⟩
    else captureTemplateValue abi memory clientWidth backendWidth backendStride pointer
  else
    match bridgeRequestBufferLen (attributeType abi memory pointer) (attributeCapacity abi memory pointer) clientWidth backendWidth with
    | .ok bufferLen => .ok ⟨capturedEntry abi memory pointer bufferLen none, none⟩
    | .error error => .error (requestError error)

end

def captureTemplate (pTemplate count : Nat) : Except CkRv (List AttributeCall) :=
  mapChecked (fun index => capture abi memory clientWidth backendWidth backendStride (pTemplate + index * attributeStride abi))
    (List.range count)

end

structure AttributeWrite where
  valuePointer : Nat
  value : Option Bytes
  lengthPointer : Nat
  length : Option Nat
  typePointer : Nat
  attrType : Option Nat

section

variable (abi : ParamAbi) (order : ByteOrder) (clientWidth backendWidth backendStride : Nat)

def checkedLength (value : Nat) : Except CkRv Nat :=
  if value = canonicalUnavailable then .ok (abi.ulongLimit - 1)
  else if value < abi.ulongLimit then .ok value
  else .error .generalError

section

variable (entry : CapturedAttribute) (result : CkAttributeQueryResult)

def checkResult (nested valuesDefined : Bool) : Except CkRv (Option Nat) :=
  if (!nested && result.attrType != entry.query.attrType) ||
      (!result.applyReturnedLen && (result.returnedLen != 0 || result.value.isSome || result.nested.isSome)) ||
      (!valuesDefined && (result.value.isSome || result.applyType)) ||
      result.ckRv.any (fun rv => decide (rv.value.toNat ≥ abi.ulongLimit)) then .error .generalError
  else if nested && result.applyType then
    if result.attrType.toNat < abi.ulongLimit then .ok (some result.attrType.toNat) else .error .generalError
  else if nested && result.value.isSome then .error .generalError
  else .ok none

def valueMisfits (bytes : Bytes) : Bool :=
  !result.applyReturnedLen || decide (entry.value = 0) || decide (bytes.length ≠ result.returnedLen.toNat) ||
    decide (bytes.length > entry.query.bufferLen.toNat)

def resultType (nested : Bool) : UInt64 :=
  if nested && !result.applyType then vendorDefined else if nested then result.attrType else entry.query.attrType

-- A value too large for the client's CK_ULONG makes its attribute unavailable.
def bridgedResult (nested : Bool) : Except CkRv (Option Bytes × Nat) :=
  if result.applyReturnedLen then
    match bridgeOutputValue order (resultType entry result nested) result.value result.returnedLen.toNat backendWidth clientWidth with
    | .ok outcome => .ok outcome
    | .error .overflow => .ok (none, canonicalUnavailable)
    | .error _ => .error .generalError
  else .ok (none, result.returnedLen.toNat)

def prepareValue (nested : Bool) : Except CkRv (Option Bytes × Nat) :=
  if result.nested.isSome then .error .generalError
  else if result.value.any (valueMisfits entry result) then .error .generalError
  else do
    let (value, length) ← bridgedResult order clientWidth backendWidth entry result nested
    if value.any fun bytes => decide (bytes.length > entry.capacity) then .error .generalError else return (value, length)

def storedLength (length : Nat) : Except CkRv (Option Nat) :=
  if result.applyReturnedLen then do
    let stored ← checkedLength abi length
    return some stored
  else .ok none

def attributeWrite (value : Option Bytes) (length : Nat)
    (typeEffect : Option Nat) : Except CkRv AttributeWrite := do
  let stored ← storedLength abi result length
  return ⟨entry.value, value, entry.length, stored, entry.attrType, typeEffect⟩

end

def prepareNested (valuesDefined : Bool) (entry : CapturedAttribute) (result : CkAttributeQueryResult) : Except CkRv AttributeWrite := do
  let typeEffect ← checkResult abi entry result true valuesDefined
  let (value, length) ← prepareValue order clientWidth backendWidth entry result true
  attributeWrite abi entry result value length typeEffect

def templateLength (result : CkAttributeQueryResult) : Except CkRv Nat :=
  if result.applyReturnedLen ∧ result.returnedLen.toNat ≠ canonicalUnavailable then
    if backendStride = 0 ∨ result.returnedLen.toNat % backendStride ≠ 0 then .error .generalError
    else if result.returnedLen.toNat / backendStride * attributeStride abi < UInt64.size then
      .ok (result.returnedLen.toNat / backendStride * attributeStride abi)
    else .error .generalError
  else .ok result.returnedLen.toNat

def prepareEntries (valuesDefined : Bool) (calls : Option (List CapturedAttribute)) (results : Option (List CkAttributeQueryResult))
    (length : Nat) : Except CkRv (List AttributeWrite) :=
  match results with
  | none => .ok []
  | some results =>
    match calls with
    | none => .error .generalError
    | some calls =>
      if results.length > calls.length ∨ results.length * attributeStride abi ≠ length then .error .generalError
      else mapChecked (fun (entry, result) => prepareNested abi order clientWidth backendWidth valuesDefined entry result) (calls.zip results)

def prepareOne (valuesDefined : Bool) (call : AttributeCall) (result : CkAttributeQueryResult) : Except CkRv (List AttributeWrite) := do
  let typeEffect ← checkResult abi call.entry result false valuesDefined
  if isAttributeTemplate call.entry.query.attrType then
    if result.value.isSome then .error .generalError
    else do
      let length ← templateLength abi backendStride result
      let writes ← prepareEntries abi order clientWidth backendWidth valuesDefined call.nested result.nested length
      let write ← attributeWrite abi call.entry result none length typeEffect
      return writes ++ [write]
  else do
    let (value, length) ← prepareValue order clientWidth backendWidth call.entry result false
    let write ← attributeWrite abi call.entry result value length typeEffect
    return [write]

def prepare (calls : List AttributeCall) (results : List CkAttributeQueryResult) (rv : CkRv) : Except CkRv (List AttributeWrite × CkRv) :=
  if rv.value.toNat ≥ abi.ulongLimit then .error .generalError
  else if calls.length ≠ results.length then
    if rv ≠ .ok ∧ results = [] then .ok ([], rv) else .error .generalError
  else do
    let writes ← mapChecked (fun (call, result) =>
      prepareOne abi order clientWidth backendWidth backendStride (attributeOutputsDefined rv) call result) (calls.zip results)
    return (writes.flatten, rv)

def AttributeWrite.stores (write : AttributeWrite) : List Store :=
  write.value.toList.map (Store.mk write.valuePointer) ++
    write.attrType.toList.map (fun attrType => ⟨write.typePointer, wordBytes abi.ulongSize attrType⟩) ++
    write.length.toList.map fun length => ⟨write.lengthPointer, wordBytes abi.ulongSize length⟩

def commit (writes : List AttributeWrite) : List Store := writes.flatMap (AttributeWrite.stores abi)

-- The returned CK_RV of C_GetAttributeValue and its stores into caller memory.
structure AttributeReturn where
  rv : Nat
  stores : List Store

def finishGetAttributeValue : Except CkRv (List AttributeWrite × CkRv) → AttributeReturn
  | .ok (writes, rv) => ⟨rvErr abi rv, commit abi writes⟩
  | .error error => ⟨rvErr abi error, []⟩

end

end Pkcs11Proxy.Shim
