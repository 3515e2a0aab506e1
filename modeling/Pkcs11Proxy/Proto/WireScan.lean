import Mathlib.Data.String.Basic
import Pkcs11Proxy.Lib.BinarySearch
import Pkcs11Proxy.Lib.Lines

namespace Pkcs11Proxy.Proto

open Lib

structure FieldDesc where
  number : UInt32
  repeated : Bool
  nested : UInt32
  oneof : UInt32
deriving DecidableEq, Repr

structure MessageDesc where
  name : String
  fields : List FieldDesc
deriving DecidableEq, Repr

def noNested : UInt32 := 0xFFFFFFFF

def noOneof : UInt32 := 0xFFFFFFFF

abbrev DescriptorTable := List MessageDesc

def MessageDesc.field (descriptor : MessageDesc) (number : UInt32) : Option FieldDesc :=
  (binarySearchByKey (fun field => field.number.toNat) number.toNat descriptor.fields).bind fun position => descriptor.fields[position]?

inductive ProtectedDecodeViolation where
  | duplicateField (message : String) (number : UInt32)
  | oneofRepeated (message : String)
  | groupsRejected (message : String)
  | truncated (message : String)
  | depthExceeded
deriving DecidableEq, Repr

-- A scan may also panic: on an index outside the table.
inductive ScanStop where
  | rejected (violation : ProtectedDecodeViolation)
  | panicked
deriving DecidableEq, Repr

abbrev Scan (α : Type) := Except ScanStop α

def maxDepth : Nat := 64

structure Seen where
  numbers : List UInt32
  oneofs : List UInt32
deriving DecidableEq, Repr

section

variable (message : String)

def truncated {α : Type} : Scan α := .error (.rejected (.truncated message))

def readVarintFrom : Nat → UInt64 → Bytes → Scan (UInt64 × Bytes)
  | 0, _, _ => truncated message
  | _ + 1, _, [] => truncated message
  | left + 1, value, byte :: payload =>
    let shift := 7 * (9 - left)
    -- A bit that the shift would drop is rejected.
    if shift = 63 ∧ byte &&& 0x7e ≠ 0 then truncated message
    else
      let next := value ||| ((byte &&& 0x7f).toUInt64 <<< UInt64.ofNat shift)
      if byte &&& 0x80 = 0 then .ok (next, payload) else readVarintFrom left next payload

def readVarint (payload : Bytes) : Scan (UInt64 × Bytes) := readVarintFrom message 10 0 payload

def advance (payload : Bytes) (length : Nat) : Scan Bytes :=
  if payload.length < length then truncated message else .ok (payload.drop length)

def takesValue (wireType : Nat) : Bool := wireType = 0 || wireType = 1 || wireType = 2 || wireType = 5

def readTag (payload : Bytes) : Scan (UInt32 × Nat × Bytes) := do
  let (tag, rest) ← readVarint message payload
  let rawNumber := (tag >>> 3).toNat
  let wireType := (tag &&& 7).toNat
  if rawNumber = 0 ∨ 536870912 ≤ rawNumber then truncated message
  else if wireType = 3 ∨ wireType = 4 then .error (.rejected (.groupsRejected message))
  else if takesValue wireType then .ok (UInt32.ofNat rawNumber, wireType, rest)
  else truncated message

end

section

variable (descriptor : MessageDesc)

def checkOccurrence (field : Option FieldDesc) (number : UInt32) (seen : Seen) : Scan Seen :=
  match field with
  | none => .ok seen
  | some field =>
    if field.oneof ≠ noOneof then
      if seen.oneofs.contains field.oneof then .error (.rejected (.oneofRepeated descriptor.name))
      else .ok { seen with oneofs := seen.oneofs ++ [field.oneof] }
    else if field.repeated then .ok seen
    else if seen.numbers.contains number then .error (.rejected (.duplicateField descriptor.name number))
    else .ok { seen with numbers := seen.numbers ++ [number] }

variable (nested : UInt32 → Bytes → Scan Unit)

def scanNested (field : Option FieldDesc) (value : Bytes) : Scan Unit :=
  match field with
  | none => .ok ()
  | some field => if field.nested ≠ noNested then nested field.nested value else .ok ()

def scanLength (field : Option FieldDesc) (payload : Bytes) : Scan Bytes := do
  let (length, rest) ← readVarint descriptor.name payload
  if rest.length < length.toNat then truncated descriptor.name
  else do
    let _ ← scanNested nested field (rest.take length.toNat)
    return rest.drop length.toNat

def scanValue (field : Option FieldDesc) (wireType : Nat) (payload : Bytes) : Scan Bytes :=
  match wireType with
  | 0 => (readVarint descriptor.name payload).map Prod.snd
  | 1 => advance descriptor.name payload 8
  | 2 => scanLength descriptor nested field payload
  | 5 => advance descriptor.name payload 4
  | _ => truncated descriptor.name

-- The loop of one message level. Each round consumes at least its tag, so the payload's
-- length bounds the rounds.
def scanFields : Nat → Bytes → Seen → Scan Unit
  | _, [], _ => .ok ()
  | 0, _ :: _, _ => .error .panicked
  | rounds + 1, byte :: payload, seen => do
      let (number, wireType, rest) ← readTag descriptor.name (byte :: payload)
      let field := descriptor.field number
      let seen ← checkOccurrence descriptor field number seen
      let rest ← scanValue descriptor nested field wireType rest
      scanFields rounds rest seen

end

def validateLevels (table : DescriptorTable) : Nat → UInt32 → Bytes → Scan Unit
  | 0, _, _ => .error (.rejected .depthExceeded)
  | levels + 1, index, payload =>
    match table[index.toNat]? with
    | none => .error .panicked
    | some descriptor => scanFields descriptor (validateLevels table levels) payload.length payload ⟨[], []⟩

def validateMessage (table : DescriptorTable) (index : UInt32) (payload : Bytes) (depth : Nat) : Scan Unit :=
  validateLevels table (maxDepth + 1 - depth) index payload

-- A path that names no method of the service passes.
def validateRequestWire (table : DescriptorTable) (requests : List (String × UInt32)) (path : String) (payload : Bytes) : Scan Unit :=
  match (binarySearchByKey Prod.fst path requests).bind fun position => requests[position]? with
  | some (_, index) => validateMessage table index payload 0
  | none => .ok ()

end Pkcs11Proxy.Proto
