import Pkcs11Proxy.Proto.WireGrammar

namespace Pkcs11Proxy.Proto

open Lib

variable {wireType : Nat} {payload bytes rest : Bytes} {value : WireValue}

section Readers

variable (message : String)

def readLength (payload : Bytes) : Option (Bytes × Bytes) :=
  match readVarint message payload with
  | .ok (length, rest) => if rest.length < length.toNat then none else some (rest.take length.toNat, rest.drop length.toNat)
  | .error _ => none

def readFixed (size : Nat) (payload : Bytes) : Option (Bytes × Bytes) :=
  if payload.length < size then none else some (payload.take size, payload.drop size)

def readValue (wireType : Nat) (payload : Bytes) : Option (WireValue × Bytes) :=
  match wireType with
  | 0 =>
    match readVarint message payload with
    | .ok (value, rest) => some (.varint value, rest)
    | .error _ => none
  | 1 => (readFixed 8 payload).map fun parts => (.i64 parts.1, parts.2)
  | 2 => (readLength message payload).map fun parts => (.len parts.1, parts.2)
  | 5 => (readFixed 4 payload).map fun parts => (.i32 parts.1, parts.2)
  | _ => none

def readField (payload : Bytes) : Option (WireField × Bytes) :=
  match readTag message payload with
  | .ok (number, wireType, rest) => (readValue message wireType rest).map fun parts => (⟨number, parts.1⟩, parts.2)
  | .error _ => none

def parseFields : Nat → Bytes → Option (List WireField)
  | _, [] => some []
  | 0, _ :: _ => none
  | rounds + 1, byte :: payload =>
    (readField message (byte :: payload)).bind fun parts => (parseFields rounds parts.2).map fun fields => parts.1 :: fields

theorem takes_value_small (takes : takesValue wireType = true) : wireType < 8 := by
  simp only [takesValue, Bool.or_eq_true, decide_eq_true_eq] at takes
  omega

theorem wire_type_takes : takesValue value.wireType = true := by
  cases value <;> rfl

theorem tag_number (tag : UInt64) : (tag >>> 3).toNat = tag.toNat / 8 := by
  exact Nat.shiftRight_eq_div_pow tag.toNat 3

theorem tag_wire_type (tag : UInt64) : (tag &&& 7).toNat = tag.toNat % 8 := by
  exact Nat.and_two_pow_sub_one_eq_mod tag.toNat 3

theorem read_tag_iff (payload rest : Bytes) {number : UInt32} :
    readTag message payload = .ok (number, wireType, rest) ↔ ∃ bytes, payload = bytes ++ rest ∧
      IsVarint bytes (8 * number.toNat + wireType) ∧ 1 ≤ number.toNat ∧ number.toNat < 536870912 ∧ takesValue wireType = true := by
  rw [readTag, except_bind_ok]
  constructor
  · rintro ⟨⟨tag, after⟩, read, checked⟩
    obtain ⟨bytes, split, varint⟩ := (read_varint_iff message payload after).mp read
    simp only [tag_number, tag_wire_type] at checked
    split at checked
    · cases checked
    · split at checked
      · cases checked
      · split at checked
        · rename_i takes
          cases checked
          have number : (UInt32.ofNat (tag.toNat / 8)).toNat = tag.toNat / 8 := by
            rw [UInt32.toNat_ofNat']
            omega
          refine ⟨bytes, split, ?_, ?_, ?_, takes⟩
          · rw [number, Nat.div_add_mod]
            exact varint
          · omega
          · omega
        · cases checked
  · rintro ⟨bytes, split, varint, positive, bounded, takes⟩
    have small := takes_value_small takes
    have value : (UInt64.ofNat (8 * number.toNat + wireType)).toNat = 8 * number.toNat + wireType := by
      rw [UInt64.toNat_ofNat']
      omega
    refine ⟨(UInt64.ofNat (8 * number.toNat + wireType), rest), (read_varint_iff message payload rest).mpr ⟨bytes, split, ?_⟩, ?_⟩
    · rw [value]
      exact varint
    · have quotient : (8 * number.toNat + wireType) / 8 = number.toNat := by omega
      have remainder : (8 * number.toNat + wireType) % 8 = wireType := by omega
      have valued : ¬ (wireType = 3 ∨ wireType = 4) := by
        rintro (rfl | rfl) <;> cases takes
      simp only [tag_number, tag_wire_type, value, quotient, remainder]
      rw [if_neg (by omega), if_neg valued, if_pos takes, UInt32.ofNat_toNat]

theorem read_length_iff (payload : Bytes) {inner : Bytes} (rest : Bytes) :
    readLength message payload = some (inner, rest) ↔ ∃ length, payload = length ++ (inner ++ rest) ∧ IsVarint length inner.length := by
  rw [readLength]
  constructor
  · intro read
    split at read
    · rename_i size after varintRead
      obtain ⟨bytes, split, varint⟩ := (read_varint_iff message payload after).mp varintRead
      split at read
      · cases read
      · cases read
        refine ⟨bytes, ?_, ?_⟩
        · rw [List.take_append_drop]
          exact split
        · rw [List.length_take, Nat.min_eq_left (by omega)]
          exact varint
    · cases read
  · rintro ⟨bytes, split, varint⟩
    have value : (UInt64.ofNat inner.length).toNat = inner.length := by
      exact Nat.mod_eq_of_lt varint.fits
    have read := (read_varint_iff message payload (inner ++ rest)).mpr ⟨bytes, split, by rw [value]; exact varint⟩
    rw [read]
    simp only [value, List.length_append]
    rw [if_neg (by omega), List.take_left, List.drop_left]

theorem read_fixed_iff {size : Nat} :
    readFixed size payload = some (bytes, rest) ↔ payload = bytes ++ rest ∧ bytes.length = size := by
  rw [readFixed]
  constructor
  · intro read
    split at read
    · cases read
    · cases read
      refine ⟨(List.take_append_drop _ _).symm, ?_⟩
      rw [List.length_take]
      omega
  · rintro ⟨rfl, rfl⟩
    rw [if_neg (by simp), List.take_left, List.drop_left]

theorem read_value_sound (read : readValue message wireType payload = some (value, rest)) :
    ∃ bytes, value.wireType = wireType ∧ payload = bytes ++ rest ∧ ValueBytes value bytes := by
  rw [readValue.eq_def] at read
  split at read
  · split at read
    · rename_i number after varintRead
      cases read
      obtain ⟨bytes, split, varint⟩ := (read_varint_iff message payload rest).mp varintRead
      exact ⟨bytes, rfl, split, .varint number bytes varint⟩
    · cases read
  · obtain ⟨⟨bytes, after⟩, fixed, same⟩ := Option.map_eq_some_iff.mp read
    cases same
    obtain ⟨split, eight⟩ := read_fixed_iff.mp fixed
    exact ⟨bytes, rfl, split, .i64 bytes eight⟩
  · obtain ⟨⟨inner, after⟩, sized, same⟩ := Option.map_eq_some_iff.mp read
    cases same
    obtain ⟨length, split, varint⟩ := (read_length_iff message payload after).mp sized
    exact ⟨length ++ inner, rfl, by rw [List.append_assoc]; exact split, .len inner length varint⟩
  · obtain ⟨⟨bytes, after⟩, fixed, same⟩ := Option.map_eq_some_iff.mp read
    cases same
    obtain ⟨split, four⟩ := read_fixed_iff.mp fixed
    exact ⟨bytes, rfl, split, .i32 bytes four⟩
  · cases read

theorem read_value_complete (encoded : ValueBytes value bytes) :
    readValue message value.wireType (bytes ++ rest) = some (value, rest) := by
  cases encoded with
  | varint number bytes varint =>
    have read := (read_varint_iff message (bytes ++ rest) rest).mpr ⟨bytes, rfl, varint⟩
    rw [WireValue.wireType, readValue, read]
  | i64 bytes eight =>
    rw [WireValue.wireType, readValue, read_fixed_iff.mpr ⟨rfl, eight⟩]
    rfl
  | len inner length varint =>
    have read := (read_length_iff message (length ++ inner ++ rest) rest).mpr ⟨length, List.append_assoc _ _ _, varint⟩
    rw [WireValue.wireType, readValue, read]
    rfl
  | i32 bytes four =>
    rw [WireValue.wireType, readValue, read_fixed_iff.mpr ⟨rfl, four⟩]
    rfl

variable {field : WireField}

theorem read_field_iff (payload rest : Bytes) :
    readField message payload = some (field, rest) ↔ ∃ tag value, payload = tag ++ (value ++ rest) ∧ FieldBytes field tag value := by
  rw [readField]
  constructor
  · intro read
    split at read
    · rename_i number wireType after tagRead
      obtain ⟨⟨value, last⟩, valueRead, same⟩ := Option.map_eq_some_iff.mp read
      cases same
      obtain ⟨tag, split, varint, positive, bounded, -⟩ := (read_tag_iff message payload after).mp tagRead
      obtain ⟨bytes, typed, follows, encoded⟩ := read_value_sound message valueRead
      rw [follows] at split
      exact ⟨tag, bytes, split, ⟨positive, bounded⟩, by rw [typed]; exact varint, encoded⟩
    · cases read
  · rintro ⟨tag, value, rfl, encoded⟩
    have tagRead := (read_tag_iff message (tag ++ (value ++ rest)) (value ++ rest)).mpr
      ⟨tag, rfl, encoded.tagged, encoded.numbered.1, encoded.numbered.2, wire_type_takes⟩
    rw [tagRead]
    simp [read_value_complete message encoded.encoded]

theorem field_consumes {tag value : Bytes} (rest : Bytes) (encoded : FieldBytes field tag value) :
    rest.length < (tag ++ (value ++ rest)).length := by
  have nonempty := varint_nonempty encoded.tagged
  simp only [List.length_append]
  omega

theorem encodes_nil {fields : List WireField} (encoded : Encodes fields []) : fields = [] := by
  generalize shape : ([] : Bytes) = payload at encoded
  cases encoded with
  | nil => rfl
  | cons field fields tag value rest first others =>
    have consumed := field_consumes rest first
    rw [← shape] at consumed
    exact absurd consumed (Nat.not_lt_zero _)

theorem parse_fields_iff (rounds : Nat) (payload : Bytes) (enough : payload.length ≤ rounds) (fields : List WireField) :
    parseFields message rounds payload = some fields ↔ Encodes fields payload := by
  induction rounds generalizing payload fields with
  | zero =>
    rw [List.eq_nil_of_length_eq_zero (Nat.le_zero.mp enough), parseFields]
    constructor
    · intro parsed
      cases parsed
      exact .nil
    · intro encoded
      rw [encodes_nil encoded]
  | succ rounds ih =>
    cases payload with
    | nil =>
      rw [parseFields]
      constructor
      · intro parsed
        cases parsed
        exact .nil
      · intro encoded
        rw [encodes_nil encoded]
    | cons byte payload =>
      rw [parseFields]
      constructor
      · intro parsed
        obtain ⟨⟨field, rest⟩, fieldRead, parsed⟩ := Option.bind_eq_some_iff.mp parsed
        obtain ⟨others, restParsed, rfl⟩ := Option.map_eq_some_iff.mp parsed
        obtain ⟨tag, value, split, encoded⟩ := (read_field_iff message (byte :: payload) rest).mp fieldRead
        have consumed := field_consumes rest encoded
        rw [← split] at consumed
        rw [split]
        exact .cons field others tag value rest encoded ((ih rest (by omega) others).mp restParsed)
      · intro encoded
        generalize shape : byte :: payload = whole at encoded enough ⊢
        cases encoded with
        | nil => cases shape
        | cons field others tag value rest first encodedRest =>
          have consumed := field_consumes rest first
          have fieldRead := (read_field_iff message (tag ++ (value ++ rest)) rest).mpr ⟨tag, value, rfl, first⟩
          rw [fieldRead, Option.bind_some, (ih rest (by omega) others).mpr encodedRest]
          rfl

end Readers

inductive Slot where
  | number (number : UInt32)
  | oneof (index : UInt32)
deriving DecidableEq, Repr

def slotOf (descriptor : MessageDesc) (field : WireField) : Option Slot :=
  match descriptor.field field.number with
  | none => none
  | some known =>
    if known.oneof ≠ noOneof then some (.oneof known.oneof)
    else if known.repeated then none
    else some (.number field.number)

inductive Keep where
  | first
  | last
deriving DecidableEq, Repr

def keepFirst (slot : WireField → Option Slot) : List WireField → List WireField
  | [] => []
  | field :: rest => field :: (keepFirst slot rest).filter fun later => slot later = none || slot later ≠ slot field

def Keep.fields (slot : WireField → Option Slot) (fields : List WireField) : Keep → List WireField
  | .first => keepFirst slot fields
  | .last => (keepFirst slot fields.reverse).reverse

inductive Decoded where
  | scalar (value : WireValue)
  | message (fields : List (UInt32 × Decoded))

def decodeAll (decode : WireField → Option Decoded) : List WireField → Option (List (UInt32 × Decoded))
  | [] => some []
  | field :: rest => (decode field).bind fun value => (decodeAll decode rest).map fun others => (field.number, value) :: others

def decodeKnown (nested : UInt32 → Bytes → Option Decoded) (known : FieldDesc) (value : WireValue) : Option Decoded :=
  match value with
  | .len inner => if known.nested ≠ noNested then nested known.nested inner else some (.scalar value)
  | _ => some (.scalar value)

def decodeField (descriptor : MessageDesc) (nested : UInt32 → Bytes → Option Decoded) (field : WireField) : Option Decoded :=
  match descriptor.field field.number with
  | some known => decodeKnown nested known field.value
  | none => none

-- A decoder that keeps the first or the last occurrence of each singular field and oneof
-- and drops what it does not know.
def decodeMessage (keep : Keep) (table : DescriptorTable) : Nat → UInt32 → Bytes → Option Decoded
  | 0, _, _ => none
  | levels + 1, index, payload =>
    (table[index.toNat]?).bind fun descriptor => (parseFields descriptor.name payload.length payload).bind fun fields =>
      (decodeAll (decodeField descriptor (decodeMessage keep table levels))
        ((keep.fields (slotOf descriptor) fields).filter fun field => (descriptor.field field.number).isSome)).map .message

end Pkcs11Proxy.Proto
