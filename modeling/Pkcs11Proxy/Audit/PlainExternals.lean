import Pkcs11Proxy.Audit.Recovery
import Pkcs11Proxy.Lib.ByteCodes
import Pkcs11Proxy.Lib.HashChain

namespace Pkcs11Proxy.Audit

open Lib

-- An instance of the external primitives that meets every law asked of them: a
-- braced tally as text, and a spelling of the input as its digest.
section Codes

def u64Code : PrefixCode UInt64 := PrefixCode.nat.map UInt64.ofNat UInt64.toNat fun _ => UInt64.ofNat_toNat

def u32Code : PrefixCode UInt32 := PrefixCode.nat.map UInt32.ofNat UInt32.toNat fun _ => UInt32.ofNat_toNat

def charCode : PrefixCode Char := PrefixCode.nat.map Char.ofNat Char.toNat Char.ofNat_toNat

def stringCode : PrefixCode String := charCode.list.map String.ofList String.toList fun _ => String.ofList_toList

def eventClassOf : Nat → EventClass
  | 0 => .auth
  | 1 => .keyMgmt
  | 2 => .admin
  | 3 => .dataPlane
  | 4 => .system
  | _ => .deny

def EventClass.rank : EventClass → Nat
  | .auth => 0
  | .keyMgmt => 1
  | .admin => 2
  | .dataPlane => 3
  | .system => 4
  | .deny => 5

def eventClassCode : PrefixCode EventClass := PrefixCode.nat.map eventClassOf EventClass.rank fun value => by cases value <;> rfl

abbrev StampFields := UInt32 × UInt64 × UInt64 × UInt64 × String
abbrev RequestFields := String × Option String × String × EventClass
abbrev ResultFields := Option UInt64 × Option UInt64 × Option String × UInt64 × UInt64 × Option UInt64

def recordOfFields (fields : StampFields × RequestFields × ResultFields) : AuditRecord :=
  let ((schemaVersion, seq, tsUnixMs, tsMonotonicNs, prevHash), (requestId, identity, method, eventClass),
    (slot, session, objectRef, ckRv, latencyUs, droppedCount)) := fields
  { schemaVersion, seq, tsUnixMs, tsMonotonicNs, prevHash, requestId, identity, method, eventClass, slot, session, objectRef, ckRv,
    latencyUs, droppedCount }

def AuditRecord.fields (record : AuditRecord) : StampFields × RequestFields × ResultFields :=
  ((record.schemaVersion, record.seq, record.tsUnixMs, record.tsMonotonicNs, record.prevHash),
    (record.requestId, record.identity, record.method, record.eventClass),
    (record.slot, record.session, record.objectRef, record.ckRv, record.latencyUs, record.droppedCount))

def recordCode : PrefixCode AuditRecord :=
  PrefixCode.map
    (.pair (u32Code.pair (u64Code.pair (u64Code.pair (u64Code.pair stringCode))))
      (.pair (stringCode.pair (stringCode.option.pair (stringCode.pair eventClassCode)))
        (u64Code.option.pair (u64Code.option.pair (stringCode.option.pair (u64Code.pair (u64Code.pair u64Code.option)))))))
    recordOfFields AuditRecord.fields fun _ => rfl

def checkpointCode : PrefixCode Checkpoint :=
  PrefixCode.map (u64Code.pair (stringCode.pair (u64Code.pair u64Code))) (fun (seq, head, ts, count) => ⟨seq, head, ts, count⟩)
    (fun cp => (cp.seq, cp.chainHeadHash, cp.tsUnixMs, cp.recordCount)) fun _ => rfl

def checkpointLineCode : PrefixCode CheckpointLine :=
  PrefixCode.map (checkpointCode.pair stringCode) (fun (cp, signature) => ⟨cp, signature⟩)
    (fun line => (line.checkpoint, line.signature)) fun _ => rfl

def anchorCode : PrefixCode AnchorFile :=
  PrefixCode.map (stringCode.pair (u64Code.pair .nat)) (fun (hash, seq, bytes) => ⟨hash, seq, bytes⟩)
    (fun anchor => (anchor.lastHash, anchor.lastSeq, anchor.activeBytes)) fun _ => rfl

def openBrace : UInt8 := 123
def closeBrace : UInt8 := 125

def bracedCodec {α : Type} (code : PrefixCode α) : JsonCodec α where
  enc value := openBrace :: (code.put value ++ [closeBrace])
  dec
    | [] => .error "unexpected end of input"
    | _ :: rest =>
      match code.take rest with
      | some (value, _) => .ok value
      | none => .error "expected value"

end Codes

section Laws

variable {α : Type} {code : PrefixCode α} {byte : UInt8}

theorem braced_bytes {value : α} (member : byte ∈ (bracedCodec code).enc value) :
    byte = openBrace ∨ byte = oneByte ∨ byte = zeroByte ∨ byte = closeBrace := by
  rcases List.mem_cons.mp member with first | rest
  · exact .inl first
  · rcases List.mem_append.mp rest with digit | last
    · have digits := code.tallied value byte digit
      tauto
    · exact .inr (.inr (.inr (List.mem_singleton.mp last)))

theorem utf8_letter (letter : byte = openBrace ∨ byte = oneByte ∨ byte = zeroByte ∨ byte = closeBrace) :
    isUtf8 [byte] = true := by
  rcases letter with rfl | rfl | rfl | rfl
  · exact decide_eq_true ⟨['\x7b'], by rfl⟩
  · exact decide_eq_true ⟨['1'], by rfl⟩
  · exact decide_eq_true ⟨['0'], by rfl⟩
  · exact decide_eq_true ⟨['\x7d'], by rfl⟩

theorem utf8_letters (bytes : Bytes) (letters : ∀ byte ∈ bytes, isUtf8 [byte] = true) : isUtf8 bytes = true := by
  induction bytes with
  | nil => exact decide_eq_true ⟨[], by rfl⟩
  | cons byte rest ih =>
    exact utf8_append (letters byte (by simp)) (ih fun other member => letters other (by simp [member]))

theorem braced_lawful : (bracedCodec code).Lawful where
  roundTrip value := by simp [bracedCodec, code.reads]
  plain value := by
    refine ⟨fun member => ?_, ?_, by simp [bracedCodec]⟩
    · have letter := braced_bytes member
      revert letter
      decide
    · change (openBrace :: (code.put value ++ [closeBrace])).getLast? ≠ some carriageReturn
      rw [← List.cons_append, List.getLast?_concat]
      decide
  visible value := ⟨openBrace, by simp [bracedCodec], by decide⟩
  valid value := by
    have whole := utf8_letters ((bracedCodec code).enc value) fun byte member => utf8_letter (braced_bytes member)
    exact of_decide_eq_true whole

end Laws

def spelled (bytes : Bytes) : String := String.ofList (bytes.map fun byte => Char.ofNat (256 + byte.toNat))

def plainExternals : Externals where
  sha256Hex := spelled
  recordJson := bracedCodec recordCode
  checkpointJson cp := checkpointCode.put cp
  checkpointLineJson := bracedCodec checkpointLineCode
  anchorJson := bracedCodec anchorCode
  sign seed message := spelled (seed ++ message)
  publicHex := spelled
  loadVerifier text := .ok (text.toList.map fun char => UInt8.ofNat (char.toNat - 256))
  verifies key message signature := signature == spelled (key ++ message)

-- The same codecs under a check number for a digest, short enough for runs of
-- several records to be evaluated.
def checkNumber (bytes : Bytes) : String := toString (bytes.foldl (fun sum byte => (31 * sum + byte.toNat) % 9973) 0)

def briefExternals : Externals :=
  { plainExternals with
      sha256Hex := checkNumber
      sign := fun seed message => checkNumber (seed ++ message)
      verifies := fun key message signature => signature == checkNumber (key ++ message) }

theorem spelled_char (byte : UInt8) : (Char.ofNat (256 + byte.toNat)).toNat = 256 + byte.toNat := by
  have small := byte.toNat_lt
  have valid : (256 + byte.toNat).isValidChar := .inl (by omega)
  rw [Char.ofNat, dif_pos valid]
  rfl

theorem spelled_loads (seed : Bytes) : plainExternals.loadVerifier (spelled seed) = .ok seed := by
  have bytes : ∀ byte : UInt8, UInt8.ofNat ((Char.ofNat (256 + byte.toNat)).toNat - 256) = byte := by
    intro byte
    rw [spelled_char, Nat.add_sub_cancel_left, UInt8.ofNat_toNat]
  simp [plainExternals, spelled, Function.comp_def, bytes]

theorem plain_externals_lawful : plainExternals.Lawful where
  record := braced_lawful
  line := braced_lawful
  anchor := braced_lawful
  signed seed := ⟨seed, spelled_loads seed, fun _ => beq_self_eq_true _⟩

theorem brief_externals_lawful : briefExternals.Lawful where
  record := braced_lawful
  line := braced_lawful
  anchor := braced_lawful
  signed seed := ⟨seed, spelled_loads seed, fun _ => beq_self_eq_true _⟩

theorem spelled_injective {left right : Bytes} (same : spelled left = spelled right) : left = right := by
  have chars : left.map (fun byte => Char.ofNat (256 + byte.toNat)) = right.map fun byte => Char.ofNat (256 + byte.toNat) :=
    by simpa only [spelled, String.toList_ofList] using congrArg String.toList same
  refine List.map_injective_iff.mpr (fun a b equal => ?_) chars
  have codes := congrArg Char.toNat equal
  rw [spelled_char, spelled_char] at codes
  exact UInt8.toNat_inj.mp (by omega)

theorem spelled_not_genesis {bytes : Bytes} : spelled bytes ≠ genesisHash := by
  intro same
  have chars := congrArg String.toList same
  rw [spelled, String.toList_ofList] at chars
  have digits : genesisHash.toList = List.replicate 64 '0' := by decide
  rw [digits] at chars
  cases bytes with
  | nil => cases chars
  | cons byte rest =>
    have codes := congrArg Char.toNat (List.cons.inj chars).1
    rw [spelled_char] at codes
    have zero : '0'.toNat = 48 := rfl
    omega

variable {mark : UInt8}

theorem cut_at_first {u v a b : Bytes} (left : mark ∉ u) (right : mark ∉ v) (same : u ++ mark :: a = v ++ mark :: b) :
    u = v ∧ a = b := by
  induction u generalizing v with
  | nil =>
    cases v with
    | nil => exact ⟨rfl, (List.cons.inj same).2⟩
    | cons byte rest =>
      rw [(List.cons.inj same).1] at right
      exact absurd List.mem_cons_self right
  | cons byte rest ih =>
    cases v with
    | nil =>
      rw [(List.cons.inj same).1] at left
      exact absurd List.mem_cons_self left
    | cons byte' rest' =>
      obtain ⟨tails, ends⟩ := ih (fun member => left (by simp [member])) (fun member => right (by simp [member]))
        (List.cons.inj same).2
      exact ⟨by rw [(List.cons.inj same).1, tails], ends⟩

theorem cut_at_last {a b u v : Bytes} (left : mark ∉ u) (right : mark ∉ v) (same : a ++ mark :: u = b ++ mark :: v) :
    a = b ∧ u = v := by
  have flipped := congrArg List.reverse same
  simp only [List.reverse_append, List.reverse_cons, List.append_assoc, List.singleton_append] at flipped
  obtain ⟨tails, fronts⟩ := cut_at_first (by simpa using left) (by simpa using right) flipped
  exact ⟨List.reverse_inj.mp fronts, List.reverse_inj.mp tails⟩

theorem plain_collision_free : CollisionFree (recordHash plainExternals) genesisHash where
  injective base other entry entry' same := by
    have unmarked (record : AuditRecord) : openBrace ∉ recordCode.put record ++ [closeBrace] := by
      intro member
      rcases List.mem_append.mp member with digit | last
      · have digits := recordCode.tallied record openBrace digit
        revert digits
        decide
      · revert last
        decide
    obtain ⟨bases, records⟩ := cut_at_last (unmarked entry) (unmarked entry') (spelled_injective same)
    have strings : base.toByteArray = other.toByteArray := by
      apply ByteArray.ext
      exact Array.toList_inj.mp bases
    have back := (recordCode.reads entry [closeBrace]).symm.trans ((congrArg recordCode.take records).trans
      (recordCode.reads entry' [closeBrace]))
    exact ⟨String.toByteArray_inj.mp strings, (Prod.mk.inj (Option.some.inj back)).1⟩
  fresh base entry := spelled_not_genesis

end Pkcs11Proxy.Audit
