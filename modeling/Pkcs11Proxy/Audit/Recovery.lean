import Pkcs11Proxy.Audit.HonestVerify

namespace Pkcs11Proxy.Audit

open Lib

def AnchorAt (ext : Externals) (dir : LogDir) (covered : Nat) (sealed : ChainState) : Prop :=
  (dir.anchor = none ∧ covered = 0 ∧ sealed = ChainState.genesis) ∨
    dir.anchor = some (ext.anchorJson.enc ⟨sealed.lastHash, sealed.lastSeq, covered⟩)

def tailHead (ext : Externals) (start : ChainState) (records : List AuditRecord) : ChainState :=
  match records.getLast? with
  | some last => ⟨recordHash ext last.prevHash last, last.seq + 1⟩
  | none => start

section Reading

variable {ext : Externals}

theorem utf8_append {a b : Bytes} (left : isUtf8 a = true) (right : isUtf8 b = true) : isUtf8 (a ++ b) = true := by
  simp only [isUtf8, decide_eq_true_eq] at left right ⊢
  exact left.append right

theorem utf8_newline : isUtf8 [newline] = true := by
  simp only [isUtf8, decide_eq_true_eq]
  exact ⟨['\n'], by rfl⟩

theorem utf8_record_bytes (lawful : ext.recordJson.Lawful) (records : List AuditRecord) : isUtf8 (recordBytes ext records) = true := by
  induction records with
  | nil =>
    simp only [isUtf8, decide_eq_true_eq]
    exact ⟨[], by rfl⟩
  | cons record rest ih =>
    exact utf8_append (utf8_append (utf8_line lawful record) utf8_newline) ih

theorem not_blank_enc (lawful : ext.recordJson.Lawful) (record : AuditRecord) : isBlank (ext.recordJson.enc record) = false := by
  obtain ⟨byte, member, above⟩ := lawful.visible record
  rw [isBlank, List.all_eq_false]
  refine ⟨byte, member, ?_⟩
  rw [UInt8.lt_iff_toNat_lt] at above
  simp only [Bool.or_eq_true, Bool.and_eq_true, decide_eq_true_eq, UInt8.le_iff_toNat_le, ← UInt8.toNat_inj, not_or, not_and]
  have space : (32 : UInt8).toNat = 32 := rfl
  have last : (13 : UInt8).toNat = 13 := rfl
  omega

theorem last_valid_record_bytes (lawful : ext.recordJson.Lawful) (records : List AuditRecord) :
    lastValidRecord ext (recordBytes ext records) = records.getLast? := by
  rw [lastValidRecord, recordBytes, split_join_lines lawful.plain, List.foldl_map]
  simp only [not_blank_enc lawful, from_jsonl_enc lawful, Bool.false_eq_true, if_false]
  induction records using List.reverseRecOn with
  | nil => rfl
  | append_singleton front last _ => simp

end Reading

section Reconstruct

variable {ext : Externals} (lawful : ext.Lawful) {dir : LogDir}

include lawful

variable {covered : Nat} {sealed : ChainState}

theorem read_anchor_at (anchored : AnchorAt ext dir covered sealed) :
    (readAnchorTail ext dir).1 = covered ∧
      (match (readAnchorTail ext dir).2 with
        | some chain => Except.ok chain
        | none => loadChainState ext dir) = .ok sealed := by
  rcases anchored with ⟨absent, rfl, rfl⟩ | present
  · simp [readAnchorTail, absent, loadChainState]
  · have parsed := lawful.anchor.roundTrip ⟨sealed.lastHash, sealed.lastSeq, covered⟩
    simp [readAnchorTail, present, parsed]

theorem reconstruct_active {before tail : List AuditRecord}
    (held : dir.readFile activeName = some (recordBytes ext (before ++ tail)))
    (anchored : AnchorAt ext dir (recordBytes ext before).length sealed) :
    reconstructChainState ext dir = .ok (tailHead ext sealed tail) := by
  obtain ⟨offset, fallback⟩ := read_anchor_at lawful anchored
  have split : recordBytes ext (before ++ tail) = recordBytes ext before ++ recordBytes ext tail :=
    join_lines_append
  have suffix : (recordBytes ext (before ++ tail)).drop (recordBytes ext before).length = recordBytes ext tail := by
    rw [split, List.drop_left]
  have inside : ¬ (recordBytes ext before).length > (recordBytes ext (before ++ tail)).length := by
    rw [split, List.length_append]
    omega
  have read : readActiveSuffix dir (recordBytes ext before).length = some (recordBytes ext tail) := by
    simp [readActiveSuffix, held, suffix, utf8_record_bytes lawful.record]
  simp only [reconstructChainState, held, offset, if_neg inside, read, last_valid_record_bytes lawful.record, tailHead]
  cases tail.getLast? with
  | some last => rfl
  | none => exact fallback

theorem reconstruct_no_tail (held : (dir.readFile activeName).getD [] = [])
    (anchored : AnchorAt ext dir covered sealed) : reconstructChainState ext dir = .ok sealed := by
  obtain ⟨offset, fallback⟩ := read_anchor_at lawful anchored
  have empty : lastValidRecord ext [] = none := rfl
  have valid : isUtf8 [] = true := utf8_record_bytes lawful.record []
  cases found : dir.readFile activeName with
  | none =>
    simp only [reconstructChainState, found, readActiveSuffix, empty]
    exact fallback
  | some bytes =>
    rw [found, Option.getD_some] at held
    subst held
    simp only [reconstructChainState, found, readActiveSuffix, List.drop_nil, valid, if_true, empty]
    exact fallback

end Reconstruct

section Layout

variable {ext : Externals} {layout : LogLayout}

theorem lookup_rotated_active (rotated : List (Nat × List AuditRecord)) :
    (rotated.map (segmentFile ext)).lookup activeName = none := by
  induction rotated with
  | nil => rfl
  | cons segment rest ih =>
    have other : (activeName == rotatedName segment.1) = false := beq_eq_false_iff_ne.mpr rotated_ne_active.symm
    rw [List.map_cons, segmentFile, List.lookup_cons, other]
    exact ih

theorem layout_read_active {dir : LogDir} (files : dir.files = layout.files ext) :
    dir.readFile activeName = layout.active.map (recordBytes ext) := by
  rw [LogDir.readFile, files, LogLayout.files, List.lookup_append, lookup_rotated_active]
  cases layout.active with
  | none | some => rfl

end Layout

end Pkcs11Proxy.Audit
