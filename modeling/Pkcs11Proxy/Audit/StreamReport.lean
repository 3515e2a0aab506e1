import Pkcs11Proxy.Audit.PlainExternals
import Pkcs11Proxy.Lib.OrderedStream

namespace Pkcs11Proxy.Audit

open Lib

-- The arithmetic of a build that traps on overflow.
def checkedSub (a b : UInt64) : Option UInt64 := if b ≤ a then some (a - b) else none

def checkedAdd (a b : UInt64) : Option UInt64 := if a.toNat + b.toNat < UInt64.size then some (a + b) else none

def pushGapsChecked (limit : UInt64) : Nat → UInt64 → List UInt64 → Option (List UInt64)
  | 0, _, gaps => some gaps
  | room + 1, s, gaps => if s < limit then (checkedAdd s 1).bind fun next => pushGapsChecked limit room next (gaps ++ [s]) else some gaps

def StreamReplay.compareSeqChecked (replay : StreamReplay) (prev seq : UInt64) : Option StreamReplay :=
  if seq ≤ prev then some (replay.compareSeq prev seq)
  else do
    let difference ← checkedSub seq prev
    let missing ← checkedSub difference 1
    if missing > 0 then do
      let start ← checkedAdd prev 1
      let gaps ← pushGapsChecked seq (maxVerifyGaps - replay.gaps.length) start replay.gaps
      some { replay with missingTotal := saturatingAdd replay.missingTotal missing, gaps := gaps }
    else some replay

def StreamReplay.placeChecked (replay : StreamReplay) (record : AuditRecord) : Option StreamReplay :=
  if replay.records = 0 then some (replay.place record)
  else
    match replay.prevSeq with
    | some prev => replay.compareSeqChecked prev record.seq
    | none => some replay

def StreamReplay.pushChecked (ext : Externals) (replay : StreamReplay) (record : AuditRecord) : Option StreamReplay := do
  let placed ← replay.placeChecked record
  let _ ← checkedAdd placed.records 1
  some (replay.push ext record)

variable {a prev seq : UInt64} {replay : StreamReplay}

section Checked

theorem checked_sub_ok {b : UInt64} (bounded : b ≤ a) : checkedSub a b = some (a - b) := if_pos bounded

theorem checked_add_one {limit : UInt64} (below : a < limit) :
    checkedAdd a 1 = some (a + 1) ∧ (a + 1).toNat = a.toNat + 1 := by
  have upper := limit.toNat_lt
  have lower := UInt64.lt_iff_toNat_lt.mp below
  constructor
  · exact if_pos (by simp [UInt64.size]; omega)
  · exact toNat_succ a (by omega)

theorem difference_toNat (increases : prev < seq) :
    (1 : UInt64) ≤ seq - prev ∧ (seq - prev - 1).toNat = seq.toNat - prev.toNat - 1 := by
  have lower := UInt64.lt_iff_toNat_lt.mp increases
  have difference : (seq - prev).toNat = seq.toNat - prev.toNat := UInt64.toNat_sub_of_le seq prev (UInt64.le_of_lt increases)
  have positive : (1 : UInt64) ≤ seq - prev := by
    rw [UInt64.le_iff_toNat_le, difference]
    simp
    omega
  constructor
  · exact positive
  · rw [UInt64.toNat_sub_of_le _ _ positive, difference]
    rfl

theorem push_gaps_checked (limit : UInt64) (room : Nat) (s : UInt64) (gaps : List UInt64) :
    pushGapsChecked limit room s gaps = some (pushGaps limit room s gaps) := by
  induction room generalizing s gaps with
  | zero => rfl
  | succ room ih =>
    rw [pushGapsChecked, pushGaps]
    by_cases below : s < limit
    · rw [if_pos below, if_pos below, (checked_add_one below).1]
      exact ih (s + 1) (gaps ++ [s])
    · rw [if_neg below, if_neg below]

theorem compare_seq_checked :
    replay.compareSeqChecked prev seq = some (replay.compareSeq prev seq) := by
  rw [StreamReplay.compareSeqChecked]
  by_cases bounded : seq ≤ prev
  · rw [if_pos bounded]
  · have increases : prev < seq := UInt64.not_le.mp bounded
    have different : seq ≠ prev := fun same => bounded (UInt64.le_of_eq same)
    have positive := (difference_toNat increases).1
    rw [if_neg bounded, checked_sub_ok (UInt64.le_of_lt increases), StreamReplay.compareSeq,
      if_neg (fun below => bounded (UInt64.le_of_lt below)), if_neg different]
    simp only [bind, Option.bind_some, checked_sub_ok positive, (checked_add_one increases).1, push_gaps_checked]
    split <;> rfl

theorem place_checked (replay : StreamReplay) (record : AuditRecord) : replay.placeChecked record = some (replay.place record) := by
  rw [StreamReplay.placeChecked, StreamReplay.place]
  by_cases first : replay.records = 0
  · simp [first]
  · rw [if_neg first, if_neg first]
    cases replay.prevSeq with
    | some prev => exact compare_seq_checked
    | none => rfl

theorem push_all_checked (ext : Externals) (records : List AuditRecord) (replay : StreamReplay)
    (few : replay.records.toNat + records.length < 2 ^ 64) :
    records.foldlM (StreamReplay.pushChecked ext) replay = some (records.foldl (StreamReplay.push ext) replay) := by
  induction records generalizing replay with
  | nil => rfl
  | cons record rest ih =>
    rw [List.length_cons] at few
    have counted : checkedAdd (replay.place record).records 1 = some ((replay.place record).records + 1) := by
      rw [place_records]
      exact if_pos (by simp [UInt64.size]; omega)
    have next := push_records ext record (by omega : replay.records.toNat + 1 < 2 ^ 64)
    rw [List.foldlM_cons, List.foldl_cons, StreamReplay.pushChecked, place_checked]
    simp only [bind, Option.bind_some, counted]
    exact ih (replay.push ext record) (by omega)

end Checked

theorem saturating_add_toNat (a b : UInt64) : (saturatingAdd a b).toNat = min (a.toNat + b.toNat) (2 ^ 64 - 1) := by
  rw [saturatingAdd]
  split
  · rename_i room
    rw [UInt64.toNat_add, Nat.mod_eq_of_lt room]
    omega
  · have top : u64Max.toNat = 2 ^ 64 - 1 := rfl
    omega

theorem push_gaps_range (limit : UInt64) (room : Nat) (s : UInt64) (gaps : List UInt64) :
    (pushGaps limit room s gaps).map UInt64.toNat =
      gaps.map UInt64.toNat ++ (List.range' s.toNat (limit.toNat - s.toNat)).take room := by
  induction room generalizing s gaps with
  | zero => simp [pushGaps]
  | succ room ih =>
    rw [pushGaps]
    by_cases below : s < limit
    · have lower := UInt64.lt_iff_toNat_lt.mp below
      have length : limit.toNat - s.toNat = (limit.toNat - (s.toNat + 1)) + 1 := by omega
      rw [if_pos below, ih, (checked_add_one below).2, length, List.range'_succ, List.take_succ_cons]
      simp
    · have upper : limit.toNat ≤ s.toNat := UInt64.le_iff_toNat_le.mp (UInt64.not_lt.mp below)
      have none : limit.toNat - s.toNat = 0 := by omega
      rw [if_neg below, none]
      simp

structure Followed (seqs : List Nat) (replay : StreamReplay) : Prop where
  records : replay.records.toNat = seqs.length
  prev : replay.prevSeq.map UInt64.toNat = seqs.getLast?

-- The replay of a nondecreasing stream against the whole stream: the sample lists are
-- cut to the limit, and the totals tell whether anything was cut.
structure Reported (seqs : List Nat) (replay : StreamReplay) : Prop extends Followed seqs replay where
  first : replay.firstSeq.toNat = seqs.head?.getD 0
  last : replay.lastSeq.toNat = seqs.getLast?.getD 0
  gaps : replay.gaps.map UInt64.toNat = (missingIn seqs).take maxVerifyGaps
  missing : replay.missingTotal.toNat = (missingIn seqs).length
  duplicates : replay.duplicates.map UInt64.toNat = (repeatedIn seqs).take maxVerifyGaps
  few : (repeatedIn seqs).length ≤ maxVerifyGaps → replay.dupValuesTotal.toNat = (repeatedIn seqs).length
  many : maxVerifyGaps < (repeatedIn seqs).length → maxVerifyGaps < replay.dupValuesTotal.toNat

theorem reported_new {needed : List UInt64} : Reported [] (StreamReplay.new needed) := by
  constructor
  · exact ⟨rfl, rfl⟩
  all_goals simp [StreamReplay.new]

section Extend

variable {seqs : List Nat} {replay : StreamReplay} (ordered : seqs.Pairwise (· ≤ ·)) (held : Reported seqs replay)

include held in
theorem capped_samples : replay.gaps.length = min maxVerifyGaps (missingIn seqs).length ∧
    replay.duplicates.length = min maxVerifyGaps (repeatedIn seqs).length := by
  have gaps := congrArg List.length held.gaps
  have duplicates := congrArg List.length held.duplicates
  rw [List.length_map, List.length_take] at gaps duplicates
  exact ⟨gaps, duplicates⟩

include ordered held in
theorem gap_reported (last : seqs.getLast? = some prev.toNat) (increases : prev < seq) :
    (pushGaps seq (maxVerifyGaps - replay.gaps.length) (prev + 1) replay.gaps).map UInt64.toNat =
        (missingIn (seqs ++ [seq.toNat])).take maxVerifyGaps ∧
      (saturatingAdd replay.missingTotal (seq - prev - 1)).toNat = (missingIn (seqs ++ [seq.toNat])).length := by
  have lower := UInt64.lt_iff_toNat_lt.mp increases
  have upper := seq.toNat_lt
  have grown := missing_in_snoc ordered last (Nat.le_of_lt lower)
  have bounded := missing_in_length ordered last
  have sampled := (capped_samples held).1
  constructor
  · rw [push_gaps_range, (checked_add_one increases).2, held.gaps, grown, List.take_append, Nat.sub_add_eq, sampled]
    congr 2
    omega
  · rw [saturating_add_toNat, (difference_toNat increases).2, held.missing, grown, List.length_append, List.length_range']
    omega

include ordered held in
theorem latest_duplicate (last : seqs.getLast? = some prev.toNat) (few : (repeatedIn seqs).length ≤ maxVerifyGaps) :
    replay.duplicates.getLast? = some prev ↔ prev.toNat ∈ repeatedIn seqs := by
  have whole : replay.duplicates.map UInt64.toNat = repeatedIn seqs := by rw [held.duplicates, List.take_of_length_le few]
  constructor
  · intro latest
    rw [← whole]
    exact List.mem_map_of_mem (List.mem_of_getLast? latest)
  · intro again
    have latest := last_of_repeated ordered last again
    rw [← whole, List.getLast?_map] at latest
    obtain ⟨value, found, same⟩ := Option.map_eq_some_iff.mp latest
    rw [found, UInt64.toNat_inj.mp same]

include ordered held in
theorem repeat_reported (last : seqs.getLast? = some prev.toNat) :
    (replay.compareSeq prev prev).duplicates.map UInt64.toNat = (repeatedIn (seqs ++ [prev.toNat])).take maxVerifyGaps ∧
      ((repeatedIn (seqs ++ [prev.toNat])).length ≤ maxVerifyGaps →
        (replay.compareSeq prev prev).dupValuesTotal.toNat = (repeatedIn (seqs ++ [prev.toNat])).length) ∧
      (maxVerifyGaps < (repeatedIn (seqs ++ [prev.toNat])).length → maxVerifyGaps < (replay.compareSeq prev prev).dupValuesTotal.toNat) := by
  have grown := repeated_in_snoc_again ordered last
  have sampled := (capped_samples held).2
  have total := held.few
  have overfull := held.many
  have limit : maxVerifyGaps = 10000 := rfl
  have unequal : ¬ prev < prev := UInt64.lt_irrefl prev
  by_cases few : (repeatedIn seqs).length ≤ maxVerifyGaps
  · have latest := latest_duplicate ordered held last few
    split at grown
    · rename_i again
      simp only [StreamReplay.compareSeq, if_neg unequal, latest.mpr again, ne_eq, not_true_eq_false, if_false, if_true, grown]
      exact ⟨held.duplicates, held.few, held.many⟩
    · rename_i again
      have fresh : replay.duplicates.getLast? ≠ some prev := fun same => again (latest.mp same)
      have counted : (saturatingAdd replay.dupValuesTotal 1).toNat = (repeatedIn seqs).length + 1 := by
        rw [saturating_add_toNat, total few]
        simp
        omega
      simp only [StreamReplay.compareSeq, if_neg unequal, if_pos fresh, if_true, grown, counted, List.length_append, List.length_singleton]
      refine ⟨?_, fun _ => trivial, fun above => above⟩
      rw [List.take_append]
      split
      · have one : 1 ≤ maxVerifyGaps - (repeatedIn seqs).length := by omega
        rw [List.map_append, held.duplicates, List.take_of_length_le (l := [prev.toNat]) one]
        rfl
      · have none : maxVerifyGaps - (repeatedIn seqs).length = 0 := by omega
        rw [held.duplicates, none]
        simp
  · have above := overfull (by omega)
    have longer : (repeatedIn (seqs ++ [prev.toNat])).take maxVerifyGaps = (repeatedIn seqs).take maxVerifyGaps ∧
        maxVerifyGaps < (repeatedIn (seqs ++ [prev.toNat])).length := by
      rw [grown]
      split
      · exact ⟨rfl, by omega⟩
      · rw [List.take_append_of_le_length (by omega), List.length_append]
        exact ⟨rfl, by omega⟩
    rw [longer.1]
    have full : ¬ replay.duplicates.length < maxVerifyGaps := by omega
    by_cases latest : replay.duplicates.getLast? = some prev
    · simp only [StreamReplay.compareSeq, if_neg unequal, latest, ne_eq, not_true_eq_false, if_false, if_true]
      exact ⟨held.duplicates, fun fits => absurd fits (by omega), fun _ => above⟩
    · simp only [StreamReplay.compareSeq, if_neg unequal, latest, ne_eq, not_false_eq_true, if_true, if_neg full, saturating_add_toNat]
      refine ⟨held.duplicates, fun fits => absurd fits (by omega), fun _ => ?_⟩
      omega

end Extend

theorem compare_increasing (increases : prev < seq) :
    replay.compareSeq prev seq =
      { replay with
          missingTotal := saturatingAdd replay.missingTotal (seq - prev - 1)
          gaps := pushGaps seq (maxVerifyGaps - replay.gaps.length) (prev + 1) replay.gaps } := by
  have different : seq ≠ prev := fun same => UInt64.lt_irrefl prev (same ▸ increases)
  rw [StreamReplay.compareSeq, if_neg (UInt64.lt_asymm increases), if_neg different]
  by_cases apart : seq - prev - 1 > 0
  · rw [if_pos apart]
  · have none : seq - prev - 1 = 0 := UInt64.le_antisymm (UInt64.not_lt.mp apart) UInt64.zero_le
    have next : prev + 1 = seq := by grind
    have total : saturatingAdd replay.missingTotal 0 = replay.missingTotal := by
      rw [← UInt64.toNat_inj, saturating_add_toNat]
      have := replay.missingTotal.toNat_lt
      simp
      omega
    have loop : pushGaps seq (maxVerifyGaps - replay.gaps.length) seq replay.gaps = replay.gaps := by
      cases maxVerifyGaps - replay.gaps.length with
      | zero => rfl
      | succ room => rw [pushGaps, if_neg (UInt64.lt_irrefl seq)]
    rw [if_neg apart, none, next, total, loop]

theorem compare_repeated (replay : StreamReplay) (prev : UInt64) :
    (replay.compareSeq prev prev).gaps = replay.gaps ∧ (replay.compareSeq prev prev).missingTotal = replay.missingTotal := by
  rw [StreamReplay.compareSeq, if_neg (UInt64.lt_irrefl prev), if_pos rfl]
  split <;> exact ⟨rfl, rfl⟩

variable {seqs : List Nat}

section Push

variable (ext : Externals)

theorem place_followed (held : Followed seqs replay) (record : AuditRecord) :
    (seqs = [] ∧ replay.place record = { replay with firstSeq := record.seq, expectedPrev := some record.prevHash }) ∨
      ∃ prev, seqs.getLast? = some prev.toNat ∧ replay.place record = replay.compareSeq prev record.seq := by
  have last := held.prev
  cases seen : replay.prevSeq with
  | none =>
    rw [seen] at last
    have empty : seqs = [] := List.getLast?_eq_none_iff.mp last.symm
    subst empty
    have first : replay.records = 0 := UInt64.toNat_inj.mp held.records
    exact .inl ⟨rfl, by rw [StreamReplay.place, if_pos first, seen]⟩
  | some prev =>
    rw [seen] at last
    refine .inr ⟨prev, last.symm, ?_⟩
    have some : replay.records ≠ 0 := by
      intro none
      have counted := held.records
      rw [none] at counted
      rw [List.length_eq_zero_iff.mp counted.symm] at last
      cases last
    rw [StreamReplay.place, if_neg some, seen]

theorem push_followed (record : AuditRecord) (held : Followed seqs replay) (few : seqs.length + 1 < 2 ^ 64) :
    Followed (seqs ++ [record.seq.toNat]) (replay.push ext record) := by
  constructor
  · rw [push_records ext _ (held.records ▸ few), held.records, List.length_append]
    rfl
  · simp [StreamReplay.push]

theorem reported_push (record : AuditRecord) (held : Reported seqs replay)
    (few : seqs.length + 1 < 2 ^ 64) (ordered : (seqs ++ [record.seq.toNat]).Pairwise (· ≤ ·)) :
    Reported (seqs ++ [record.seq.toNat]) (replay.push ext record) := by
  obtain ⟨before, -, bounded⟩ := List.pairwise_append.mp ordered
  have followed := push_followed ext record held.toFollowed few
  rcases place_followed held.toFollowed record with ⟨rfl, placed⟩ | ⟨prev, last, placed⟩
  · have lone : missingIn [record.seq.toNat] = [] ∧ repeatedIn [record.seq.toNat] = [] := one_value_whole
    refine ⟨followed, ?_, rfl, ?_, ?_, ?_, ?_, ?_⟩
    all_goals simp only [StreamReplay.push, placed, List.nil_append, lone.1, lone.2]
    · rfl
    · simpa using held.gaps
    · simpa using held.missing
    · simpa using held.duplicates
    · simpa using held.few
    · simp
  · have steps : prev ≤ record.seq := UInt64.le_iff_toNat_le.mpr
      (bounded prev.toNat (List.mem_of_getLast? last) record.seq.toNat (List.mem_singleton_self _))
    have first : (seqs ++ [record.seq.toNat]).head? = seqs.head? :=
      List.head?_append_of_ne_nil seqs (List.ne_nil_of_mem (List.mem_of_getLast? last))
    have started : (replay.push ext record).firstSeq.toNat = (seqs ++ [record.seq.toNat]).head?.getD 0 := by
      simp only [StreamReplay.push, placed, compare_seq_frame.2.2, held.first, first]
    have ended : (seqs ++ [record.seq.toNat]).getLast? = Option.some record.seq.toNat := List.getLast?_concat
    by_cases same : record.seq = prev
    · obtain ⟨duplicates, few, many⟩ := repeat_reported before held last
      have gap := missing_in_snoc before last (Nat.le_refl _)
      have none : prev.toNat - prev.toNat - 1 = 0 := by omega
      rw [none, List.range'_zero, List.append_nil] at gap
      have kept := compare_repeated replay prev
      refine ⟨followed, started, by rw [ended]; rfl, ?_, ?_, ?_, ?_, ?_⟩
      all_goals simp only [StreamReplay.push, placed, same, gap, kept.1, kept.2]
      · exact held.gaps
      · exact held.missing
      · exact duplicates
      · exact few
      · exact many
    · have increases : prev < record.seq := UInt64.lt_of_le_of_ne steps (Ne.symm same)
      obtain ⟨gaps, missing⟩ := gap_reported before held last increases
      have repeated := repeated_in_snoc_new before last (UInt64.lt_iff_toNat_lt.mp increases)
      refine ⟨followed, started, by rw [ended]; rfl, ?_, ?_, ?_, ?_, ?_⟩
      all_goals simp only [StreamReplay.push, placed, compare_increasing increases, repeated]
      · exact gaps
      · exact missing
      · exact held.duplicates
      · exact held.few
      · exact held.many

theorem reported_all (records : List AuditRecord) (held : Reported seqs replay)
    (few : seqs.length + records.length < 2 ^ 64) (ordered : (seqs ++ records.map fun record => record.seq.toNat).Pairwise (· ≤ ·)) :
    Reported (seqs ++ records.map fun record => record.seq.toNat) (records.foldl (StreamReplay.push ext) replay) := by
  induction records generalizing seqs replay with
  | nil =>
    rw [List.map_nil, List.append_nil]
    exact held
  | cons record rest ih =>
    rw [List.map_cons, ← List.singleton_append, ← List.append_assoc] at ordered ⊢
    rw [List.length_cons] at few
    have here := (List.pairwise_append.mp ordered).1
    exact ih (reported_push ext record held (by omega) here) (by simp; omega) ordered

structure OrderTracked (seqs : List Nat) (replay : StreamReplay) : Prop extends Followed seqs replay where
  flag : replay.unordered = false ↔ seqs.Pairwise (· ≤ ·)

theorem ordered_snoc {prev : Nat} {next : Nat} (last : seqs.getLast? = some prev) :
    (seqs ++ [next]).Pairwise (· ≤ ·) ↔ seqs.Pairwise (· ≤ ·) ∧ prev ≤ next := by
  rw [List.pairwise_append]
  constructor
  · rintro ⟨before, -, bounded⟩
    exact ⟨before, bounded prev (List.mem_of_getLast? last) next (List.mem_singleton_self next)⟩
  · rintro ⟨before, later⟩
    refine ⟨before, List.pairwise_singleton _ _, ?_⟩
    intro value member other isNext
    cases List.mem_singleton.mp isNext
    exact Nat.le_trans (le_last_of_ordered before last value member) later

theorem compare_flag (replay : StreamReplay) (prev seq : UInt64) :
    (replay.compareSeq prev seq).unordered = false ↔ replay.unordered = false ∧ prev ≤ seq := by
  simp only [StreamReplay.compareSeq]
  split
  · rename_i disorder
    simp [UInt64.not_le.mpr disorder]
  · rename_i disorder
    have fine : prev ≤ seq := UInt64.not_lt.mp disorder
    repeat' split
    all_goals simp [fine]

theorem order_tracked_push (record : AuditRecord) (held : OrderTracked seqs replay)
    (few : seqs.length + 1 < 2 ^ 64) : OrderTracked (seqs ++ [record.seq.toNat]) (replay.push ext record) := by
  refine ⟨push_followed ext record held.toFollowed few, ?_⟩
  have flag := held.flag
  rcases place_followed held.toFollowed record with ⟨rfl, placed⟩ | ⟨prev, last, placed⟩
  · simp only [StreamReplay.push, placed, flag]
    simp
  · simp only [StreamReplay.push, placed]
    rw [compare_flag, held.flag, ordered_snoc last, UInt64.le_iff_toNat_le]

theorem order_tracked_all (records : List AuditRecord) (held : OrderTracked seqs replay)
    (few : seqs.length + records.length < 2 ^ 64) :
    OrderTracked (seqs ++ records.map fun record => record.seq.toNat) (records.foldl (StreamReplay.push ext) replay) := by
  induction records generalizing seqs replay with
  | nil =>
    rw [List.map_nil, List.append_nil]
    exact held
  | cons record rest ih =>
    rw [List.length_cons] at few
    rw [List.map_cons, ← List.singleton_append, ← List.append_assoc]
    exact ih (order_tracked_push ext record held (by omega)) (by simp; omega)

end Push

structure SetReport (seqs : List Nat) (outcome : ReplayOutcome) : Prop where
  records : outcome.records.toNat = seqs.length
  firstSeq : outcome.firstSeq.toNat = seqs.head?.getD 0
  lastSeq : outcome.lastSeq.toNat = seqs.getLast?.getD 0
  contiguous : outcome.contiguous = true ↔ missingIn seqs = []
  gaps : outcome.gaps.map UInt64.toNat = (missingIn seqs).take maxVerifyGaps
  gapsTruncated : outcome.gapsTruncated = true ↔ maxVerifyGaps < (missingIn seqs).length
  duplicates : outcome.duplicates.map UInt64.toNat = (repeatedIn seqs).take maxVerifyGaps
  duplicatesTruncated : outcome.duplicatesTruncated = true ↔ maxVerifyGaps < (repeatedIn seqs).length

theorem reported_finish (held : Reported seqs replay) : SetReport seqs replay.finish := by
  obtain ⟨gaps, duplicates⟩ := capped_samples held
  refine ⟨held.records, held.first, held.last, ?_, held.gaps, ?_, held.duplicates, ?_⟩
  · simp only [StreamReplay.finish, beq_iff_eq]
    rw [← List.length_eq_zero_iff, ← held.missing, ← UInt64.toNat_inj]
    rfl
  · simp only [StreamReplay.finish, decide_eq_true_eq, held.missing, gaps]
    omega
  · simp only [StreamReplay.finish, decide_eq_true_eq, duplicates]
    by_cases few : (repeatedIn seqs).length ≤ maxVerifyGaps
    · have total := held.few few
      omega
    · have total := held.many (by omega)
      omega

theorem stream_replay_report (ext : Externals) (needed : List UInt64) (records : List AuditRecord) (few : records.length < 2 ^ 64) :
    ∃ replay, records.foldlM (StreamReplay.pushChecked ext) (StreamReplay.new needed) = some replay ∧
      records.foldl (StreamReplay.push ext) (StreamReplay.new needed) = replay ∧
      (replay.finish.unordered = true ↔ ¬ (records.map fun record => record.seq.toNat).Pairwise (· ≤ ·)) ∧
      ((records.map fun record => record.seq.toNat).Pairwise (· ≤ ·) →
        SetReport (records.map fun record => record.seq.toNat) replay.finish) := by
  have room : ([] : List Nat).length + records.length < 2 ^ 64 := by simpa using few
  refine ⟨_, push_all_checked ext records _ room, rfl, ?_, ?_⟩
  · have start : OrderTracked [] (StreamReplay.new needed) := ⟨⟨rfl, rfl⟩, by simp [StreamReplay.new]⟩
    have tracked := order_tracked_all ext records start room
    rw [← Bool.not_eq_false]
    exact not_congr tracked.flag
  · intro ordered
    exact reported_finish (reported_all ext records reported_new room ordered)

def numberedRecord (seq : UInt64) : AuditRecord :=
  recordOfFields ((auditSchemaVersion, seq, 0, 0, ""), ("", none, "C_Sign", .dataPlane), (none, none, none, 0, 0, none))

theorem stream_replay_report_gap : ∃ replay,
    ([0, 1, 1, 4].map numberedRecord).foldlM (StreamReplay.pushChecked plainExternals) (StreamReplay.new []) = some replay ∧
      SetReport [0, 1, 1, 4] replay.finish := by
  obtain ⟨replay, checked, -, -, report⟩ := stream_replay_report plainExternals [] ([0, 1, 1, 4].map numberedRecord) (by decide)
  exact ⟨replay, checked, report (by decide)⟩

theorem stream_replay_miscounts : ∃ records : List AuditRecord, (records.map fun record => record.seq.toNat).Pairwise (· ≤ ·) ∧
    ¬ SetReport (records.map fun record => record.seq.toNat)
      (records.foldl (StreamReplay.push plainExternals) (StreamReplay.new [])).finish := by
  refine ⟨List.replicate (2 ^ 64) (numberedRecord 0), ?_, fun report => ?_⟩
  · rw [List.map_replicate]
    exact List.pairwise_replicate.mpr (.inr (Nat.le_refl _))
  · have counted := report.records
    rw [List.length_map, List.length_replicate] at counted
    exact Nat.ne_of_lt (UInt64.toNat_lt _) counted

end Pkcs11Proxy.Audit
