import Pkcs11Proxy.Audit.Replay

namespace Pkcs11Proxy.Audit

open Lib

def Chained (ext : Externals) : ChainState → List AuditRecord → ChainState → Prop
  | start, [], stop => stop = start
  | start, record :: rest, stop =>
    record.seq = start.lastSeq ∧ record.prevHash = start.lastHash ∧
      Chained ext ⟨recordHash ext start.lastHash record, start.lastSeq + 1⟩ rest stop

variable {start stop : ChainState} {records : List AuditRecord} {record : AuditRecord} {chain : ChainState}

section Chain

variable {ext : Externals}

theorem chained_append {left right : List AuditRecord} :
    Chained ext start (left ++ right) stop ↔ ∃ mid, Chained ext start left mid ∧ Chained ext mid right stop := by
  induction left generalizing start with
  | nil => simp [Chained]
  | cons record rest ih =>
    simp only [List.cons_append, Chained, ih]
    constructor
    · rintro ⟨seq, prev, mid, first, second⟩
      exact ⟨mid, ⟨seq, prev, first⟩, second⟩
    · rintro ⟨mid, ⟨seq, prev, first⟩, second⟩
      exact ⟨seq, prev, mid, first, second⟩

theorem chained_stamped (linked : Chained ext start records chain) :
    Chained ext start (records ++ [(chain.append ext record).1]) (chain.append ext record).2 :=
  chained_append.mpr ⟨chain, linked, rfl, rfl, rfl⟩

theorem chained_last {last : AuditRecord} (linked : Chained ext start (records ++ [last]) stop) :
    stop = ⟨recordHash ext last.prevHash last, last.seq + 1⟩ := by
  obtain ⟨mid, -, seq, prev, ended⟩ := chained_append.mp linked
  rw [prev, seq]
  exact ended

theorem chained_length (start stop : ChainState) (records : List AuditRecord) (linked : Chained ext start records stop)
    (room : start.lastSeq.toNat + records.length < 2 ^ 64) : stop.lastSeq.toNat = start.lastSeq.toNat + records.length := by
  induction records generalizing start with
  | nil =>
    cases linked
    rfl
  | cons record rest ih =>
    rw [List.length_cons] at room ⊢
    have next : (start.lastSeq + 1).toNat = start.lastSeq.toNat + 1 := by
      exact Nat.mod_eq_of_lt (by simp; omega)
    have tail := ih _ linked.2.2 (by simp only [next]; omega)
    simp only [next] at tail
    omega

theorem append_all_chained (records : List AuditRecord) (chain : ChainState) :
    Chained ext chain (chain.appendAll ext records).1 (chain.appendAll ext records).2 := by
  induction records generalizing chain with
  | nil => rfl
  | cons record rest ih => exact ⟨rfl, rfl, ih (chain.append ext record).2⟩

end Chain

theorem toNat_succ (a : UInt64) (room : a.toNat + 1 < 2 ^ 64) : (a + 1).toNat = a.toNat + 1 := by
  exact Nat.mod_eq_of_lt room

theorem missing_next (prev : UInt64) : prev + 1 - prev - 1 = 0 := by grind

section Frame

variable {replay : StreamReplay}

theorem compare_seq_frame {prev seq : UInt64} :
    (replay.compareSeq prev seq).expectedPrev = replay.expectedPrev ∧ (replay.compareSeq prev seq).records = replay.records ∧
      (replay.compareSeq prev seq).firstSeq = replay.firstSeq := by
  simp only [StreamReplay.compareSeq]
  repeat' split
  all_goals exact ⟨rfl, rfl, rfl⟩

theorem place_records : (replay.place record).records = replay.records := by
  rw [StreamReplay.place]
  split
  · rfl
  · cases replay.prevSeq with
    | none => rfl
    | some prev => exact compare_seq_frame.2.1

theorem push_records (ext : Externals) (record : AuditRecord) (few : replay.records.toNat + 1 < 2 ^ 64) :
    (replay.push ext record).records.toNat = replay.records.toNat + 1 := by
  simp only [StreamReplay.push, place_records]
  exact toNat_succ _ few

end Frame

structure Replayed (ext : Externals) (needed : List UInt64) (start chain : ChainState) (done : List AuditRecord)
    (replay : StreamReplay) : Prop where
  asked : replay.needed = needed
  records : replay.records.toNat = done.length
  counted : done.length ≤ chain.lastSeq.toNat
  nonempty : done ≠ []
  linksOk : replay.linksOk = true
  ordered : replay.unordered = false
  head : replay.expectedPrev = some chain.lastHash
  first : replay.firstSeq = start.lastSeq
  prev : replay.prevSeq = some replay.lastSeq
  last : replay.lastSeq + 1 = chain.lastSeq
  noGaps : replay.gaps = [] ∧ replay.missingTotal = 0
  noDuplicates : replay.duplicates = [] ∧ replay.dupValuesTotal = 0
  older : ∀ record ∈ done, record.seq.toNat < chain.lastSeq.toNat
  hashes : ∀ record ∈ done, record.seq ∈ needed → replay.seqToHash.lookup record.seq = some (recordHash ext record.prevHash record)
  stamps : ∀ record ∈ done, record.seq ∈ needed → replay.seqToTs.lookup record.seq = some record.tsUnixMs

section

variable (ext : Externals) (needed : List UInt64)

theorem replayed_first (seq : record.seq = start.lastSeq)
    (prev : record.prevHash = start.lastHash) (room : start.lastSeq.toNat + 1 < 2 ^ 64) :
    Replayed ext needed start ⟨recordHash ext start.lastHash record, start.lastSeq + 1⟩ [record]
      ((StreamReplay.new needed).push ext record) where
  asked := rfl
  records := rfl
  counted := by simp [toNat_succ _ room]
  nonempty := by simp
  linksOk := by simp [StreamReplay.push, StreamReplay.place, StreamReplay.new]
  ordered := rfl
  head := by simp [StreamReplay.push, StreamReplay.place, StreamReplay.new, prev]
  first := seq
  prev := rfl
  last := congrArg (fun seq => seq + 1) seq
  noGaps := ⟨rfl, rfl⟩
  noDuplicates := ⟨rfl, rfl⟩
  older other member := by
    rw [List.mem_singleton.mp member, seq, toNat_succ _ room]
    exact Nat.lt_succ_self _
  hashes other member bound := by
    rw [List.mem_singleton.mp member] at bound ⊢
    simp [StreamReplay.push, StreamReplay.place, StreamReplay.new, bound]
  stamps other member bound := by
    rw [List.mem_singleton.mp member] at bound ⊢
    simp [StreamReplay.push, StreamReplay.place, StreamReplay.new, bound]

variable {replay : StreamReplay}

theorem place_successor (later : replay.records ≠ 0)
    (prev : replay.prevSeq = some replay.lastSeq) (next : record.seq = replay.lastSeq + 1)
    (room : replay.lastSeq.toNat + 1 < 2 ^ 64) : replay.place record = replay := by
  have grown := toNat_succ _ room
  have notLess : ¬ record.seq < replay.lastSeq := by
    rw [next, UInt64.lt_iff_toNat_lt, grown]
    omega
  have notSame : record.seq ≠ replay.lastSeq := by
    intro same
    have numbers := congrArg UInt64.toNat (next.symm.trans same)
    omega
  have noneMissing : ¬ record.seq - replay.lastSeq - 1 > 0 := by
    rw [next, missing_next]
    decide
  simp only [StreamReplay.place, if_neg later, prev, StreamReplay.compareSeq, if_neg notLess, if_neg notSame, if_neg noneMissing]

theorem replayed_next {done : List AuditRecord}
    (inv : Replayed ext needed start chain done replay) (seq : record.seq = chain.lastSeq)
    (prev : record.prevHash = chain.lastHash) (room : chain.lastSeq.toNat + 1 < 2 ^ 64) (running : replay.lastSeq.toNat + 1 < 2 ^ 64) :
    Replayed ext needed start ⟨recordHash ext chain.lastHash record, chain.lastSeq + 1⟩ (done ++ [record])
      (replay.push ext record) := by
  have later : replay.records ≠ 0 := by
    intro zero
    have counted := inv.records
    rw [zero] at counted
    exact inv.nonempty (List.length_eq_zero_iff.mp counted.symm)
  have placed := place_successor later inv.prev (seq.trans inv.last.symm) running
  have grown := toNat_succ _ room
  have apart : ∀ other ∈ done, other.seq ≠ record.seq := by
    intro other member same
    have less := inv.older other member
    rw [same, seq] at less
    exact Nat.lt_irrefl _ less
  constructor
  · simp only [StreamReplay.push, placed, inv.asked]
  · have few : replay.records.toNat + 1 < 2 ^ 64 := inv.records ▸ Nat.lt_of_le_of_lt (Nat.succ_le_succ inv.counted) room
    rw [push_records ext _ few, inv.records, List.length_append]
    rfl
  · simpa [grown] using inv.counted
  · simp
  · simp [StreamReplay.push, placed, inv.linksOk, inv.head, prev]
  · simp only [StreamReplay.push, placed, inv.ordered]
  · simp [StreamReplay.push, placed, inv.head]
  · simp only [StreamReplay.push, placed, inv.first]
  · rfl
  · simp only [StreamReplay.push, seq]
  · simp [StreamReplay.push, placed, inv.noGaps]
  · simp [StreamReplay.push, placed, inv.noDuplicates]
  · intro other member
    rw [grown]
    rcases List.mem_append.mp member with old | new
    · exact Nat.lt_succ_of_lt (inv.older other old)
    · rw [List.mem_singleton.mp new, seq]
      exact Nat.lt_succ_self _
  · intro other member bound
    simp only [StreamReplay.push, placed, inv.asked, inv.head, Option.getD_some, List.contains_iff_mem]
    rcases List.mem_append.mp member with old | new
    · split
      · rw [dict_lookup_insert, if_neg (apart other old)]
        exact inv.hashes other old bound
      · exact inv.hashes other old bound
    · rw [List.mem_singleton.mp new] at bound ⊢
      rw [if_pos bound, dict_lookup_insert, if_pos rfl, prev]
  · intro other member bound
    simp only [StreamReplay.push, placed, inv.asked, List.contains_iff_mem]
    rcases List.mem_append.mp member with old | new
    · split
      · rw [dict_lookup_insert, if_neg (apart other old)]
        exact inv.stamps other old bound
      · exact inv.stamps other old bound
    · rw [List.mem_singleton.mp new] at bound ⊢
      rw [if_pos bound, dict_lookup_insert, if_pos rfl]

theorem replayed_rest (start chain stop : ChainState) (rest done : List AuditRecord) (replay : StreamReplay)
    (inv : Replayed ext needed start chain done replay) (linked : Chained ext chain rest stop)
    (room : chain.lastSeq.toNat + rest.length < 2 ^ 64) (positive : 0 < chain.lastSeq.toNat) :
    Replayed ext needed start stop (done ++ rest) (rest.foldl (StreamReplay.push ext) replay) := by
  induction rest generalizing chain done replay with
  | nil =>
    cases linked
    simpa using inv
  | cons record rest ih =>
    obtain ⟨seq, prev, linked⟩ := linked
    rw [List.length_cons] at room
    have grown := toNat_succ chain.lastSeq (by omega)
    have running : replay.lastSeq.toNat + 1 < 2 ^ 64 := by
      by_contra wrapped
      have top := UInt64.toNat_lt replay.lastSeq
      have numbers := congrArg UInt64.toNat inv.last
      rw [UInt64.toNat_add] at numbers
      have full : replay.lastSeq.toNat + (1 : UInt64).toNat = 2 ^ 64 := by
        have one : (1 : UInt64).toNat = 1 := rfl
        omega
      omega
    have next := replayed_next ext needed inv seq prev (by omega) running
    have ended := ih ⟨recordHash ext chain.lastHash record, chain.lastSeq + 1⟩ (done ++ [record]) _ next linked
      (by simp only [grown]; omega) (by simp only [grown]; omega)
    simpa using ended

theorem replayed_honest (nonempty : records ≠ [])
    (linked : Chained ext start records stop) (room : start.lastSeq.toNat + records.length < 2 ^ 64) :
    Replayed ext needed start stop records (records.foldl (StreamReplay.push ext) (StreamReplay.new needed)) := by
  cases records with
  | nil => exact absurd rfl nonempty
  | cons record rest =>
    obtain ⟨seq, prev, linked⟩ := linked
    rw [List.length_cons] at room
    have grown := toNat_succ start.lastSeq (by omega)
    have first := replayed_first ext needed seq prev (by omega)
    exact replayed_rest ext needed start _ stop rest [record] _ first linked (by simp only [grown]; omega)
      (by simp only [grown]; omega)

end

end Pkcs11Proxy.Audit
