import Pkcs11Proxy.Audit.FailedWrites

namespace Pkcs11Proxy.Audit

open Lib

def RefusesTorn (codec : JsonCodec AuditRecord) : Prop :=
  ∀ last next fragment, fragment ≠ [] → fragment <+: codec.enc last → ∃ message, codec.dec (fragment ++ codec.enc next) = .error message

-- A log whose active file lost a part of its last line, perhaps all of it. The
-- anchor seals the lines in `before`, counting from the start of the active file.
structure TornLog (ext : Externals) (rotated : List (Nat × List AuditRecord)) (complete : List AuditRecord) (last : AuditRecord)
    (fragment : Bytes) (before : List AuditRecord) (sealed : ChainState) (dir : LogDir) : Prop where
  files : dir.files = rotated.map (segmentFile ext) ++ [(activeName, recordBytes ext complete ++ fragment)]
  cut : ∃ lost, lost ≠ [] ∧ fragment ++ lost = toJsonl ext last
  anchor : AnchorAt ext dir (recordBytes ext before).length sealed
  covered : before <+: complete ++ [last]

def wholeHead (ext : Externals) (rotated : List (Nat × List AuditRecord)) (complete : List AuditRecord) : ChainState :=
  tailHead ext ChainState.genesis (rotated.flatMap Prod.snd ++ complete)

def accept (env : SinkEnv) (sink : Sink) (record : AuditRecord) : Option Sink :=
  match writeRecordRaw env record sink with
  | .ok _ next => some next
  | .error _ _ => none

-- A record that lost nothing but its newline is still one.
def wholeRecords (ext : Externals) (complete : List AuditRecord) (last : AuditRecord) (fragment : Bytes) : List AuditRecord :=
  if fragment = ext.recordJson.enc last then complete ++ [last] else complete

-- The verifier reads the whole records and the new ones, each from a line of its own,
-- and the new ones continue the chain.
def Rejoined (ext : Externals) (head : ChainState) (complete added : List AuditRecord) (sink : Sink) : Prop :=
  ∃ stamped bytes, List.Forall₂ SameEvent added stamped ∧ sink.disk.dir.readFile activeName = some bytes ∧
    streamFileRecords ext (sink.disk.dir.display activeName) bytes = locatedFrom 1 (complete ++ stamped) ∧
    Chained ext head stamped sink.writer.chain

variable {fragment lost : Bytes} {path : String} {next : Sink} {start : ChainState}

variable {last : AuditRecord} {complete : List AuditRecord}

section Lines

variable {ext : Externals} (lawful : ext.recordJson.Lawful)

include lawful

theorem split_record_lines (records : List AuditRecord) (rest : Bytes) :
    splitLines (recordBytes ext records ++ rest) = records.map ext.recordJson.enc ++ splitLines rest := by
  induction records with
  | nil => rfl
  | cons record others ih =>
    have unfolded : recordBytes ext (record :: others) ++ rest =
        ext.recordJson.enc record ++ newline :: (recordBytes ext others ++ rest) := by
      simp [recordBytes, joinLines]
    rw [unfolded, split_lines_cons (lawful.plain record), ih, List.map_cons, List.cons_append]

theorem fragment_no_newline (some : lost ≠ []) (cut : fragment ++ lost = toJsonl ext last) :
    fragment <+: ext.recordJson.enc last ∧ newline ∉ fragment := by
  rcases List.eq_nil_or_concat' lost with empty | ⟨front, final, rfl⟩
  · exact absurd empty some
  · rw [toJsonl, ← List.append_assoc] at cut
    have whole := (List.append_inj' cut rfl).1
    refine ⟨⟨front, whole⟩, fun member => (lawful.plain last).oneLine ?_⟩
    rw [← whole]
    exact List.mem_append_left front member

theorem split_torn (complete rest : List AuditRecord) (next : AuditRecord) (oneLine : newline ∉ fragment) :
    splitLines (recordBytes ext complete ++ fragment ++ recordBytes ext (next :: rest)) =
      complete.map ext.recordJson.enc ++ (fragment ++ ext.recordJson.enc next) :: rest.map ext.recordJson.enc := by
  have plain := lawful.plain next
  have merged : PlainLine (fragment ++ ext.recordJson.enc next) := by
    refine ⟨fun member => ?_, ?_, List.append_ne_nil_of_right_ne_nil fragment plain.nonempty⟩
    · rcases List.mem_append.mp member with front | back
      · exact oneLine front
      · exact plain.oneLine back
    · rw [List.getLast?_append_of_ne_nil fragment plain.nonempty]
      exact plain.noReturn
  have unfolded : fragment ++ recordBytes ext (next :: rest) =
      (fragment ++ ext.recordJson.enc next) ++ newline :: (recordBytes ext rest ++ []) := by
    simp [recordBytes, joinLines]
  rw [List.append_assoc, split_record_lines lawful, unfolded, split_lines_cons merged, split_record_lines lawful]
  simp [splitLines, linesFrom]

omit lawful in
theorem numbered_line (path : String) (lineNo : Nat) (lines : List Bytes) (line : Bytes) (member : line ∈ lines) :
    ∃ n, (n, if isUtf8 line then .ok line else .error (located path n (.io "stream did not contain valid UTF-8"))) ∈
      numberLines path lineNo lines := by
  induction lines generalizing lineNo with
  | nil => cases member
  | cons first rest ih =>
    rcases List.mem_cons.mp member with rfl | later
    · exact ⟨lineNo, List.mem_cons_self⟩
    · obtain ⟨n, found⟩ := ih (lineNo + 1) later
      exact ⟨n, List.mem_cons_of_mem _ found⟩

omit lawful in
theorem located_ok (lineNo : Nat) (records : List AuditRecord) (item : Except AuditError LocatedRecord)
    (member : item ∈ locatedFrom lineNo records) : ∃ located, item = .ok located := by
  induction records generalizing lineNo with
  | nil => cases member
  | cons record rest ih =>
    rcases List.mem_cons.mp member with rfl | later
    · exact ⟨_, rfl⟩
    · exact ih (lineNo + 1) later

omit lawful in
theorem lines_from_open (current line : Bytes) (some : current ≠ [] ∨ line ≠ []) (oneLine : newline ∉ line) :
    linesFrom current line = [current.reverse ++ line] := by
  induction line generalizing current with
  | nil =>
    have open' : current ≠ [] := some.resolve_right (by simp)
    simp [linesFrom, open']
  | cons byte rest ih =>
    have other : byte ≠ newline := fun same => oneLine (by simp [same])
    rw [linesFrom, if_neg other, ih (byte :: current) (.inl (by simp)) fun member => oneLine (by simp [member])]
    simp

omit lawful in
theorem number_lines_append (path : String) (lineNo : Nat) (left right : List Bytes) :
    numberLines path lineNo (left ++ right) = numberLines path lineNo left ++ numberLines path (lineNo + left.length) right := by
  induction left generalizing lineNo with
  | nil => rfl
  | cons line rest ih =>
    rw [List.cons_append, numberLines, ih, numberLines, List.cons_append, List.length_cons, Nat.add_assoc, Nat.add_comm 1]

theorem torn_line_counted (some : fragment ≠ []) (oneLine : newline ∉ fragment) :
    streamFileRecords ext path (recordBytes ext complete ++ fragment) ≠ locatedFrom 1 complete := by
  intro same
  have open' : splitLines fragment = [fragment] := lines_from_open [] fragment (.inr some) oneLine
  rw [streamFileRecords, streamLines, split_record_lines lawful, open', number_lines_append, List.filterMap_append,
    number_record_lines lawful, List.append_right_eq_self, List.filterMap_eq_nil_iff] at same
  have skipped := same _ List.mem_cons_self
  cases valid : isUtf8 fragment with
  | false => simp [valid, recordItem] at skipped
  | true =>
    simp only [valid, if_true, recordItem, List.isEmpty_eq_false_iff.mpr some, Bool.false_eq_true, if_false] at skipped
    split at skipped
    · cases skipped
    · cases skipped

theorem split_unended (records : List AuditRecord) (last : AuditRecord) :
    splitLines (recordBytes ext records ++ ext.recordJson.enc last) = splitLines (recordBytes ext (records ++ [last])) := by
  have plain := lawful.plain last
  have open' : splitLines (ext.recordJson.enc last) = [ext.recordJson.enc last] := lines_from_open [] _ (.inr plain.nonempty) plain.oneLine
  have ended := split_record_lines lawful (records ++ [last]) []
  rw [List.append_nil] at ended
  rw [split_record_lines lawful, open', ended]
  simp [splitLines, linesFrom]

theorem torn_line_malformed (strict : RefusesTorn ext.recordJson) {rest expected : List AuditRecord}
    {next : AuditRecord} (torn : fragment <+: ext.recordJson.enc last) (some : fragment ≠ []) (oneLine : newline ∉ fragment) :
    streamFileRecords ext path (recordBytes ext complete ++ fragment ++ recordBytes ext (next :: rest)) ≠ locatedFrom 1 expected := by
  intro same
  obtain ⟨message, refused⟩ := strict last next fragment some torn
  have unparsed : fromJsonl ext (fragment ++ ext.recordJson.enc next) = .error message := by
    rw [fromJsonl, trim_end_newlines_plain fun member => ?_, refused]
    rcases List.mem_append.mp member with front | back
    · exact oneLine front
    · exact (lawful.plain next).oneLine back
  obtain ⟨n, numbered⟩ := numbered_line path 1
    (splitLines (recordBytes ext complete ++ fragment ++ recordBytes ext (next :: rest))) (fragment ++ ext.recordJson.enc next)
    (by rw [split_torn lawful complete rest next oneLine]; simp)
  have shown : (fragment ++ ext.recordJson.enc next).isEmpty = false :=
    List.isEmpty_eq_false_iff.mpr (List.append_ne_nil_of_right_ne_nil fragment (lawful.plain next).nonempty)
  have malformed : ∃ error, (Except.error error : Except AuditError LocatedRecord) ∈
      streamFileRecords ext path (recordBytes ext complete ++ fragment ++ recordBytes ext (next :: rest)) := by
    cases valid : isUtf8 (fragment ++ ext.recordJson.enc next) with
    | true =>
      rw [valid, if_pos rfl] at numbered
      refine ⟨located path n (.malformed message), List.mem_filterMap.mpr ⟨_, numbered, ?_⟩⟩
      simp [recordItem, shown, unparsed]
    | false =>
      rw [valid, if_neg Bool.false_ne_true] at numbered
      exact ⟨_, List.mem_filterMap.mpr ⟨_, numbered, rfl⟩⟩
  obtain ⟨error, member⟩ := malformed
  rw [same] at member
  obtain ⟨located, impossible⟩ := located_ok 1 expected _ member
  cases impossible

end Lines

structure Appending (bytes : Bytes) (chain : ChainState) (sink : Sink) : Prop where
  handle : sink.writer.file = activeName
  held : sink.disk.dir.readFile activeName = some bytes
  head : sink.writer.chain = chain

variable {sink : Sink}

section Appends

variable (env : SinkEnv) (bytes : Bytes) (chain : ChainState)

theorem appending_congr (files : next.disk.dir.files = sink.disk.dir.files) (file : next.writer.file = sink.writer.file)
    (head : next.writer.chain = sink.writer.chain) (appending : Appending bytes chain sink) : Appending bytes chain next where
  handle := file.trans appending.handle
  held := by
    rw [LogDir.readFile, files]
    exact appending.held
  head := head.trans appending.head

theorem outcomes_line_appending {stamped : AuditRecord} :
    Outcomes (Appending bytes chain) (lineStep env stamped) (fun _ => Appending (bytes ++ toJsonl env.ext stamped) chain) (fun _ => True) := by
  let grown := Appending (bytes ++ toJsonl env.ext stamped) chain
  apply outcomes_get
  intro read
  apply outcomes_bind fun _ => grown
  · apply outcomes_torn_op
    · intro sink dir given performed
      obtain ⟨rfl, appending⟩ := given
      obtain ⟨_, -, rfl⟩ := Option.map_eq_some_iff.mp performed
      refine ⟨appending.handle, ?_, appending.head⟩
      have reads := read_append sink.disk.dir sink.writer.file activeName (toJsonl env.ext stamped)
      rw [appending.handle, if_pos rfl, appending.held] at reads
      rw [appending.handle]
      exact reads
    · exact fun _ _ _ => trivial
    · exact fun _ _ _ _ _ _ _ => trivial
  intro _
  apply outcomes_bind fun _ => grown
  · apply outcomes_set_writer
    intro sink appending
    exact ⟨appending.handle, appending.held, appending.head⟩
  intro _
  apply outcomes_get
  intro written
  apply outcomes_ite
  · intro _
    exact outcomes_weaken _ _ (fun _ given => given.2) (fun _ _ kept => kept) (fun _ _ => trivial)
      (outcomes_checkpoint_framed env fun sink next files file _ => appending_congr _ chain files file)
  · intro _
    exact outcomes_pure fun sink given => given.2

variable {record : AuditRecord}

omit bytes chain in
theorem accept_of_ok (ran : writeRecordRaw env record sink = .ok () next) :
    accept env sink record = some next := by
  rw [accept, ran]

theorem accept_appends (appending : Appending bytes chain sink)
    (unrotated : sink.mustRotate env record = false) (accepted : accept env sink record = some next) :
    Appending (bytes ++ toJsonl env.ext (chain.append env.ext record).1) (chain.append env.ext record).2 next := by
  obtain rfl := appending.head
  cases ran : writeRecordRaw env record sink with
  | error error after => simp [accept, ran] at accepted
  | ok value after =>
    simp only [accept, ran, Option.some.injEq] at accepted
    subst accepted
    rw [write_record_raw_steps rfl, if_neg (of_decide_eq_false unrotated)] at ran
    exact (outcomes_line_appending env bytes _).ends _ value after ran ⟨appending.handle, appending.held, rfl⟩

theorem accepted_append (added : List AuditRecord) (sink final : Sink) (appending : Appending bytes chain sink)
    (unrotated : along (accept env) (fun sink record => sink.mustRotate env record = false) sink added)
    (accepted : exec (accept env) sink added = some final) :
    Appending (bytes ++ recordBytes env.ext (chain.appendAll env.ext added).1) (chain.appendAll env.ext added).2 final := by
  induction added generalizing sink bytes chain with
  | nil =>
    cases accepted
    rw [show recordBytes env.ext (chain.appendAll env.ext []).1 = [] from rfl, List.append_nil]
    exact appending
  | cons record rest ih =>
    obtain ⟨next, taken, remaining⟩ := exec_cons_some accepted
    have grown := accept_appends env bytes chain appending unrotated.1 taken
    have finished := ih _ _ next grown (unrotated.2 next taken) remaining
    rw [List.append_assoc] at finished
    exact finished

theorem opened_appending {rotateMaxBytes rotateKeepFiles : Nat} {opened : Sink}
    (opens : openWriter env rotateMaxBytes rotateKeepFiles sink = .ok () opened) (held : sink.disk.dir.readFile activeName = some bytes) :
    ∃ chain, reconstructChainState env.ext sink.disk.dir = .ok chain ∧ Appending bytes chain opened := by
  have steps := run_get.symm.trans opens
  cases resumes : reconstructChainState env.ext sink.disk.dir with
  | error message =>
    simp only [resumes] at steps
    cases steps
  | ok chain =>
    simp only [resumes] at steps
    cases works : env.works sink.disk.attempts with
    | false =>
      rw [run_fs_op_fault works] at steps
      cases steps
    | true =>
      have kept : sink.disk.dir.createFile activeName = sink.disk.dir := by rw [LogDir.createFile, held]
      rw [run_fs_op_bind (.openAppend activeName) sink _ works rfl] at steps
      cases steps
      exact ⟨chain, rfl, rfl, by rw [← held]; exact congrArg (LogDir.readFile · activeName) kept, rfl⟩

end Appends

variable {sealed : ChainState}

section Reopened

variable {ext : Externals} (lawful : ext.Lawful)

theorem tail_head_past {other : ChainState} {front past : List AuditRecord} (some : past ≠ []) :
    tailHead ext start (front ++ past) = tailHead ext other past := by
  simp [tailHead, List.getLast?_eq_some_getLast some]

include lawful

theorem reconstruct_beyond {dir : LogDir} {records : List AuditRecord} {covered : Nat}
    (held : dir.readFile activeName = some (recordBytes ext records)) (beyond : (recordBytes ext records).length < covered)
    (anchored : AnchorAt ext dir covered sealed) : reconstructChainState ext dir = .ok (tailHead ext sealed records) := by
  obtain ⟨offset, fallback⟩ := read_anchor_at lawful anchored
  have read : readActiveSuffix dir 0 = some (recordBytes ext records) := by
    simp [readActiveSuffix, held, utf8_record_bytes lawful.record]
  simp only [reconstructChainState, held, offset, if_pos beyond, read, last_valid_record_bytes lawful.record, tailHead]
  cases records.getLast? with
  | some last => rfl
  | none => exact fallback

variable {rotated : List (Nat × List AuditRecord)} {complete : List AuditRecord} {last : AuditRecord} {before : List AuditRecord}
  {sealed : ChainState} {dir : LogDir}

omit lawful in
theorem torn_held (torn : TornLog ext rotated complete last fragment before sealed dir) :
    dir.readFile activeName = some (recordBytes ext complete ++ fragment) := by
  rw [LogDir.readFile, torn.files, List.lookup_append, lookup_rotated_active]
  simp

theorem reconstruct_cut (torn : TornLog ext rotated complete last [] before sealed dir) :
    reconstructChainState ext dir = .ok (if complete ≠ [] ∧ before ≠ complete then wholeHead ext rotated complete else sealed) := by
  have held := torn_held torn
  rw [List.append_nil] at held
  rcases List.prefix_concat_iff.mp torn.covered with all | ⟨tail, rfl⟩
  · have beyond : (recordBytes ext complete).length < (recordBytes ext before).length := by
      rw [all, record_bytes_snoc, List.length_append, toJsonl]
      simp
    rw [reconstruct_beyond lawful held beyond torn.anchor]
    by_cases none : complete = []
    · subst none
      simp [tailHead]
    · have longer : before ≠ complete := by
        rw [all]
        exact fun same => by simpa using congrArg List.length same
      rw [if_pos ⟨none, longer⟩, wholeHead, tail_head_past none]
  · rw [reconstruct_active lawful held torn.anchor]
    by_cases none : tail = []
    · subst none
      simp [tailHead]
    · have longer : before ≠ before ++ tail := fun same => none (by simpa using same)
      rw [if_pos ⟨by simp [none], longer⟩, wholeHead, ← List.append_assoc,
        tail_head_past none]

theorem reconstruct_unended (torn : TornLog ext rotated complete last (ext.recordJson.enc last) before sealed dir) :
    reconstructChainState ext dir = .ok (wholeHead ext rotated (complete ++ [last])) := by
  have held := torn_held torn
  obtain ⟨offset, -⟩ := read_anchor_at lawful torn.anchor
  have valid : ∀ tail, isUtf8 (recordBytes ext tail ++ ext.recordJson.enc last) = true := fun tail =>
    utf8_append (utf8_record_bytes lawful.record tail) (utf8_line lawful.record last)
  have ended : ∀ tail, lastValidRecord ext (recordBytes ext tail ++ ext.recordJson.enc last) = some last := by
    intro tail
    have whole := last_valid_record_bytes lawful.record (tail ++ [last])
    rw [lastValidRecord, ← split_unended lawful.record, List.getLast?_concat] at whole
    exact whole
  have suffix : ∃ tail, readActiveSuffix dir (if (recordBytes ext before).length > (recordBytes ext complete ++ ext.recordJson.enc last).length
      then 0 else (recordBytes ext before).length) = some (recordBytes ext tail ++ ext.recordJson.enc last) := by
    rcases List.prefix_concat_iff.mp torn.covered with all | ⟨tail, rfl⟩
    · refine ⟨complete, ?_⟩
      rw [if_pos (by rw [all, record_bytes_snoc, toJsonl]; simp)]
      simp [readActiveSuffix, held, valid]
    · have split : recordBytes ext (before ++ tail) = recordBytes ext before ++ recordBytes ext tail := join_lines_append
      refine ⟨tail, ?_⟩
      rw [if_neg (by rw [split]; simp)]
      simp [readActiveSuffix, held, split, valid]
  obtain ⟨tail, read⟩ := suffix
  simp only [reconstructChainState, held, offset, read, ended tail]
  simp [wholeHead, tailHead]

end Reopened

section Rejoining

variable {ext : Externals}

theorem same_events (chain : ChainState) (added : List AuditRecord) : List.Forall₂ SameEvent added (chain.appendAll ext added).1 := by
  induction added generalizing chain with
  | nil => exact .nil
  | cons record rest ih => exact .cons ⟨_, _, rfl⟩ (ih _)

theorem chained_from_iff {head chain : ChainState} {added : List AuditRecord} :
    Chained ext head (chain.appendAll ext added).1 (chain.appendAll ext added).2 ↔ chain = head := by
  constructor
  · intro linked
    cases added with
    | nil => exact linked
    | cons record rest =>
      obtain ⟨seq, prev, -⟩ := linked
      exact congrArg₂ ChainState.mk prev seq
  · rintro rfl
    exact append_all_chained added chain

theorem located_injective {lineNo : Nat} {left right : List AuditRecord} (same : locatedFrom lineNo left = locatedFrom lineNo right) :
    left = right := by
  rw [← located_records lineNo left, same, located_records]

variable (env : SinkEnv) (lawful : env.ext.Lawful) (rotated : List (Nat × List AuditRecord)) (complete : List AuditRecord)
  (last : AuditRecord) (before : List AuditRecord) (sealed : ChainState) (rotateMaxBytes rotateKeepFiles : Nat)
  (sink opened final : Sink) (added : List AuditRecord)
  (opens : openWriter env rotateMaxBytes rotateKeepFiles sink = .ok () opened)
  (accepted : exec (accept env) opened added = some final)
  (unrotated : along (accept env) (fun sink record => sink.mustRotate env record = false) opened added)

include lawful opens accepted unrotated

theorem whole_rejoins_iff (torn : TornLog env.ext rotated complete last [] before sealed sink.disk.dir) :
    Rejoined env.ext (wholeHead env.ext rotated complete) complete added final ↔
      (complete ≠ [] ∧ before ≠ complete) ∨ sealed = wholeHead env.ext rotated complete := by
  have held := torn_held torn
  obtain ⟨chain, resumes, ready⟩ := opened_appending env _ opens held
  have appended := accepted_append env _ chain added opened final ready unrotated accepted
  have cut := reconstruct_cut lawful torn
  rw [resumes, Except.ok.injEq] at cut
  have joined : recordBytes env.ext complete ++ [] ++ recordBytes env.ext (chain.appendAll env.ext added).1 =
      recordBytes env.ext (complete ++ (chain.appendAll env.ext added).1) := by
    rw [List.append_nil, recordBytes, recordBytes, recordBytes, join_lines_append]
  have lines := stream_records lawful.record (final.disk.dir.display activeName) (complete ++ (chain.appendAll env.ext added).1)
  have rejoined : Rejoined env.ext (wholeHead env.ext rotated complete) complete added final ↔ chain = wholeHead env.ext rotated complete := by
    rw [← chained_from_iff]
    constructor
    · rintro ⟨stamped, bytes, -, read, streamed, linked⟩
      rw [appended.held, Option.some.injEq, joined] at read
      rw [← read, lines] at streamed
      rw [List.append_cancel_left (located_injective streamed), ← appended.head]
      exact linked
    · intro linked
      rw [← appended.head] at linked
      exact ⟨_, _, same_events chain added, appended.held, by rw [joined, lines], linked⟩
  rw [rejoined, cut]
  by_cases past : complete ≠ [] ∧ before ≠ complete
  · simp [past]
  · rw [if_neg past]
    exact ⟨.inr, fun recovers => recovers.resolve_left past⟩

theorem unended_rejoins (torn : TornLog env.ext rotated complete last (env.ext.recordJson.enc last) before sealed sink.disk.dir)
    (none : added = []) : Rejoined env.ext (wholeHead env.ext rotated (complete ++ [last])) (complete ++ [last]) added final := by
  subst none
  cases accepted
  obtain ⟨chain, resumes, ready⟩ := opened_appending env _ opens (torn_held torn)
  rw [reconstruct_unended lawful torn, Except.ok.injEq] at resumes
  refine ⟨[], _, .nil, ready.held, ?_, ready.head.trans resumes.symm⟩
  rw [List.append_nil, ← stream_records lawful.record, streamFileRecords, streamLines, split_unended lawful.record]
  rfl

theorem torn_not_rejoined (strict : RefusesTorn env.ext.recordJson)
    (torn : TornLog env.ext rotated complete last fragment before sealed sink.disk.dir) (left : fragment ≠ [])
    (kept : List AuditRecord) (alone : added = [] → kept = complete) (head : ChainState) : ¬ Rejoined env.ext head kept added final := by
  have held := torn_held torn
  obtain ⟨chain, -, ready⟩ := opened_appending env _ opens held
  have appended := accepted_append env _ chain added opened final ready unrotated accepted
  obtain ⟨lost, some, cut⟩ := torn.cut
  obtain ⟨inside, oneLine⟩ := fragment_no_newline lawful.record some cut
  rintro ⟨stamped, bytes, events, read, streamed, -⟩
  rw [appended.held, Option.some.injEq] at read
  subst read
  cases added with
  | nil =>
    cases events
    rw [alone rfl, List.append_nil, show recordBytes env.ext (chain.appendAll env.ext []).1 = [] from rfl, List.append_nil] at streamed
    exact torn_line_counted lawful.record left oneLine streamed
  | cons record rest =>
    exact torn_line_malformed lawful.record strict inside left oneLine streamed

-- The next writer takes up a cut log exactly when the cut fell between two lines and
-- the anchor does not speak for a line that is gone, or when only a newline was lost
-- and nothing is written behind it.
theorem torn_tail_rejoins (strict : RefusesTorn env.ext.recordJson) (fragment : Bytes)
    (torn : TornLog env.ext rotated complete last fragment before sealed sink.disk.dir) :
    Rejoined env.ext (wholeHead env.ext rotated (wholeRecords env.ext complete last fragment)) (wholeRecords env.ext complete last fragment)
        added final ↔
      (fragment = [] ∧ ((complete ≠ [] ∧ before ≠ complete) ∨ sealed = wholeHead env.ext rotated complete)) ∨
        (fragment = env.ext.recordJson.enc last ∧ added = []) := by
  have some := (lawful.record.plain last).nonempty
  by_cases whole : fragment = []
  · subst whole
    rw [wholeRecords, if_neg some.symm, whole_rejoins_iff env lawful rotated complete last before sealed rotateMaxBytes rotateKeepFiles sink
      opened final added opens accepted unrotated torn]
    simp [some.symm]
  · by_cases unended : fragment = env.ext.recordJson.enc last ∧ added = []
    · obtain ⟨rfl, none⟩ := unended
      rw [wholeRecords, if_pos rfl]
      exact iff_of_true (unended_rejoins env lawful rotated complete last before sealed rotateMaxBytes rotateKeepFiles sink opened final added
        opens accepted unrotated torn none) (.inr ⟨rfl, none⟩)
    · have lost := torn_not_rejoined env lawful rotated complete last before sealed rotateMaxBytes rotateKeepFiles sink opened final added
        opens accepted unrotated strict torn whole (wholeRecords env.ext complete last fragment)
        (fun none => if_neg fun same => unended ⟨same, none⟩)
      exact iff_of_false (lost _) fun either => either.elim (fun cut => whole cut.1) unended

end Rejoining

def LogDir.tear (dir : LogDir) (kept : Bytes) : LogDir :=
  { dir with files := dir.files.map fun file => if file.1 = activeName then (file.1, kept) else file }

theorem settled_torn {env : SinkEnv} {fits : Prop} {layout : LogLayout} {chain : ChainState} {before tail : List AuditRecord}
    (inv : Settled env fits sink layout start chain before tail sealed) (shape : before ++ tail = complete ++ [last])
    (some : lost ≠ []) (cut : fragment ++ lost = toJsonl env.ext last) :
    TornLog env.ext layout.rotated complete last fragment before sealed (sink.disk.dir.tear (recordBytes env.ext complete ++ fragment)) where
  files := by
    have segments := map_segments_active env.ext layout.rotated fun file => (file.1, recordBytes env.ext complete ++ fragment)
    simp [LogDir.tear, inv.disk.files, LogLayout.files, inv.active, segments]
  cut := ⟨lost, some, cut⟩
  anchor := inv.anchor
  covered := by
    rw [← shape]
    exact List.prefix_append before tail

-- Whatever a writer did, as long as its file operations worked: tearing the active
-- file's last line gives a torn log.
theorem run_torn (env : SinkEnv) (lawful : env.ext.Lawful) (works : ∀ n, env.works n = true) (path : String)
    (rotateMaxBytes rotateKeepFiles : Nat) (events : List SinkEvent) (sink : Sink)
    (ran : runSink env (bootSink env path rotateMaxBytes rotateKeepFiles) events = sink) (room : sink.view.lines < 2 ^ 64) :
    ∃ rotated records before sealed, sink.disk.dir.readFile activeName = some (recordBytes env.ext records) ∧
      ∀ complete last fragment lost, records = complete ++ [last] → lost ≠ [] → fragment ++ lost = toJsonl env.ext last →
        TornLog env.ext rotated complete last fragment before sealed (sink.disk.dir.tear (recordBytes env.ext complete ++ fragment)) := by
  have plan := working_plan works
  have alive := run_sink_alive env False lawful (fun unfit => unfit.elim) plan (timely_unfit env events)
    (boot_alive env False lawful (fun unfit => unfit.elim) plan path rotateMaxBytes rotateKeepFiles)
  rw [ran] at alive
  rcases alive with ⟨-, layout, start, before, tail, sealed, inv⟩ | crashed | overrun
  · have held := layout_read_active inv.disk.files
    rw [inv.active, Option.map_some] at held
    exact ⟨layout.rotated, before ++ tail, before, sealed, held, fun complete last fragment lost shape some cut =>
      settled_torn inv shape some cut⟩
  · have stopped := crashed.frozen _ (Nat.le_refl _)
    rw [works] at stopped
    cases stopped
  · exact absurd overrun (Nat.not_le_of_lt room)

def exactCodec {α : Type} (codec : JsonCodec α) : JsonCodec α where
  enc := codec.enc
  dec bytes :=
    match codec.dec bytes with
    | .ok value => if codec.enc value = bytes then .ok value else .error "trailing characters"
    | .error message => .error message

theorem exact_lawful {α : Type} {codec : JsonCodec α} (lawful : codec.Lawful) : (exactCodec codec).Lawful where
  roundTrip value := by simp [exactCodec, lawful.roundTrip]
  plain := lawful.plain
  visible := lawful.visible
  valid := lawful.valid

def exactExternals : Externals := { plainExternals with recordJson := exactCodec plainExternals.recordJson }

theorem exact_externals_lawful : exactExternals.Lawful :=
  { plain_externals_lawful with record := exact_lawful plain_externals_lawful.record }

theorem exact_refuses_torn : RefusesTorn exactExternals.recordJson := by
  intro last next fragment some _
  cases read : plainExternals.recordJson.dec (fragment ++ plainExternals.recordJson.enc next) with
  | error message => exact ⟨message, by simp [exactExternals, exactCodec, read]⟩
  | ok value =>
    have other : plainExternals.recordJson.enc value ≠ fragment ++ plainExternals.recordJson.enc next := by
      intro same
      cases fragment with
      | nil => exact some rfl
      | cons byte rest =>
        have inside : openBrace ∈ recordCode.put value ++ [closeBrace] := by
          have tails : recordCode.put value ++ [closeBrace] = rest ++ plainExternals.recordJson.enc next := (List.cons.inj same).2
          rw [tails]
          exact List.mem_append_right rest List.mem_cons_self
        rcases List.mem_append.mp inside with digit | final
        · exact absurd (recordCode.tallied value openBrace digit) (by decide)
        · exact absurd (List.mem_singleton.mp final) (by decide)
    exact ⟨"trailing characters", by simp [exactExternals, exactCodec, read, other]⟩

section Cuts

variable (ext : Externals) (lawful : ext.Lawful)

def calmEnv : SinkEnv := ⟨ext, fun _ => 0, fun _ => true, fun _ => 0, none, 1000⟩

def sampleLimit : Nat := sampleSize ext 0 + sampleSize ext 1 + sampleSize ext 2

def sampleRun : Sink := runSink (calmEnv ext) (bootSink (calmEnv ext) "log" (sampleLimit ext) 1) [sampleEvent]

def cutSink (kept : Bytes) : Sink :=
  { sampleRun ext with disk := { (sampleRun ext).disk with dir := (sampleRun ext).disk.dir.tear kept } }

variable {kept : Bytes}

theorem cut_files : (cutSink ext kept).disk.dir.files = [(activeName, kept)] := by
  rfl

theorem cut_held (kept : Bytes) : (cutSink ext kept).disk.dir.readFile activeName = some kept := by
  rw [LogDir.readFile, cut_files, List.lookup_cons, beq_self_eq_true]

theorem cut_reopens (small : kept.length ≤ sampleSize ext 0)
    (resumes : reconstructChainState ext (cutSink ext kept).disk.dir = .ok (sampleHead ext 1)) :
    ∃ opened final, openWriter (calmEnv ext) (sampleLimit ext) 1 (cutSink ext kept) = .ok () opened ∧
      exec (accept (calmEnv ext)) opened [sampleEntry] = some final ∧
      along (accept (calmEnv ext)) (fun sink record => sink.mustRotate (calmEnv ext) record = false) opened [sampleEntry] := by
  let env := calmEnv ext
  have opens := open_writer_ok env (sampleLimit ext) 1 (cutSink ext kept) _ resumes rfl
  have held := cut_held ext kept
  let writer : WriterState := ⟨sampleHead ext 1, activeName, kept.length, sampleLimit ext, 1, 0, 0, 0, 0⟩
  let opened : Sink := { (cutSink ext kept).after (.openAppend activeName) (cutSink ext kept).disk.dir with writer := writer }
  have room : kept.length + sampleSize ext 1 ≤ sampleLimit ext := by
    rw [sampleLimit]
    omega
  obtain ⟨unrotated, steps⟩ := write_unrotated env opened sampleEntry room
  have performed : (FsOp.writeAll activeName (toJsonl ext (sampleStamp ext 1))).perform (cutSink ext kept).disk.dir =
      some ((cutSink ext kept).disk.dir.appendFile activeName (toJsonl ext (sampleStamp ext 1))) := by
    rw [FsOp.perform, held, Option.map_some]
  let ready : Sink := { opened with writer := { writer with chain := sampleHead ext 2 } }
  have lands := steps.trans (line_lands env ready (sampleStamp ext 1) rfl performed (show 0 + 1 < 1000 by decide))
  have accepted := accept_of_ok env lands
  exact ⟨opened, _, opens, congrArg (fun result => result.bind fun next => exec (accept env) next []) accepted, unrotated,
    fun _ _ => trivial⟩

theorem newline_torn : TornLog ext [] [] (sampleStamp ext 0) (ext.recordJson.enc (sampleStamp ext 0)) [] ChainState.genesis
    (cutSink ext (ext.recordJson.enc (sampleStamp ext 0))).disk.dir where
  files := cut_files ext
  cut := ⟨[newline], by simp, rfl⟩
  anchor := .inl ⟨rfl, rfl, rfl⟩
  covered := List.nil_prefix

include lawful in
theorem newline_resumes :
    reconstructChainState ext (cutSink ext (ext.recordJson.enc (sampleStamp ext 0))).disk.dir = .ok (sampleHead ext 1) :=
  reconstruct_unended lawful (newline_torn ext)

theorem line_torn : TornLog ext [] [sampleStamp ext 0] (sampleStamp ext 1) [] [] ChainState.genesis
    (cutSink ext (toJsonl ext (sampleStamp ext 0))).disk.dir where
  files := by
    have bytes : recordBytes ext [sampleStamp ext 0] = toJsonl ext (sampleStamp ext 0) := record_bytes_snoc ext [] (sampleStamp ext 0)
    rw [cut_files, List.append_nil, bytes]
    rfl
  cut := ⟨toJsonl ext (sampleStamp ext 1), by simp [toJsonl], rfl⟩
  anchor := .inl ⟨rfl, rfl, rfl⟩
  covered := List.nil_prefix

include lawful in
theorem line_resumes : reconstructChainState ext (cutSink ext (toJsonl ext (sampleStamp ext 0))).disk.dir = .ok (sampleHead ext 1) := by
  rw [reconstruct_cut lawful (line_torn ext), if_pos ⟨by simp, by simp⟩]
  rfl

end Cuts

theorem run_torn_sample : ∃ rotated complete last before sealed,
    TornLog plainExternals rotated complete last (plainExternals.recordJson.enc last) before sealed
      ((sampleRun plainExternals).disk.dir.tear (recordBytes plainExternals complete ++ plainExternals.recordJson.enc last)) := by
  obtain ⟨rotated, records, before, sealed, held, torn⟩ := run_torn (calmEnv plainExternals) plain_externals_lawful (fun _ => rfl) "log"
    (sampleLimit plainExternals) 1 [sampleEvent] _ rfl (by decide)
  rcases List.eq_nil_or_concat records with rfl | ⟨complete, last, rfl⟩
  · have active : (sampleRun plainExternals).disk.dir.readFile activeName = some (toJsonl plainExternals (sampleStamp plainExternals 0)) := rfl
    have same := Option.some.inj (held.symm.trans active)
    cases same
  · exact ⟨rotated, complete, last, before, sealed, torn complete last _ [newline] List.concat_eq_append (by simp) rfl⟩

theorem torn_tail_rejoins_after_line : ∃ opened final,
    openWriter (calmEnv exactExternals) (sampleLimit exactExternals) 1
        (cutSink exactExternals (toJsonl exactExternals (sampleStamp exactExternals 0))) = .ok () opened ∧
      exec (accept (calmEnv exactExternals)) opened [sampleEntry] = some final ∧
      Rejoined exactExternals (wholeHead exactExternals [] (wholeRecords exactExternals [sampleStamp exactExternals 0]
        (sampleStamp exactExternals 1) []))
        (wholeRecords exactExternals [sampleStamp exactExternals 0] (sampleStamp exactExternals 1) []) [sampleEntry] final := by
  obtain ⟨opened, final, opens, accepted, unrotated⟩ := cut_reopens exactExternals (Nat.le_refl _)
    (line_resumes exactExternals exact_externals_lawful)
  exact ⟨opened, final, opens, accepted, (torn_tail_rejoins (calmEnv exactExternals) exact_externals_lawful [] _ _ [] _ _ 1 _ opened final
    [sampleEntry] opens accepted unrotated exact_refuses_torn [] (line_torn exactExternals)).mpr (.inl ⟨rfl, .inl ⟨by simp, by simp⟩⟩)⟩

-- A writer writes one record, a crash takes only that line's newline, and the next
-- writer's first record is read as part of the same, malformed line.
theorem lost_newline_merges_records : ∃ opened final,
    (cutSink exactExternals (exactExternals.recordJson.enc (sampleStamp exactExternals 0))).disk.dir =
        (runSink (calmEnv exactExternals) (bootSink (calmEnv exactExternals) "log" (sampleLimit exactExternals) 1)
          [sampleEvent]).disk.dir.tear (exactExternals.recordJson.enc (sampleStamp exactExternals 0)) ∧
      openWriter (calmEnv exactExternals) (sampleLimit exactExternals) 1
        (cutSink exactExternals (exactExternals.recordJson.enc (sampleStamp exactExternals 0))) = .ok () opened ∧
      exec (accept (calmEnv exactExternals)) opened [sampleEntry] = some final ∧
      ¬ Rejoined exactExternals (wholeHead exactExternals [] [sampleStamp exactExternals 0]) [sampleStamp exactExternals 0]
        [sampleEntry] final := by
  have small : (exactExternals.recordJson.enc (sampleStamp exactExternals 0)).length ≤ sampleSize exactExternals 0 := by
    rw [sampleSize, toJsonl, List.length_append]
    exact Nat.le_add_right _ _
  obtain ⟨opened, final, opens, accepted, unrotated⟩ := cut_reopens exactExternals small
    (newline_resumes exactExternals exact_externals_lawful)
  exact ⟨opened, final, rfl, opens, accepted, torn_not_rejoined (calmEnv exactExternals) exact_externals_lawful [] [] _ [] _ _ 1 _ opened
    final [sampleEntry] opens accepted unrotated exact_refuses_torn (newline_torn exactExternals)
    (exact_externals_lawful.record.plain _).nonempty _ (by simp) _⟩

end Pkcs11Proxy.Audit
