import Mathlib.Data.Char
import Mathlib.Data.List.Sort
import Pkcs11Proxy.Audit.Replay

namespace Pkcs11Proxy.Audit

open Lib

inductive AuditError where
  | malformed (message : String)
  | badSignature (message : String)
  | io (message : String)
deriving DecidableEq, Repr

abbrev FileName := List Char

-- The audit directory: the checkpoint sidecar and the anchor under their fixed
-- names, and every other file in the order `read_dir` happens to list it.
structure LogDir where
  path : String
  files : List (FileName × Bytes)
  checkpoints : Option Bytes
  anchor : Option Bytes
deriving DecidableEq

def activeName : FileName := "audit.jsonl".toList
def rotatedPrefix : FileName := "audit.".toList
def rotatedSuffix : FileName := ".jsonl".toList

def LogDir.display (dir : LogDir) (name : FileName) : String := dir.path ++ "/" ++ String.ofList name
def LogDir.checkpointsDisplay (dir : LogDir) : String := dir.path ++ "/audit.checkpoints.jsonl"
def LogDir.anchorDisplay (dir : LogDir) : String := dir.path ++ "/audit.anchor.json"

def stripStart (start name : FileName) : Option FileName :=
  if start.isPrefixOf name then some (name.drop start.length) else none

def stripEnd (ending name : FileName) : Option FileName :=
  if ending.isSuffixOf name then some (name.take (name.length - ending.length)) else none

def rotationDigits (name : FileName) : Option FileName := (stripStart rotatedPrefix name).bind (stripEnd rotatedSuffix)

def isAuditLog (name : FileName) : Bool :=
  if name = activeName then true
  else
    match rotationDigits name with
    | some digits => !digits.isEmpty && digits.all Char.isDigit
    | none => false

def logFileOrderKey (name : FileName) : Nat × Nat × FileName :=
  if name = activeName then (1, 0, [])
  else
    let digits := (rotationDigits name).getD []
    (0, digits.length, digits)

def orderKeyLe (a b : Nat × Nat × FileName) : Bool :=
  a.1 < b.1 || (a.1 == b.1 && (a.2.1 < b.2.1 || (a.2.1 == b.2.1 && decide (a.2.2 ≤ b.2.2))))

def collectLogFiles (dir : LogDir) : List (FileName × Bytes) :=
  (dir.files.filter fun file => isAuditLog file.1).mergeSort fun a b =>
    orderKeyLe (logFileOrderKey a.1) (logFileOrderKey b.1)

def located (path : String) (lineNo : Nat) : AuditError → AuditError
  | .malformed message => .malformed (path ++ ":" ++ toString lineNo ++ ": " ++ message)
  | .badSignature message => .badSignature (path ++ ":" ++ toString lineNo ++ ": " ++ message)
  | .io message => .io (path ++ ":" ++ toString lineNo ++ ": " ++ message)

structure LocatedRecord where
  lineNo : Nat
  record : AuditRecord
deriving DecidableEq, Repr

def isUtf8 (bytes : Bytes) : Bool := decide (ByteArray.IsValidUTF8 ⟨bytes.toArray⟩)

def numberLines (path : String) (lineNo : Nat) : List Bytes → List (Nat × Except AuditError Bytes)
  | [] => []
  | line :: rest =>
    (lineNo, if isUtf8 line then .ok line else .error (located path lineNo (.io "stream did not contain valid UTF-8"))) ::
      numberLines path (lineNo + 1) rest

def streamLines (path : String) (bytes : Bytes) : List (Nat × Except AuditError Bytes) := numberLines path 1 (splitLines bytes)

section

variable (ext : Externals)

def recordItem (path : String) (lineNo : Nat) : Except AuditError Bytes → Option (Except AuditError LocatedRecord)
  | .error error => some (.error error)
  | .ok line =>
    if line.isEmpty then none
    else
      match fromJsonl ext line with
      | .ok record => some (.ok ⟨lineNo, record⟩)
      | .error message => some (.error (located path lineNo (.malformed message)))

def streamFileRecords (path : String) (bytes : Bytes) : List (Except AuditError LocatedRecord) :=
  (streamLines path bytes).filterMap fun (lineNo, item) => recordItem ext path lineNo item

def checkSchemaVersion (path : String) (lineNo : Nat) (record : AuditRecord) : Except AuditError Unit :=
  if record.schemaVersion ≠ auditSchemaVersion then
    .error (located path lineNo (.malformed ("schema version skew at seq " ++ toString record.seq ++ ": found " ++
      toString record.schemaVersion ++ ", expected " ++ toString auditSchemaVersion)))
  else .ok ()

structure CheckpointSidecar where
  lines : List CheckpointLine
  verifier : Option Bytes
  signatureChecked : Bool
  missing : Bool
deriving DecidableEq

def CheckpointSidecar.neededSeqs (sidecar : CheckpointSidecar) : List UInt64 :=
  sidecar.lines.map fun line => line.checkpoint.seq

def pushCheckpointLine (path : String) (lines : List CheckpointLine) (lineNo : Nat) :
    Except AuditError Bytes → Except AuditError (List CheckpointLine)
  | .error error => .error error
  | .ok line =>
    if line.isEmpty then .ok lines
    else
      match ext.checkpointLineJson.dec line with
      | .ok parsed => .ok (lines ++ [parsed])
      | .error message => .error (located path lineNo (.malformed message))

def readCheckpointLines (path : String) (bytes : Bytes) : Except AuditError (List CheckpointLine) :=
  (streamLines path bytes).foldlM (fun lines (lineNo, item) => pushCheckpointLine ext path lines lineNo item) []

def readCheckpointSidecar (dir : LogDir) (publicKeyHex : Option String) : Except AuditError CheckpointSidecar :=
  match dir.checkpoints with
  | none => .ok ⟨[], none, publicKeyHex.isSome, true⟩
  | some bytes => do
      let verifier ← match publicKeyHex with
        | some pubHex =>
          match ext.loadVerifier pubHex with
          | .ok key => pure (some key)
          | .error message => throw (.badSignature message)
        | none => pure none
      let lines ← readCheckpointLines ext dir.checkpointsDisplay bytes
      return ⟨lines, verifier, verifier.isSome, false⟩

structure CheckpointTally where
  verified : Nat
  failed : Nat
  evaluated : Nat
deriving DecidableEq, Repr

def saturatingPred (a : UInt64) : UInt64 := if a = 0 then 0 else a - 1

def checkpointHolds (verifier : Option Bytes) (seqToHash : Dict UInt64 String) (seqToTs : Dict UInt64 UInt64)
    (line : CheckpointLine) : Bool :=
  let cp := line.checkpoint
  let sigOk :=
    match verifier with
    | some key => ext.verifies key (ext.checkpointJson cp) line.signature
    | none => true
  let countOk := saturatingPred cp.recordCount ≤ cp.seq
  let tsOk := (seqToTs.lookup cp.seq).any fun ts => cp.tsUnixMs ≥ ts
  let hashOk := (seqToHash.lookup cp.seq).any fun hash => hash == cp.chainHeadHash
  sigOk && (hashOk && countOk && tsOk)

def tallyCheckpoint (sidecar : CheckpointSidecar) (outcome : ReplayOutcome) (tally : CheckpointTally)
    (line : CheckpointLine) : CheckpointTally :=
  let cp := line.checkpoint
  if outcome.records = 0 ∨ cp.seq < outcome.firstSeq ∨ cp.seq > outcome.lastSeq then tally
  else if checkpointHolds ext sidecar.verifier outcome.seqToHash outcome.seqToTs line then
    { tally with verified := tally.verified + 1, evaluated := tally.evaluated + 1 }
  else { tally with failed := tally.failed + 1, evaluated := tally.evaluated + 1 }

def evalCheckpoints (sidecar : CheckpointSidecar) (outcome : ReplayOutcome) : Nat × Nat × Bool :=
  if sidecar.missing then
    if sidecar.signatureChecked && outcome.records > 0 then (0, 1, true) else (0, 0, sidecar.signatureChecked)
  else
    let tally := sidecar.lines.foldl (tallyCheckpoint ext sidecar outcome) ⟨0, 0, 0⟩
    -- Fail closed: a key was supplied but no checkpoint bound to anything.
    if sidecar.verifier.isSome && outcome.records > 0 && tally.evaluated == 0 then
      (tally.verified, tally.failed + 1, sidecar.signatureChecked)
    else (tally.verified, tally.failed, sidecar.signatureChecked)

def checkAnchor (dir : LogDir) (recordsEmpty : Bool) (lastSeq : UInt64) (head : String) :
    Except AuditError Bool :=
  match dir.anchor with
  | none => .ok recordsEmpty
  | some bytes =>
    match ext.anchorJson.dec bytes with
    | .error message => .error (.malformed (dir.anchorDisplay ++ ": " ++ message))
    | .ok anchor =>
      if recordsEmpty then .ok (anchor.lastHash == genesisHash && anchor.lastSeq == 0)
      else if lastSeq = u64Max then
        .error (.malformed "anchor check overflow: last_seq is u64::MAX, the next slot is unrepresentable")
      else .ok (anchor.lastHash == head && anchor.lastSeq == lastSeq + 1)

structure VerifyReport where
  files : Nat
  records : UInt64
  firstSeq : UInt64
  lastSeq : UInt64
  chainOk : Bool
  unordered : Bool
  gaps : List UInt64
  gapsTruncated : Bool
  duplicateSeqs : List UInt64
  duplicatesTruncated : Bool
  checkpointsVerified : Nat
  checkpointsFailed : Nat
  signatureChecked : Bool
  headMatchesAnchor : Bool
  droppedRecords : UInt64
deriving DecidableEq, Repr

def replayFile (dir : LogDir) (replay : StreamReplay) (file : FileName × Bytes) : Except AuditError StreamReplay :=
  (streamFileRecords ext (dir.display file.1) file.2).foldlM (fun replay item => do
    let found ← item
    checkSchemaVersion (dir.display file.1) found.lineNo found.record
    return replay.push ext found.record) replay

def verifyDir (dir : LogDir) (publicKeyHex : Option String) : Except AuditError VerifyReport := do
  let logFiles := collectLogFiles dir
  let sidecar ← readCheckpointSidecar ext dir publicKeyHex
  let replay ← logFiles.foldlM (replayFile ext dir) (StreamReplay.new sidecar.neededSeqs)
  let outcome := replay.finish
  let (checkpointsVerified, checkpointsFailed, signatureChecked) := evalCheckpoints ext sidecar outcome
  let headMatchesAnchor ← checkAnchor ext dir (outcome.records == 0) outcome.lastSeq outcome.head
  return {
    files := logFiles.length
    records := outcome.records
    firstSeq := outcome.firstSeq
    lastSeq := outcome.lastSeq
    chainOk := outcome.linksOk && outcome.contiguous && outcome.duplicates.isEmpty && !outcome.duplicatesTruncated &&
      !outcome.unordered && checkpointsFailed == 0 && headMatchesAnchor
    unordered := outcome.unordered
    gaps := outcome.gaps
    gapsTruncated := outcome.gapsTruncated
    duplicateSeqs := outcome.duplicates
    duplicatesTruncated := outcome.duplicatesTruncated
    checkpointsVerified := checkpointsVerified
    checkpointsFailed := checkpointsFailed
    signatureChecked := signatureChecked
    headMatchesAnchor := headMatchesAnchor
    droppedRecords := outcome.droppedRecords }

def presentedRecords (dir : LogDir) : List AuditRecord :=
  (collectLogFiles dir).flatMap fun file =>
    (streamFileRecords ext (dir.display file.1) file.2).filterMap fun item => item.toOption.map LocatedRecord.record

end

end Pkcs11Proxy.Audit
