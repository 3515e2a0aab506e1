import Pkcs11Proxy.Audit.Disk

namespace Pkcs11Proxy.Audit

open Lib

inductive IoError where
  | fault
  | notFound
  | malformedAnchor (message : String)
deriving DecidableEq, Repr

-- What stays fixed over the lives of a sink. `clock n` is the n-th reading of the
-- wall clock, `works n` tells whether the n-th attempted file operation succeeds, and
-- `torn n` how much of its line it leaves if it is a write that fails.
structure SinkEnv where
  ext : Externals
  clock : Nat → UInt64
  works : Nat → Bool
  torn : Nat → Nat
  signer : Option Bytes
  checkpointInterval : Nat

-- `journal` is ghost state: the operations executed so far.
structure Disk where
  dir : LogDir
  attempts : Nat
  readings : Nat
  journal : List FsOp

-- `file` is the name the open descriptor's file has now: it follows a rename.
structure WriterState where
  chain : ChainState
  file : FileName
  fileBytes : Nat
  rotateMaxBytes : Nat
  rotateKeepFiles : Nat
  recordCount : UInt64
  recordsSinceCheckpoint : Nat
  dropped : UInt64
  lastSeenDropped : UInt64

-- A sink stops running when a restart cannot open its writer. `flushing` is the
-- flush request whose drain loop is running, and `answers` holds the acknowledged
-- requests with their results.
structure Sink where
  disk : Disk
  writer : WriterState
  running : Bool
  flushing : Option Nat
  answers : List (Nat × Bool)

abbrev SinkM := EStateM IoError Sink

def Sink.tried (sink : Sink) : Sink := { sink with disk := { sink.disk with attempts := sink.disk.attempts + 1 } }

def Sink.after (sink : Sink) (op : FsOp) (dir : LogDir) : Sink :=
  { sink with disk := { sink.disk with dir := dir, attempts := sink.disk.attempts + 1, journal := sink.disk.journal ++ [op] } }

def Sink.faulted (sink : Sink) (left : Option FsOp) : Sink :=
  match left with
  | none => sink.tried
  | some op => ((op.perform sink.disk.dir).map (sink.after op)).getD sink.tried

def setWriter (f : WriterState → WriterState) : SinkM Unit := modify fun sink => { sink with writer := f sink.writer }

section

variable (env : SinkEnv)

def fsOp (op : FsOp) : SinkM Unit := fun sink =>
  if env.works sink.disk.attempts then
    match op.perform sink.disk.dir with
    | some dir => .ok () (sink.after op dir)
    | none => .error .notFound sink.tried
  else .error .fault (sink.faulted (op.torn (env.torn sink.disk.attempts)))

def nowUnixMs : SinkM UInt64 := fun sink =>
  .ok (env.clock sink.disk.readings) { sink with disk := { sink.disk with readings := sink.disk.readings + 1 } }

def ignoreError (prog : SinkM Unit) : SinkM Unit := fun sink =>
  match prog sink with
  | .ok _ next => .ok () next
  | .error _ next => .ok () next

def writeAnchor : SinkM Unit := do
  let sink ← get
  fsOp env (.replaceAnchor (env.ext.anchorJson.enc ⟨sink.writer.chain.lastHash, sink.writer.chain.lastSeq, sink.writer.fileBytes⟩))

def writeCheckpointLine (seed : Bytes) (tsUnixMs : UInt64) : SinkM Unit := do
  let sink ← get
  let cp : Checkpoint :=
    ⟨saturatingPred sink.writer.chain.lastSeq, sink.writer.chain.lastHash, tsUnixMs, sink.writer.recordCount⟩
  let line := env.ext.checkpointLineJson.enc ⟨cp, env.ext.sign seed (env.ext.checkpointJson cp)⟩ ++ [newline]
  fsOp env .openCheckpoints
  fsOp env (.appendCheckpoint line)

def doCheckpoint : SinkM Unit := do
  match env.signer with
  | some seed =>
    let now ← nowUnixMs env
    writeCheckpointLine env seed now
  | none => pure ()
  setWriter fun writer => { writer with recordsSinceCheckpoint := 0 }
  writeAnchor env

def pruneRotatedFiles : SinkM Unit := do
  let sink ← get
  (prunedNames sink.disk.dir sink.writer.rotateKeepFiles).forM fun name => ignoreError (fsOp env (.remove name))

def rotate : SinkM Unit := do
  fsOp env .syncAll
  let sink ← get
  let rotated := rotatedName (findMaxRotationN sink.disk.dir + 1)
  fsOp env (.rename activeName rotated)
  setWriter fun writer => { writer with file := if writer.file = activeName then rotated else writer.file }
  fsOp env .syncDir
  fsOp env (.openTruncate activeName)
  setWriter fun writer => { writer with file := activeName, fileBytes := 0 }
  pruneRotatedFiles env
  writeAnchor env

def writeRecordRaw (record : AuditRecord) : SinkM Unit := do
  let sink ← get
  let (stamped, chain) := sink.writer.chain.append env.ext record
  setWriter fun writer => { writer with chain := chain }
  let line := toJsonl env.ext stamped
  if sink.writer.fileBytes > 0 ∧ sink.writer.fileBytes + line.length > sink.writer.rotateMaxBytes then
    rotate env
  let current ← get
  fsOp env (.writeAll current.writer.file line)
  setWriter fun writer =>
    { writer with
        fileBytes := writer.fileBytes + line.length
        recordCount := writer.recordCount + 1
        recordsSinceCheckpoint := writer.recordsSinceCheckpoint + 1 }
  let written ← get
  if written.writer.recordsSinceCheckpoint ≥ env.checkpointInterval then
    doCheckpoint env

def gapSentinel (tsUnixMs delta : UInt64) : AuditRecord where
  schemaVersion := auditSchemaVersion
  seq := 0
  tsUnixMs := tsUnixMs
  tsMonotonicNs := 0
  prevHash := ""
  requestId := ""
  identity := none
  method := gapSentinelMethod
  eventClass := .system
  slot := none
  session := none
  objectRef := none
  ckRv := 0
  latencyUs := 0
  droppedCount := some delta

def maybeWriteGapSentinel : SinkM Unit := do
  let sink ← get
  let current := sink.writer.dropped
  if current ≤ sink.writer.lastSeenDropped then pure ()
  else
    setWriter fun writer => { writer with lastSeenDropped := current }
    let now ← nowUnixMs env
    writeRecordRaw env (gapSentinel now (current - sink.writer.lastSeenDropped))

def writeRecord (record : AuditRecord) : SinkM Unit := do
  maybeWriteGapSentinel env
  writeRecordRaw env record

def flush : SinkM Unit := do
  maybeWriteGapSentinel env
  fsOp env .syncAll
  let sink ← get
  if sink.writer.recordsSinceCheckpoint > 0 then doCheckpoint env else writeAnchor env

inductive WriterMsg where
  | record (record : AuditRecord)
  | flush (ack : Nat)
  | checkpoint
deriving DecidableEq, Repr

def answer (ack : Nat) (ok : Bool) : SinkM Unit := modify fun sink => { sink with answers := sink.answers ++ [(ack, ok)] }

-- `writer_task` receiving one message: from its outer loop, or, while a flush is
-- being served, from that flush's drain loop.
def receive (msg : WriterMsg) : SinkM Unit := do
  let sink ← get
  match msg with
  | .record record => ignoreError (writeRecord env record)
  | .flush ack =>
    if sink.flushing.isSome then answer ack true
    else modify fun sink => { sink with flushing := some ack }
  | .checkpoint =>
    if sink.flushing.isNone ∧ sink.writer.recordsSinceCheckpoint > 0 ∧ env.signer.isSome then
      ignoreError (doCheckpoint env)

def finishFlush : SinkM Unit := do
  let sink ← get
  match sink.flushing with
  | none => pure ()
  | some ack =>
    modify fun sink => { sink with flushing := none }
    fun sink =>
      match flush env sink with
      | .ok _ next => answer ack true next
      | .error _ next => answer ack false next

def countDrop : SinkM Unit := setWriter fun writer => { writer with dropped := writer.dropped + 1 }

def openWriter (rotateMaxBytes rotateKeepFiles : Nat) : SinkM Unit := do
  let sink ← get
  match reconstructChainState env.ext sink.disk.dir with
  | .error message => throw (.malformedAnchor message)
  | .ok chain =>
    fsOp env (.openAppend activeName)
    setWriter fun _ =>
      { chain := chain
        file := activeName
        fileBytes := ((sink.disk.dir.readFile activeName).getD []).length
        rotateMaxBytes := rotateMaxBytes
        rotateKeepFiles := rotateKeepFiles
        recordCount := 0
        recordsSinceCheckpoint := 0
        dropped := 0
        lastSeenDropped := 0 }

def openSink (rotateMaxBytes rotateKeepFiles : Nat) (sink : Sink) : Sink :=
  match openWriter env rotateMaxBytes rotateKeepFiles sink with
  | .ok _ next => { next with running := true }
  | .error _ next => { next with running := false }

-- A drop is counted by an emitter at any moment. A clean shutdown closes the
-- channel, flushes and opens again, perhaps with new rotation limits.
inductive SinkEvent where
  | receive (msg : WriterMsg)
  | queueEmpty
  | dropped
  | restart (rotateMaxBytes rotateKeepFiles : Nat)
deriving DecidableEq, Repr

def runProc (prog : SinkM Unit) (sink : Sink) : Sink :=
  match prog sink with
  | .ok _ next => next
  | .error _ next => next

def sinkStep (sink : Sink) (event : SinkEvent) : Sink :=
  if sink.running then
    match event with
    | .receive msg => runProc (receive env msg) sink
    | .queueEmpty => runProc (finishFlush env) sink
    | .dropped => runProc countDrop sink
    | .restart rotateMaxBytes rotateKeepFiles =>
      if sink.flushing.isSome then sink
      else openSink env rotateMaxBytes rotateKeepFiles (runProc (flush env) sink)
  else sink

def emptyDir (path : String) : LogDir := ⟨path, [], none, none⟩

def bootSink (path : String) (rotateMaxBytes rotateKeepFiles : Nat) : Sink :=
  openSink env rotateMaxBytes rotateKeepFiles
    { disk := ⟨emptyDir path, 0, 0, []⟩
      writer := ⟨ChainState.genesis, activeName, 0, rotateMaxBytes, rotateKeepFiles, 0, 0, 0, 0⟩
      running := false
      flushing := none
      answers := [] }

def runSink (sink : Sink) (events : List SinkEvent) : Sink := events.foldl (sinkStep env) sink

end

end Pkcs11Proxy.Audit
