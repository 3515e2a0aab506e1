import Pkcs11Proxy.Audit.FlushDurability

namespace Pkcs11Proxy.Audit

open Lib

structure QueueConfig where
  capacity : Nat
  failClosedReserve : Nat
  valid : failClosedReserve < capacity

def EventClass.failClosed (eventClass : EventClass) : Bool := eventClass != .dataPlane

inductive EmitOutcome where
  | queued
  | droppedFailOpen
  | rejectedFailClosed
deriving DecidableEq, Repr

-- The writer waits for a message, has one in hand, or has found the queue empty
-- under the flush it is serving.
inductive WriterDesk where
  | waiting
  | holding (msg : WriterMsg)
  | drained
deriving DecidableEq, Repr

-- `dropTotal` is ghost state: the records dropped since the start. `succeeded` tells
-- how the last message's handling ended.
structure AuditChannel where
  sink : Sink
  queue : List WriterMsg
  desk : WriterDesk
  succeeded : Bool
  dropTotal : Nat

def ends (prog : SinkM Unit) (sink : Sink) : Bool :=
  match prog sink with
  | .ok _ _ => true
  | .error _ _ => false

inductive ChannelEvent where
  | emit (record : AuditRecord)
  | timerTick
  | requestFlush (ack : Nat)
  | take
  | handle
deriving DecidableEq, Repr

section

variable (env : SinkEnv) (config : QueueConfig)

def AuditChannel.capacity (channel : AuditChannel) : Nat := config.capacity - channel.queue.length

section

variable (channel : AuditChannel)

def AuditChannel.trySend (msg : WriterMsg) : Option AuditChannel :=
  if channel.queue.length < config.capacity then some { channel with queue := channel.queue ++ [msg] } else none

def AuditChannel.drop : AuditChannel :=
  { channel with sink := sinkStep env channel.sink .dropped, dropTotal := channel.dropTotal + 1 }

def AuditChannel.emit (record : AuditRecord) : AuditChannel × EmitOutcome :=
  let sent := channel.trySend config (.record record)
  if !record.eventClass.failClosed then
    if channel.capacity config ≤ config.failClosedReserve then (channel.drop env, .droppedFailOpen)
    else
      match sent with
      | some next => (next, .queued)
      | none => (channel.drop env, .droppedFailOpen)
  else
    match sent with
    | some next => (next, .queued)
    | none => (channel, .rejectedFailClosed)

def AuditChannel.take : AuditChannel :=
  match channel.desk with
  | .waiting =>
    match channel.queue with
    | msg :: rest => { channel with queue := rest, desk := .holding msg }
    | [] => if channel.sink.flushing.isSome then { channel with desk := .drained } else channel
  | _ => channel

def handledWell (sink : Sink) : WriterMsg → Bool
  | .record record => ends (writeRecord env record) sink
  | .flush _ => true
  | .checkpoint =>
    if sink.flushing.isNone ∧ sink.writer.recordsSinceCheckpoint > 0 ∧ env.signer.isSome then ends (doCheckpoint env) sink else true

def AuditChannel.handle : AuditChannel :=
  match channel.desk with
  | .waiting => channel
  | .holding msg =>
    { channel with
        sink := sinkStep env channel.sink (.receive msg)
        desk := .waiting
        succeeded := handledWell env channel.sink msg }
  | .drained =>
    { channel with
        sink := sinkStep env channel.sink .queueEmpty
        desk := .waiting
        succeeded := ends (flush env) { channel.sink with flushing := none } }

-- A tick and a flush request wait for room; only a signing sink has the timer.
def channelStep : ChannelEvent → AuditChannel
  | .emit record => (channel.emit env config record).1
  | .timerTick => if env.signer.isSome then (channel.trySend config .checkpoint).getD channel else channel
  | .requestFlush ack => (channel.trySend config (.flush ack)).getD channel
  | .take => channel.take
  | .handle => channel.handle env

def runChannel (events : List ChannelEvent) : AuditChannel := events.foldl (channelStep env config) channel

def startChannel (dir : LogDir) (rotateMaxBytes rotateKeepFiles : Nat) : AuditChannel :=
  ⟨startSink env dir rotateMaxBytes rotateKeepFiles, [], .waiting, true, 0⟩

def sentinelCount (ext : Externals) : FsOp → Nat
  | .writeAll _ line =>
    match fromJsonl ext line with
    | .ok record => (record.sentinelDroppedCount.map UInt64.toNat).getD 0
    | .error _ => 0
  | _ => 0

def sentinelTotal (ext : Externals) (journal : List FsOp) : Nat := (journal.map (sentinelCount ext)).sum

def AuditChannel.Settled : Prop :=
  channel.queue = [] ∧ channel.desk = .waiting ∧ channel.sink.flushing = none ∧ channel.succeeded = true

def DropsAccounted : Prop :=
  channel.Settled → sentinelTotal env.ext channel.sink.disk.journal = channel.dropTotal

end

end

end Pkcs11Proxy.Audit
