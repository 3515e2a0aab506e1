import Pkcs11Proxy.Lib.Dict
import Pkcs11Proxy.Lib.Lines

namespace Pkcs11Proxy.Audit

open Lib

def auditSchemaVersion : UInt32 := 2
def gapSentinelMethod : String := "__AUDIT_GAP__"
def genesisHash : String := "0000000000000000000000000000000000000000000000000000000000000000"

inductive EventClass where
  | auth
  | keyMgmt
  | admin
  | dataPlane
  | system
  | deny
deriving DecidableEq, Repr

structure AuditRecord where
  schemaVersion : UInt32
  seq : UInt64
  tsUnixMs : UInt64
  tsMonotonicNs : UInt64
  prevHash : String
  requestId : String
  identity : Option String
  method : String
  eventClass : EventClass
  slot : Option UInt64
  session : Option UInt64
  objectRef : Option String
  ckRv : UInt64
  latencyUs : UInt64
  droppedCount : Option UInt64
deriving DecidableEq, Repr

def AuditRecord.sentinelDroppedCount (record : AuditRecord) : Option UInt64 :=
  if record.method = gapSentinelMethod ∧ record.eventClass = .system then record.droppedCount else none

structure Checkpoint where
  seq : UInt64
  chainHeadHash : String
  tsUnixMs : UInt64
  recordCount : UInt64
deriving DecidableEq, Repr

structure CheckpointLine where
  checkpoint : Checkpoint
  signature : String
deriving DecidableEq, Repr

-- `lastSeq` is the next seq to assign. The verifier reads no `activeBytes`. File
-- lengths are Nat throughout: no file reaches 2^64 bytes.
structure AnchorFile where
  lastHash : String
  lastSeq : UInt64
  activeBytes : Nat
deriving DecidableEq, Repr

structure JsonCodec (α : Type) where
  enc : α → Bytes
  dec : Bytes → Except String α

-- The third-party primitives: hex(SHA-256), serde_json and ed25519. A signer is
-- its seed, a verifier its public key.
structure Externals where
  sha256Hex : Bytes → String
  recordJson : JsonCodec AuditRecord
  checkpointJson : Checkpoint → Bytes
  checkpointLineJson : JsonCodec CheckpointLine
  anchorJson : JsonCodec AnchorFile
  sign : Bytes → Bytes → String
  publicHex : Bytes → String
  loadVerifier : String → Except String Bytes
  verifies : Bytes → Bytes → String → Bool

-- What serde_json promises for a type it derives both ways: the text reads back,
-- is one line of UTF-8 and shows something.
structure JsonCodec.Lawful {α : Type} (codec : JsonCodec α) : Prop where
  roundTrip : ∀ value, codec.dec (codec.enc value) = .ok value
  plain : ∀ value, PlainLine (codec.enc value)
  visible : ∀ value, ∃ byte ∈ codec.enc value, 32 < byte
  valid : ∀ value, ByteArray.IsValidUTF8 ⟨(codec.enc value).toArray⟩

section

variable (ext : Externals)

def canonicalBytes (record : AuditRecord) : Bytes := ext.recordJson.enc record

def recordHash (prevHash : String) (record : AuditRecord) : String :=
  ext.sha256Hex (prevHash.toByteArray.data.toList ++ canonicalBytes ext record)

def toJsonl (record : AuditRecord) : Bytes := ext.recordJson.enc record ++ [newline]

def trimEndNewlines (line : Bytes) : Bytes := (line.reverse.dropWhile fun byte => byte = newline).reverse

def fromJsonl (line : Bytes) : Except String AuditRecord := ext.recordJson.dec (trimEndNewlines line)

end

structure ChainState where
  lastHash : String
  lastSeq : UInt64
deriving DecidableEq, Repr

def ChainState.genesis : ChainState := ⟨genesisHash, 0⟩

def ChainState.append (ext : Externals) (chain : ChainState) (record : AuditRecord) : AuditRecord × ChainState :=
  let stamped := { record with seq := chain.lastSeq, prevHash := chain.lastHash }
  (stamped, ⟨recordHash ext chain.lastHash stamped, chain.lastSeq + 1⟩)

def ChainState.appendAll (ext : Externals) (chain : ChainState) : List AuditRecord → List AuditRecord × ChainState
  | [] => ([], chain)
  | record :: rest =>
    let (stamped, next) := chain.append ext record
    let (written, final) := next.appendAll ext rest
    (stamped :: written, final)

theorem trim_end_newlines_plain {line : Bytes} (oneLine : newline ∉ line) : trimEndNewlines line = line := by
  have kept : line.reverse.dropWhile (fun byte => decide (byte = newline)) = line.reverse := by
    cases shape : line.reverse with
    | nil => rfl
    | cons byte rest =>
      have member : byte ∈ line := by
        rw [← List.mem_reverse, shape]
        exact List.mem_cons_self
      have other : byte ≠ newline := fun same => oneLine (same ▸ member)
      simp [other]
  rw [trimEndNewlines, kept, List.reverse_reverse]

theorem from_jsonl_enc {ext : Externals} (lawful : ext.recordJson.Lawful) (record : AuditRecord) :
    fromJsonl ext (ext.recordJson.enc record) = .ok record := by
  rw [fromJsonl, trim_end_newlines_plain (lawful.plain record).oneLine]
  exact lawful.roundTrip record

def maxVerifyGaps : Nat := 10000

def u64Max : UInt64 := 0xFFFFFFFFFFFFFFFF

def saturatingAdd (a b : UInt64) : UInt64 := if a.toNat + b.toNat < 2 ^ 64 then a + b else u64Max

-- `records` wraps as the counter of a release build does: the line after the 2^64th
-- is taken for a first one.
structure StreamReplay where
  needed : List UInt64
  records : UInt64
  firstSeq : UInt64
  lastSeq : UInt64
  linksOk : Bool
  unordered : Bool
  expectedPrev : Option String
  prevSeq : Option UInt64
  gaps : List UInt64
  missingTotal : UInt64
  duplicates : List UInt64
  dupValuesTotal : UInt64
  seqToHash : Dict UInt64 String
  seqToTs : Dict UInt64 UInt64
  droppedRecords : UInt64

structure ReplayOutcome where
  records : UInt64
  firstSeq : UInt64
  lastSeq : UInt64
  linksOk : Bool
  contiguous : Bool
  unordered : Bool
  gaps : List UInt64
  gapsTruncated : Bool
  duplicates : List UInt64
  duplicatesTruncated : Bool
  seqToHash : Dict UInt64 String
  seqToTs : Dict UInt64 UInt64
  head : String
  droppedRecords : UInt64

def StreamReplay.new (needed : List UInt64) : StreamReplay where
  needed := needed
  records := 0
  firstSeq := 0
  lastSeq := 0
  linksOk := true
  unordered := false
  expectedPrev := none
  prevSeq := none
  gaps := []
  missingTotal := 0
  duplicates := []
  dupValuesTotal := 0
  seqToHash := ∅
  seqToTs := ∅
  droppedRecords := 0

def pushGaps (limit : UInt64) : Nat → UInt64 → List UInt64 → List UInt64
  | 0, _, gaps => gaps
  | room + 1, s, gaps => if s < limit then pushGaps limit room (s + 1) (gaps ++ [s]) else gaps

def StreamReplay.compareSeq (replay : StreamReplay) (prev seq : UInt64) : StreamReplay :=
  if seq < prev then { replay with unordered := true }
  else if seq = prev then
    if replay.duplicates.getLast? ≠ some prev then
      { replay with
          dupValuesTotal := saturatingAdd replay.dupValuesTotal 1
          duplicates := if replay.duplicates.length < maxVerifyGaps then replay.duplicates ++ [prev] else replay.duplicates }
    else replay
  else
    let missing := seq - prev - 1
    if missing > 0 then
      { replay with
          missingTotal := saturatingAdd replay.missingTotal missing
          gaps := pushGaps seq (maxVerifyGaps - replay.gaps.length) (prev + 1) replay.gaps }
    else replay

def StreamReplay.place (replay : StreamReplay) (record : AuditRecord) : StreamReplay :=
  if replay.records = 0 then { replay with firstSeq := record.seq, expectedPrev := some record.prevHash }
  else
    match replay.prevSeq with
    | some prev => replay.compareSeq prev record.seq
    | none => replay

def StreamReplay.push (ext : Externals) (replay : StreamReplay) (record : AuditRecord) : StreamReplay :=
  let placed := replay.place record
  let expected := placed.expectedPrev.getD ""
  let hash := recordHash ext expected record
  let bound := placed.needed.contains record.seq
  { placed with
      prevSeq := some record.seq
      lastSeq := record.seq
      records := placed.records + 1
      linksOk := if record.prevHash ≠ expected then false else placed.linksOk
      seqToHash := if bound then placed.seqToHash.insert record.seq hash else placed.seqToHash
      seqToTs := if bound then placed.seqToTs.insert record.seq record.tsUnixMs else placed.seqToTs
      expectedPrev := some hash
      droppedRecords :=
        match record.sentinelDroppedCount with
        | some n => saturatingAdd placed.droppedRecords n
        | none => placed.droppedRecords }

def StreamReplay.finish (replay : StreamReplay) : ReplayOutcome where
  records := replay.records
  firstSeq := replay.firstSeq
  lastSeq := replay.lastSeq
  linksOk := replay.linksOk
  contiguous := replay.missingTotal == 0
  unordered := replay.unordered
  gaps := replay.gaps
  gapsTruncated := replay.missingTotal.toNat > replay.gaps.length
  duplicates := replay.duplicates
  duplicatesTruncated := replay.dupValuesTotal.toNat > replay.duplicates.length
  seqToHash := replay.seqToHash
  seqToTs := replay.seqToTs
  head := replay.expectedPrev.getD genesisHash
  droppedRecords := replay.droppedRecords

end Pkcs11Proxy.Audit
