import Mathlib.Data.List.Sort
import Pkcs11Proxy.Audit.Verify

namespace Pkcs11Proxy.Audit

open Lib

section

variable (dir : LogDir)

def LogDir.readFile (name : FileName) : Option Bytes := dir.files.lookup name

def LogDir.appendFile (name : FileName) (bytes : Bytes) : LogDir :=
  { dir with files := dir.files.map fun file => if file.1 = name then (file.1, file.2 ++ bytes) else file }

def LogDir.createFile (name : FileName) : LogDir :=
  match dir.readFile name with
  | some _ => dir
  | none => { dir with files := dir.files ++ [(name, [])] }

def LogDir.truncateFile (name : FileName) : LogDir :=
  match dir.readFile name with
  | some _ => { dir with files := dir.files.map fun file => if file.1 = name then (file.1, []) else file }
  | none => { dir with files := dir.files ++ [(name, [])] }

def LogDir.removeFile (name : FileName) : LogDir :=
  { dir with files := dir.files.filter fun file => file.1 ≠ name }

def LogDir.renameFile (src dst : FileName) : LogDir :=
  { dir with files := (dir.files.filter fun file => file.1 ≠ dst).map fun file => if file.1 = src then (dst, file.2) else file }

-- The writer's file operations: the anchor is replaced by a write to a temporary name
-- and a rename. `tornWrite` is what a failed `write_all` leaves of its line.
inductive FsOp where
  | syncAll
  | syncDir
  | rename (src dst : FileName)
  | openAppend (name : FileName)
  | openTruncate (name : FileName)
  | remove (name : FileName)
  | writeAll (name : FileName) (line : Bytes)
  | tornWrite (name : FileName) (bytes : Bytes)
  | openCheckpoints
  | appendCheckpoint (line : Bytes)
  | replaceAnchor (bytes : Bytes)
deriving DecidableEq, Repr

def FsOp.perform : FsOp → Option LogDir
  | .syncAll => some dir
  | .syncDir => some dir
  | .rename src dst => (dir.readFile src).map fun _ => dir.renameFile src dst
  | .openAppend name => some (dir.createFile name)
  | .openTruncate name => some (dir.truncateFile name)
  | .remove name => (dir.readFile name).map fun _ => dir.removeFile name
  | .writeAll name bytes | .tornWrite name bytes => (dir.readFile name).map fun _ => dir.appendFile name bytes
  | .openCheckpoints => some { dir with checkpoints := some (dir.checkpoints.getD []) }
  | .appendCheckpoint line => some { dir with checkpoints := some (dir.checkpoints.getD [] ++ line) }
  | .replaceAnchor bytes => some { dir with anchor := some bytes }

-- What is left of a failed operation: a proper part of the line it was writing.
def FsOp.torn (written : Nat) : FsOp → Option FsOp
  | .writeAll name line =>
    if written % line.length = 0 then none else some (.tornWrite name (line.take (written % line.length)))
  | .appendCheckpoint line =>
    if written % line.length = 0 then none else some (.appendCheckpoint (line.take (written % line.length)))
  | _ => none

def rotatedName (n : Nat) : FileName := rotatedPrefix ++ Nat.toDigits 10 n ++ rotatedSuffix

def digitsValue (digits : FileName) : Nat := digits.foldl (fun value digit => value * 10 + (digit.toNat - '0'.toNat)) 0

def parseRotationN (name : FileName) : Option Nat :=
  match rotationDigits name with
  | none => none
  | some digits =>
    if digits.isEmpty || !digits.all Char.isDigit then none
    else if digitsValue digits < 2 ^ 64 then some (digitsValue digits)
    else none

def raiseRotationN (highest : Nat) (file : FileName × Bytes) : Nat :=
  match parseRotationN file.1 with
  | some n => if n > highest then n else highest
  | none => highest

def findMaxRotationN : Nat := dir.files.foldl raiseRotationN 0

def prunedNames (keep : Nat) : List FileName :=
  if keep = 0 then []
  else
    let rotated := dir.files.filterMap fun file => (parseRotationN file.1).map fun n => (n, file.1)
    if rotated.length ≤ keep then []
    else ((rotated.insertionSort fun a b => a.1 ≤ b.1).take (rotated.length - keep)).map Prod.snd

end

def isBlank (line : Bytes) : Bool := line.all fun byte => byte = 32 || (9 ≤ byte && byte ≤ 13)

section

variable (ext : Externals)

def readAnchorTail (dir : LogDir) : Nat × Option ChainState :=
  match dir.anchor with
  | none => (0, none)
  | some bytes =>
    match ext.anchorJson.dec bytes with
    | .error _ => (0, none)
    | .ok anchor => (anchor.activeBytes, some ⟨anchor.lastHash, anchor.lastSeq⟩)

def loadChainState (dir : LogDir) : Except String ChainState :=
  match dir.anchor with
  | none => .ok ChainState.genesis
  | some bytes =>
    match ext.anchorJson.dec bytes with
    | .error message => .error ("malformed audit anchor: " ++ message)
    | .ok anchor => .ok ⟨anchor.lastHash, anchor.lastSeq⟩

def readActiveSuffix (dir : LogDir) (offset : Nat) : Option Bytes :=
  match dir.readFile activeName with
  | none => some []
  | some bytes => if isUtf8 (bytes.drop offset) then some (bytes.drop offset) else none

def lastValidRecord (suffix : Bytes) : Option AuditRecord :=
  (splitLines suffix).foldl (fun last line =>
    if isBlank line then last
    else
      match fromJsonl ext line with
      | .ok record => some record
      | .error _ => last) none

def reconstructChainState (dir : LogDir) : Except String ChainState :=
  let (tail, anchored) := readAnchorTail ext dir
  let offset :=
    match dir.readFile activeName with
    | some bytes => if tail > bytes.length then 0 else tail
    | none => tail
  match readActiveSuffix dir offset with
  | none => loadChainState ext dir
  | some suffix =>
    match lastValidRecord ext suffix with
    | some record => .ok ⟨recordHash ext record.prevHash record, record.seq + 1⟩
    | none =>
      match anchored with
      | some chain => .ok chain
      | none => loadChainState ext dir

end

end Pkcs11Proxy.Audit
