import Pkcs11Proxy.Lib.Lines
import Pkcs11Proxy.Lib.StructLayout

namespace Pkcs11Proxy.Types

open Lib

inductive ParamAbi where
  | lp64NativeLe
  | ilp32NativeLe
  | llp64Packed1Le
  | ilp32Packed1Le
deriving DecidableEq

namespace ParamAbi

def ulongSize : ParamAbi → Nat
  | lp64NativeLe => 8
  | ilp32NativeLe | llp64Packed1Le | ilp32Packed1Le => 4

def pointerSize : ParamAbi → Nat
  | lp64NativeLe | llp64Packed1Le => 8
  | ilp32NativeLe | ilp32Packed1Le => 4

def packed : ParamAbi → Bool
  | llp64Packed1Le | ilp32Packed1Le => true
  | lp64NativeLe | ilp32NativeLe => false

def byteOrderCode (_ : ParamAbi) : UInt32 := 0

def ulongLimit (abi : ParamAbi) : Nat := if abi.ulongSize ≥ 8 then UInt64.size else UInt32.size

end ParamAbi

inductive LeafClass where
  | ulong
  | handle
  | pointer
  | u8
  | bytes (length : UInt16)
deriving DecidableEq

-- Inline structs nest one level deep: the source's layout functions stop at a deeper
-- one, and its tests keep the table free of them.
inductive FieldClass where
  | leaf (leafClass : LeafClass)
  | nested (inner : List LeafClass)
deriving DecidableEq

abbrev FieldClass.ulong : FieldClass := .leaf .ulong
abbrev FieldClass.handle : FieldClass := .leaf .handle
abbrev FieldClass.pointer : FieldClass := .leaf .pointer
abbrev FieldClass.u8 : FieldClass := .leaf .u8
abbrev FieldClass.bytes (length : UInt16) : FieldClass := .leaf (.bytes length)

section

variable (abi : ParamAbi)

def flatSizeAlign : LeafClass → Nat × Nat
  | .ulong | .handle => (abi.ulongSize, if abi.packed then 1 else abi.ulongSize)
  | .pointer => (abi.pointerSize, if abi.packed then 1 else abi.pointerSize)
  | .u8 => (1, 1)
  | .bytes length => (length.toNat, 1)

def LeafClass.size (leafClass : LeafClass) : Nat := (flatSizeAlign abi leafClass).1

def LeafClass.align (leafClass : LeafClass) : Nat := (flatSizeAlign abi leafClass).2

def nestedSizeAlign (inner : List LeafClass) : Nat × Nat :=
  structExtent (LeafClass.size abi) (LeafClass.align abi) inner

def fieldSizeAlign : FieldClass → Nat × Nat
  | .leaf leafClass => flatSizeAlign abi leafClass
  | .nested inner => nestedSizeAlign abi inner

def FieldClass.size (field : FieldClass) : Nat := (fieldSizeAlign abi field).1

def FieldClass.align (field : FieldClass) : Nat := (fieldSizeAlign abi field).2

def nativeSizeOf (fields : List FieldClass) (abi : ParamAbi) : Nat :=
  (structExtent (FieldClass.size abi) (FieldClass.align abi) fields).1

def attributeFields : List FieldClass := [.ulong, .pointer, .ulong]

def attributeStride : Nat := nativeSizeOf attributeFields abi

def LeafClass.carriesReference : LeafClass → Bool
  | .pointer | .handle => true
  | .ulong | .u8 | .bytes _ => false

def leafMark (leafClass : LeafClass) : Option Nat := if leafClass.carriesReference then some 0 else none

def fieldMark : FieldClass → Option Nat
  | .leaf leafClass => leafMark leafClass
  | .nested inner => firstMarked (LeafClass.size abi) (LeafClass.align abi) leafMark 0 inner

end

def firstUnsafeOffsetOf (fields : List FieldClass) (abi : ParamAbi) : Option Nat :=
  firstMarked (FieldClass.size abi) (FieldClass.align abi) (fieldMark abi) 0 fields

section Fingerprint

def fnvOffsetBasis : UInt64 := 0xcbf29ce484222325
def fnvPrime : UInt64 := 0x0100000001b3

def abiExemptFingerprint : UInt64 := 0x54504d5845494241

def fnvByte (hash : UInt64) (byte : UInt8) : UInt64 := (hash ^^^ byte.toUInt64) * fnvPrime

def fnvBytes (hash : UInt64) (bytes : Bytes) : UInt64 := bytes.foldl fnvByte hash

def fnvLe32 (hash : UInt64) (value : UInt32) : UInt64 :=
  fnvBytes hash [value.toUInt8, (value >>> 8).toUInt8, (value >>> 16).toUInt8, (value >>> 24).toUInt8]

def fieldLeaves (abi : ParamAbi) : FieldClass × Nat → List (LeafClass × Nat)
  | (.leaf leafClass, start) => [(leafClass, start)]
  | (.nested inner, start) =>
    (placed (LeafClass.size abi) (LeafClass.align abi) 0 inner).map fun leaf => (leaf.1, start + leaf.2)

def leavesOf (fields : List FieldClass) (abi : ParamAbi) : List (LeafClass × Nat) :=
  (placed (FieldClass.size abi) (FieldClass.align abi) 0 fields).flatMap (fieldLeaves abi)

def leafRanges (fields : List FieldClass) (abi : ParamAbi) : List (Nat × Nat) :=
  (leavesOf fields abi).map fun leaf => (leaf.2, leaf.1.size abi)

def padRanges (native prevEnd : Nat) : List (Nat × Nat) → List (Nat × Nat)
  | [] => if native > prevEnd then [(prevEnd, native - prevEnd)] else []
  | (start, size) :: rest =>
    (if start > prevEnd then [(prevEnd, start - prevEnd)] else []) ++ padRanges native (start + size) rest

def hashRanges (hash : UInt64) (ranges : List (Nat × Nat)) : UInt64 :=
  ranges.foldl (fun hash range => fnvLe32 (fnvLe32 hash (UInt32.ofNat range.1)) (UInt32.ofNat range.2)) hash

def hashText (hash : UInt64) (text : String) : UInt64 :=
  fnvBytes (fnvLe32 hash (UInt32.ofNat text.utf8ByteSize)) text.toUTF8.data.toList

def layoutFingerprint (shape form : String) (abi : ParamAbi) (fields : List FieldClass) : UInt64 :=
  let native := nativeSizeOf fields abi
  let leaves := leafRanges fields abi
  let pads := padRanges native 0 leaves
  let hash := hashText (hashText fnvOffsetBasis shape) form
  let hash := fnvLe32 (fnvLe32 hash (UInt32.ofNat abi.ulongSize)) abi.byteOrderCode
  let hash := fnvLe32 (fnvLe32 hash (UInt32.ofNat native)) (UInt32.ofNat leaves.length)
  let hash := fnvLe32 (hashRanges hash leaves) (UInt32.ofNat pads.length)
  hashRanges hash pads

-- The vectors of the source's own test.
example : layoutFingerprint "rsa_pss" "" .lp64NativeLe [.ulong, .ulong, .ulong] = 0x2b9ad39b2de93dd6 := by
  decide +kernel

example : layoutFingerprint "eddsa" "" .lp64NativeLe [.u8, .ulong, .pointer] = 0xc5f822827a0734b2 := by
  decide +kernel

end Fingerprint

end Pkcs11Proxy.Types
