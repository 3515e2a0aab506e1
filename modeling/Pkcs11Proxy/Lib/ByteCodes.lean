import Pkcs11Proxy.Lib.Lines

namespace Pkcs11Proxy.Lib

-- Base-128 varints: seven bits a byte, least significant first, with the top bit set on
-- every byte but the last.
def varintValue : Bytes → Nat
  | [] => 0
  | byte :: rest => byte.toNat % 128 + 128 * varintValue rest

def VarintClosed : Bytes → Prop
  | [] => False
  | byte :: rest => if byte.toNat < 128 then rest = [] else VarintClosed rest

-- At most ten bytes for a number of 64 bits. Shorter encodings of the same number may
-- exist.
structure IsVarint (bytes : Bytes) (value : Nat) : Prop where
  closed : VarintClosed bytes
  short : bytes.length ≤ 10
  encodes : varintValue bytes = value
  fits : value < UInt64.size

theorem varint_nonempty {bytes : Bytes} {value : Nat} (varint : IsVarint bytes value) : 0 < bytes.length := by
  cases bytes with
  | nil => exact absurd varint.closed id
  | cons byte rest => exact Nat.succ_pos _

def oneByte : UInt8 := 49
def zeroByte : UInt8 := 48

structure PrefixCode (α : Type) where
  put : α → Bytes
  take : Bytes → Option (α × Bytes)
  reads : ∀ value rest, take (put value ++ rest) = some (value, rest)
  tallied : ∀ value, ∀ byte ∈ put value, byte = oneByte ∨ byte = zeroByte

namespace PrefixCode

variable {α β : Type}

def countOnes (count : Nat) : Bytes → Option (Nat × Bytes)
  | [] => none
  | byte :: rest => if byte = oneByte then countOnes (count + 1) rest else some (count, rest)

theorem count_ones_tally (count n : Nat) (rest : Bytes) :
    countOnes count (List.replicate n oneByte ++ zeroByte :: rest) = some (count + n, rest) := by
  induction n generalizing count with
  | zero =>
    have other : zeroByte ≠ oneByte := by decide
    simp [countOnes, other]
  | succ n ih =>
    rw [List.replicate_succ, List.cons_append, countOnes, if_pos rfl, ih]
    congr 2
    omega

def nat : PrefixCode Nat where
  put n := List.replicate n oneByte ++ [zeroByte]
  take := countOnes 0
  reads n rest := by rw [List.append_assoc, List.singleton_append, count_ones_tally, Nat.zero_add]
  tallied n byte member := by
    rcases List.mem_append.mp member with one | zero
    · exact .inl (List.eq_of_mem_replicate one)
    · exact .inr (List.mem_singleton.mp zero)

def map (code : PrefixCode α) (into : α → β) (back : β → α) (law : ∀ value, into (back value) = value) : PrefixCode β where
  put value := code.put (back value)
  take input := (code.take input).map fun (value, rest) => (into value, rest)
  reads value rest := by simp [code.reads, law]
  tallied value := code.tallied (back value)

def pair (left : PrefixCode α) (right : PrefixCode β) : PrefixCode (α × β) where
  put value := left.put value.1 ++ right.put value.2
  take input := do
    let (first, rest) ← left.take input
    let (second, rest) ← right.take rest
    return ((first, second), rest)
  reads value rest := by simp [left.reads, right.reads]
  tallied value byte member := by
    rcases List.mem_append.mp member with first | second
    · exact left.tallied value.1 byte first
    · exact right.tallied value.2 byte second

def takeMany (code : PrefixCode α) : Nat → Bytes → Option (List α × Bytes)
  | 0, input => some ([], input)
  | count + 1, input => do
      let (value, rest) ← code.take input
      let (values, rest) ← takeMany code count rest
      return (value :: values, rest)

theorem take_many_put {code : PrefixCode α} {values : List α} {rest : Bytes} :
    takeMany code values.length (values.flatMap code.put ++ rest) = some (values, rest) := by
  induction values with
  | nil => rfl
  | cons value others ih => simp [takeMany, List.append_assoc, code.reads, ih]

def list (code : PrefixCode α) : PrefixCode (List α) where
  put values := nat.put values.length ++ values.flatMap code.put
  take input := do
    let (count, rest) ← nat.take input
    takeMany code count rest
  reads values rest := by
    rw [List.append_assoc, nat.reads]
    exact take_many_put
  tallied values byte member := by
    rcases List.mem_append.mp member with count | items
    · exact nat.tallied _ byte count
    · obtain ⟨value, -, inside⟩ := List.mem_flatMap.mp items
      exact code.tallied value byte inside

def option (code : PrefixCode α) : PrefixCode (Option α) :=
  map (list code) List.head? Option.toList fun value => by cases value <;> rfl

end PrefixCode

end Pkcs11Proxy.Lib
