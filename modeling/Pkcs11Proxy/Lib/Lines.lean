import Mathlib.Data.List.Basic

namespace Pkcs11Proxy.Lib

abbrev Bytes := List UInt8

def newline : UInt8 := 10
def carriageReturn : UInt8 := 13

-- A carriage return is dropped only when a newline followed it.
def stripCarriageReturn (line : Bytes) : Bytes :=
  if line.getLast? = some carriageReturn then line.dropLast else line

def linesFrom (current : Bytes) : Bytes → List Bytes
  | [] => if current.isEmpty then [] else [current.reverse]
  | byte :: rest =>
    if byte = newline then stripCarriageReturn current.reverse :: linesFrom [] rest
    else linesFrom (byte :: current) rest

def splitLines (bytes : Bytes) : List Bytes := linesFrom [] bytes

theorem lines_from_line (current : Bytes) {line : Bytes} (rest : Bytes) (oneLine : newline ∉ line) :
    linesFrom current (line ++ newline :: rest) =
      stripCarriageReturn (current.reverse ++ line) :: linesFrom [] rest := by
  induction line generalizing current with
  | nil => simp [linesFrom]
  | cons byte tail ih =>
    have other : byte ≠ newline := fun same => oneLine (by simp [same])
    rw [List.cons_append, linesFrom, if_neg other, ih (byte :: current) fun member => oneLine (by simp [member])]
    simp

structure PlainLine (line : Bytes) : Prop where
  oneLine : newline ∉ line
  noReturn : line.getLast? ≠ some carriageReturn
  nonempty : line ≠ []

theorem split_lines_cons {line rest : Bytes} (plain : PlainLine line) :
    splitLines (line ++ newline :: rest) = line :: splitLines rest := by
  rw [splitLines, lines_from_line [] rest plain.oneLine, List.reverse_nil, List.nil_append, stripCarriageReturn,
    if_neg plain.noReturn]
  rfl

section

variable {α : Type} (enc : α → Bytes)

def joinLines (values : List α) : Bytes := values.flatMap fun value => enc value ++ [newline]

variable {enc}

theorem join_lines_append {left right : List α} : joinLines enc (left ++ right) = joinLines enc left ++ joinLines enc right := by
  simp [joinLines]

theorem split_join_lines (plain : ∀ value, PlainLine (enc value)) (values : List α) :
    splitLines (joinLines enc values) = values.map enc := by
  induction values with
  | nil => rfl
  | cons value rest ih =>
    have unfolded : joinLines enc (value :: rest) = enc value ++ newline :: joinLines enc rest := by simp [joinLines]
    rw [unfolded, split_lines_cons (plain value), ih, List.map_cons]

end

end Pkcs11Proxy.Lib
