import Mathlib.Algebra.Order.Ring.Nat

/-!
# The standard binary layout

Small numbers take one byte; larger ones a marker and two, four or eight bytes, the
low ones first. Signed numbers are folded into unsigned ones. Sequences, byte
vectors and texts start with their length, and an option with a tag. The fields of
a record follow each other.
-/

namespace Treer.Foundation.Bincode

universe u

variable {α : Type u}

/-- The low `width` bytes of a number, low ones first. -/
def littleEndian : Nat → Nat → List UInt8
  | 0, _ => []
  | width + 1, value => UInt8.ofNat (value % 256) :: littleEndian width (value / 256)

/-- An unsigned number in the shortest of the four forms. -/
def unsigned (value : Nat) : List UInt8 :=
  if value < 251 then [UInt8.ofNat value]
  else if value < 2 ^ 16 then 251 :: littleEndian 2 value
  else if value < 2 ^ 32 then 252 :: littleEndian 4 value
  else 253 :: littleEndian 8 value

/-- Zigzag: 0, -1, 1, -2, 2 and so on are numbered in this order. -/
def signed (value : Int) : List UInt8 :=
  unsigned (if 0 ≤ value then (2 * value).toNat else (-2 * value - 1).toNat)

/-- A truth value is a byte. -/
def flag (value : Bool) : List UInt8 :=
  [if value then 1 else 0]

/-- A byte vector after its length. -/
def bytes (data : List UInt8) : List UInt8 :=
  unsigned data.length ++ data

/-- A text is the vector of its UTF-8 bytes. -/
def text (value : String) : List UInt8 :=
  bytes value.toByteArray.data.toList

variable (layout : α → List UInt8)

/-- A tag, and the value if there is one. -/
def option : Option α → List UInt8
  | none => [0]
  | some value => 1 :: layout value

/-- The items after their number. -/
def sequence (items : List α) : List UInt8 :=
  unsigned items.length ++ items.flatMap layout

/-- The bytes have a content of this size, and at most so many more. -/
structure Sized (layout : List UInt8) (content extra : Nat) : Prop where
  atLeast : content ≤ layout.length
  atMost : layout.length ≤ content + extra

theorem Sized.append {first second : List UInt8} {content more extra room : Nat}
    (left : Sized first content extra) (right : Sized second more room) :
    Sized (first ++ second) (content + more) (extra + room) := by
  rcases left with ⟨atLeast, atMost⟩
  rcases right with ⟨atLeastMore, atMostMore⟩
  constructor <;> rw [List.length_append] <;> omega

theorem Sized.of_eq {bytes : List UInt8} {content extra size room : Nat}
    (sized : Sized bytes content extra) (sizeEq : size = content) (roomEq : room = extra) :
    Sized bytes size room := sizeEq ▸ roomEq ▸ sized

variable {layout}

end Treer.Foundation.Bincode
