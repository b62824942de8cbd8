import Mathlib.Data.List.DropRight
import Mathlib.Data.List.Dedup

/-!
# Text functions of the Rust standard library

Lean strings and Rust strings are both sequences of Unicode scalar values
stored as UTF-8. The functions below follow the documented behaviour of `str`
and `char` where Lean's own differ: Rust trims the Unicode `White_Space`
property, and `is_control` is the general category `Cc`.
-/

namespace Treer.Foundation.Text

open List

/-- `char::is_whitespace`: the Unicode property `White_Space`. -/
def isWhitespace (char : Char) : Bool :=
  let code := char.toNat
  (0x9 ≤ code && code ≤ 0xD) || code == 0x20 || code == 0x85 || code == 0xA0 ||
    code == 0x1680 || (0x2000 ≤ code && code ≤ 0x200A) || code == 0x2028 ||
    code == 0x2029 || code == 0x202F || code == 0x205F || code == 0x3000

/-- `char::is_control`: the general category `Cc`. -/
def isControl (char : Char) : Bool :=
  char.toNat < 0x20 || (0x7F ≤ char.toNat && char.toNat < 0xA0)

/-- `str::len`: the number of UTF-8 bytes. -/
def len (text : String) : Nat :=
  text.utf8ByteSize

/-- `str::trim`. -/
def trim (text : String) : String :=
  String.ofList ((text.toList.dropWhile isWhitespace).rdropWhile isWhitespace)

/-- `text.chars().any(char::is_control)`. -/
def hasControl (text : String) : Bool :=
  text.toList.any isControl

/-- `str::contains` for one character. -/
def containsChar (text : String) (char : Char) : Bool :=
  text.toList.contains char

/-- `str::starts_with` for a string. -/
def startsWith (text head : String) : Bool :=
  head.toList.isPrefixOf text.toList

/-- `str::strip_prefix` for a string. -/
def stripPrefix (text head : String) : Option String :=
  if startsWith text head then some (String.ofList (text.toList.drop head.toList.length))
  else none

/-- `str::ends_with` for one character. -/
def endsWithChar (text : String) (char : Char) : Bool :=
  text.toList.getLast? == some char

/-- `str::split` on one character. -/
def split (text : String) (separator : Char) : List String :=
  (text.toList.splitOn separator).map String.ofList

/-- `str::split_once` on one character. -/
def splitOnce (text : String) (separator : Char) : Option (String × String) :=
  match text.toList.span (· != separator) with
  | (_, []) => none
  | (head, _ :: rest) => some (String.ofList head, String.ofList rest)

/-- `[String]::join` with a separator of one character. -/
def join (parts : List String) (separator : Char) : String :=
  String.ofList ([separator].intercalate (parts.map String.toList))

/-- `str::trim_end_matches` for one character. -/
def trimEndMatches (text : String) (char : Char) : String :=
  String.ofList (text.toList.rdropWhile (· == char))

/-- The digits of a number tell the number. -/
theorem toString_injective {first second : Nat} (same : toString first = toString second) :
    first = second := by
  have read := congrArg (fun text : String => Nat.ofDigitChars 10 text.toList 0) same
  simpa [Nat.toString_eq_ofList_toDigits] using read

section
variable {text part : String} {separator : Char}

theorem split_ne_nil : split text separator ≠ [] := by
  simp [split]

theorem split_of_not_containsChar (absent : containsChar text separator = false) :
    split text separator = [text] := by
  have notMem : separator ∉ text.toList := by simpa [containsChar] using absent
  rw [split, splitOn_eq_singleton notMem]
  simp

/-- A text that ends in the separator ends in an empty part. -/
theorem getLast?_split_of_endsWithChar (ends : endsWithChar text separator = true) :
    (split text separator).getLast? = some "" := by
  rcases getLast?_eq_some_iff.mp (beq_iff_eq.mp ends) with ⟨init, ending⟩
  rw [split, ending, splitOn_append_cons_self, splitOn_nil]
  simp

/-- The parts have the characters of the text without the separator. -/
theorem mem_of_mem_split (mem : part ∈ split text separator) {char : Char}
    (charMem : char ∈ part.toList) : char ∈ text.toList ∧ char ≠ separator := by
  have pieces : ∀ (chars : List Char), ∀ piece ∈ chars.splitOn separator, ∀ char ∈ piece,
      char ∈ chars ∧ char ≠ separator := by
    intro chars
    induction chars with
    | nil => simp
    | cons first rest ih =>
      rw [splitOn_cons_eq_if_modifyHead]
      by_cases same : (first == separator) = true
      · grind
      cases restSplit : rest.splitOn separator with
      | nil => exact absurd restSplit (splitOn_ne_nil _ _)
      | cons head others =>
        rw [modifyHead_cons]
        grind
  rcases mem_map.mp mem with ⟨piece, pieceMem, rfl⟩
  rw [String.toList_ofList] at charMem
  exact pieces _ piece pieceMem char charMem

theorem not_mem_of_mem_split (mem : part ∈ split text separator) : separator ∉ part.toList :=
  fun charMem => (mem_of_mem_split mem charMem).2 rfl

/-- The parts of a text are split where they were joined. -/
theorem split_join {parts : List String} (nonempty : parts ≠ [])
    (plain : ∀ part ∈ parts, separator ∉ part.toList) :
    split (join parts separator) separator = parts := by
  have separated : ∀ piece ∈ parts.map String.toList, separator ∉ piece := by simpa using plain
  rw [split, join, String.toList_ofList,
    splitOn_intercalate separator separated (by simpa using nonempty)]
  simp

end

/-- A text with a visible first character is not blank. -/
theorem trim_ne_empty {text : String} {char : Char} {rest : List Char}
    (start : text.toList = char :: rest) (visible : isWhitespace char = false) :
    trim text ≠ "" := by
  intro blank
  have empty := congrArg String.toList blank
  rw [trim, start, dropWhile_cons_of_neg (by simp [visible])] at empty
  simp only [String.toList_ofList, String.toList_empty, rdropWhile_eq_nil_iff] at empty
  simpa [visible] using empty char (by simp)

/-- Collecting into a `HashSet` lost an element. -/
def hasDuplicates {α : Type} [DecidableEq α] (values : List α) : Bool :=
  values.dedup.length != values.length

end Treer.Foundation.Text
