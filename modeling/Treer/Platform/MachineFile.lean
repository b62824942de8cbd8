import Mathlib.Data.List.Infix
import Treer.Foundation.Text

/-!
# Paths of machine files

A path on the wire names a file below the root of a machine. It is checked in the same way for
every platform, so that no component is an alias on Windows.
-/

namespace Treer.Platform

open Foundation List Text

/-- What stands before the first dot, in capital letters. -/
def base (part : String) : String :=
  String.ofList ((part.toList.takeWhile (· != '.')).map Char.toUpper)

def isDevice (base : String) : Bool :=
  ["CON", "PRN", "AUX", "NUL", "CLOCK$", "CONIN$", "CONOUT$"].contains base ||
    ["COM", "LPT"].any fun head => (stripPrefix base head).any
      ["1", "2", "3", "4", "5", "6", "7", "8", "9", "¹", "²", "³"].contains

/-- A part that makes a path invalid. -/
def isInvalid (part : String) : Bool :=
  part == "" || endsWithChar (base part) ' ' || part == "." || part == ".." || len part > 255 ||
    (endsWithChar part '.' || endsWithChar part ' ') ||
    part.toList.any (fun char => isControl char || containsChar "\\:<>\"|?*" char) ||
    isDevice (base part) ||
    (splitOnce part '~').any fun split => split.2.toList.head?.any Char.isDigit

/-- The kind of the error is `InvalidInput`. -/
def validateRelativePath (path : String) : Except String (List String) :=
  let parts := split path '/'
  if len path > 4096 || parts.length > 128 || parts.any isInvalid then
    .error "invalid root-relative file path"
  else .ok parts

/-- A component that means the same file on every platform. -/
structure Portable (part : String) : Prop where
  named : part ∉ ["", ".", ".."]
  characters : ∀ char ∈ part.toList,
    isControl char = false ∧ char ∉ ['\\', ':', '<', '>', '"', '|', '?', '*']
  ending : part.toList.getLast? ≠ some '.' ∧ part.toList.getLast? ≠ some ' '
  device : ∀ name spaces, (base part).toList = name ++ replicate spaces ' ' →
    isDevice (String.ofList name) = false

/-- Where a part has a tilde after some text, no digit follows it. -/
def NoNumberAfter (earlier : List Char → Prop) (part : String) : Prop :=
  ∀ head digit tail, part.toList = head ++ '~' :: digit :: tail → earlier head →
    digit.isDigit = false

variable {part path : String}

/-- `split_once` sees the first tilde only. -/
theorem splitOnce_any_eq_false_iff :
    ((splitOnce part '~').any fun split => split.2.toList.head?.any Char.isDigit) = false ↔
      NoNumberAfter ('~' ∉ ·) part := by
  have whole := takeWhile_append_dropWhile (p := (· != '~')) (l := part.toList)
  rw [splitOnce, span_eq_takeWhile_dropWhile]
  constructor
  · intro passed head digit tail chars first
    have before : ∀ char ∈ head, (char != '~') = true := fun char mem =>
      bne_iff_ne.mpr fun same => first (same ▸ mem)
    rw [chars, takeWhile_append_of_pos before, dropWhile_append_of_pos before] at passed
    simpa using passed
  · intro none
    cases rest : part.toList.dropWhile (· != '~') with
    | nil => rfl
    | cons tilde tail =>
      have isTilde : tilde = '~' := by
        simpa [rest] using head_dropWhile_not (· != '~') (l := part.toList) (by simp [rest])
      rw [rest, isTilde] at whole
      cases tail with
      | nil => rfl
      | cons digit tail =>
        have first : '~' ∉ part.toList.takeWhile (· != '~') := fun mem => by
          simpa using mem_takeWhile_imp mem
        simpa using none _ digit tail whole.symm first

/-- A name before spaces is the base itself, where this does not end in a space. -/
theorem isDevice_eq_false_iff (plain : endsWithChar (base part) ' ' = false) :
    isDevice (base part) = false ↔
      ∀ name spaces, (base part).toList = name ++ replicate spaces ' ' →
        isDevice (String.ofList name) = false := by
  constructor
  · intro ordinary name spaces chars
    cases spaces with
    | zero =>
      rw [replicate_zero, append_nil] at chars
      rw [← chars, String.ofList_toList]
      exact ordinary
    | succ spaces =>
      rw [endsWithChar, chars, replicate_succ', ← append_assoc, getLast?_concat] at plain
      cases plain
  · intro ordinary
    simpa using ordinary (base part).toList 0 (append_nil _).symm

theorem isInvalid_eq_false_iff : isInvalid part = false ↔
    len part ≤ 255 ∧ Portable part ∧ endsWithChar (base part) ' ' = false ∧
      NoNumberAfter ('~' ∉ ·) part := by
  simp only [isInvalid, Bool.or_eq_false_iff, splitOnce_any_eq_false_iff]
  constructor
  · rintro ⟨⟨⟨⟨⟨⟨⟨⟨named, plain⟩, dot⟩, dots⟩, short⟩, ending⟩, characters⟩, device⟩, numbers⟩
    refine ⟨by simpa using short, ⟨?_, ?_, ?_, (isDevice_eq_false_iff plain).mp device⟩, plain,
      numbers⟩
    · simp_all
    · simpa [containsChar] using characters
    · simpa [endsWithChar] using ending
  · rintro ⟨short, ⟨named, characters, ending, device⟩, plain, numbers⟩
    simp_all [isDevice_eq_false_iff plain, endsWithChar, containsChar]

/-- What is accepted has no alias among its components, but for a number after a tilde that is
not the first; and what has none is accepted, where no base ends in a space. -/
theorem accepted_path_is_portable (path : String) :
    (∀ parts, validateRelativePath path = .ok parts → parts = split path '/' ∧
      ∀ part ∈ parts, Portable part ∧ endsWithChar (base part) ' ' = false ∧
        NoNumberAfter ('~' ∉ ·) part) ∧
    (len path ≤ 4096 → (split path '/').length ≤ 128 →
      (∀ part ∈ split path '/', len part ≤ 255 ∧ Portable part ∧
        endsWithChar (base part) ' ' = false ∧ NoNumberAfter (fun _ => True) part) →
      validateRelativePath path = .ok (split path '/')) := by
  constructor
  · intro parts accepted
    dsimp only [validateRelativePath] at accepted
    split at accepted
    · cases accepted
    rename_i passed
    cases accepted
    refine ⟨rfl, fun part mem => ?_⟩
    simp only [Bool.or_eq_true, any_eq_true, not_or, not_exists, not_and,
      Bool.not_eq_true] at passed
    exact (isInvalid_eq_false_iff.mp (passed.2 part mem)).2
  · intro short few valid
    have each : ∀ part ∈ split path '/', isInvalid part = false := by
      intro part mem
      obtain ⟨size, portable, plain, numbers⟩ := valid part mem
      exact isInvalid_eq_false_iff.mpr ⟨size, portable, plain, fun head digit tail chars _ =>
        numbers head digit tail chars trivial⟩
    rw [validateRelativePath, if_neg]
    simpa [short, few] using each

/-- The number of a short name is seen after the first tilde only; and a name is refused for a
space before its first dot. -/
theorem second_tilde_hides_short_name :
    (validateRelativePath "a~b~1" = .ok ["a~b~1"] ∧ ¬NoNumberAfter (fun _ => True) "a~b~1") ∧
      validateRelativePath "a .txt" = .error "invalid root-relative file path" ∧
      Portable "a .txt" ∧ NoNumberAfter (fun _ => True) "a .txt" := by
  refine ⟨⟨by decide, fun none => ?_⟩, by decide,
    ⟨by decide, by simp [isControl], by decide, fun name _ chars => ?_⟩,
    fun head digit tail chars => ?_⟩
  · cases none "a~b".toList '1' [] rfl trivial
  · have each : ∀ name ∈ (base "a .txt").toList.inits, isDevice (String.ofList name) = false := by
      decide
    exact each name ((mem_inits _ _).mpr ⟨_, chars.symm⟩)
  · have tilde : '~' ∈ "a .txt".toList := by simp [chars]
    exact absurd tilde (by decide)

end Treer.Platform
