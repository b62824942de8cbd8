import Mathlib.Data.List.Basic

/-!
# Serialized values

A derived serializer visits a value and emits a stream of JSON tokens. Two
values that are compared through a digest of that stream are compared
correctly only if the stream determines the value, and only if it still does
so when other tokens follow. `SelfDelimiting` is that property; it is what
makes a field, an array or a tuple readable inside a larger stream.
-/

namespace Treer.Foundation

universe u v

variable {α : Type u} {rest : List JsonToken} {name : String}

/-- What a JSON serializer emits. `time` is the text of a timestamp; distinct
timestamps have distinct texts. -/
inductive JsonToken where
  | null
  | bool (value : Bool)
  | num (value : Int)
  | str (value : String)
  | time (nanoseconds : Int)
  | key (name : String)
  | openObject
  | closeObject
  | openArray
  | closeArray
  deriving DecidableEq

/-- Types with a derived serializer. -/
class Serialize (α : Type u) where
  serialize : α → List JsonToken

export Serialize (serialize)

/-- The stream starts with `token`. -/
def StartsWith (tokens : List JsonToken) (token : JsonToken) : Prop :=
  tokens.head? = some token

@[simp]
theorem startsWith_cons {first token : JsonToken} :
    StartsWith (first :: rest) token ↔ first = token := by
  simp [StartsWith]

/-- A stream that determines the serialized value and where it ends. -/
class SelfDelimiting (α : Type u) [Serialize α] : Prop where
  cancel : ∀ {first second : α} {rest other : List JsonToken},
    serialize first ++ rest = serialize second ++ other → first = second ∧ rest = other
  notClose : ∀ (value : α) (rest : List JsonToken),
    ¬ StartsWith (serialize value ++ rest) .closeArray

/-- Self-delimiting streams that never read as `null`. -/
class NonNull (α : Type u) [Serialize α] : Prop where
  notNull : ∀ (value : α) (rest : List JsonToken), ¬ StartsWith (serialize value ++ rest) .null

instance : Serialize String := ⟨fun value => [.str value]⟩

instance : SelfDelimiting String where
  cancel := by
    intro first second rest other same
    simpa [serialize] using same
  notClose := by simp [serialize]

instance : NonNull String where
  notNull := by simp [serialize]

instance {α : Type u} [Serialize α] : Serialize (Option α) where
  serialize
    | none => [.null]
    | some value => serialize value

instance {α : Type u} [Serialize α] [SelfDelimiting α] [NonNull α] :
    SelfDelimiting (Option α) where
  cancel := by
    intro first second rest other same
    cases first with
    | none =>
      cases second with
      | none => simpa [serialize] using same
      | some value =>
        refine absurd ?_ (NonNull.notNull value other)
        change [JsonToken.null] ++ rest = serialize value ++ other at same
        rw [StartsWith, ← same]
        rfl
    | some value =>
      cases second with
      | none =>
        refine absurd ?_ (NonNull.notNull value rest)
        change serialize value ++ rest = [JsonToken.null] ++ other at same
        rw [StartsWith, same]
        rfl
      | some otherValue =>
        obtain ⟨valueEq, restEq⟩ := SelfDelimiting.cancel (α := α) same
        exact ⟨congrArg some valueEq, restEq⟩
  notClose := by
    intro value rest
    cases value with
    | none => simp [serialize]
    | some value => exact SelfDelimiting.notClose value rest

/-- The elements of an array and its closing bracket. -/
def serializeItems {α : Type u} [Serialize α] : List α → List JsonToken
  | [] => [.closeArray]
  | value :: rest => serialize value ++ serializeItems rest

instance {α : Type u} [Serialize α] : Serialize (List α) where
  serialize values := .openArray :: serializeItems values

variable {other : List JsonToken}

theorem serializeItems_cancel [Serialize α] [SelfDelimiting α] {first second : List α}
    (same : serializeItems first ++ rest = serializeItems second ++ other) :
    first = second ∧ rest = other := by
  induction first generalizing second with
  | nil =>
    cases second with
    | nil => simpa [serializeItems] using same
    | cons value values =>
      refine absurd ?_ (SelfDelimiting.notClose value (serializeItems values ++ other))
      rw [StartsWith, ← List.append_assoc]
      change _ = (serialize value ++ serializeItems values) ++ other at same
      rw [← same]
      rfl
  | cons value values ih =>
    cases second with
    | nil =>
      refine absurd ?_ (SelfDelimiting.notClose value (serializeItems values ++ rest))
      rw [StartsWith, ← List.append_assoc]
      change (serialize value ++ serializeItems values) ++ rest = _ at same
      rw [same]
      rfl
    | cons otherValue otherValues =>
      simp only [serializeItems, List.append_assoc] at same
      obtain ⟨rfl, tailEq⟩ := SelfDelimiting.cancel same
      obtain ⟨rfl, restEq⟩ := ih tailEq
      exact ⟨rfl, restEq⟩

instance {α : Type u} [Serialize α] [SelfDelimiting α] : SelfDelimiting (List α) where
  cancel := by
    intro first second rest other same
    exact serializeItems_cancel (List.cons.inj same).2
  notClose := by simp [serialize]

instance {α : Type u} {β : Type v} [Serialize α] [Serialize β] : Serialize (α × β) where
  serialize pair := .openArray :: (serialize pair.1 ++ (serialize pair.2 ++ [.closeArray]))

/-- A field that is always written. -/
def field {α : Type u} [Serialize α] (name : String) (value : α) : List JsonToken :=
  .key name :: serialize value

/-- A field with `skip_serializing_if = "Option::is_none"`. -/
def fieldUnlessNone {α : Type u} [Serialize α] (name : String) : Option α → List JsonToken
  | none => []
  | some value => field name value

@[simp]
theorem startsWith_field [Serialize α] {other : String} {value : α} :
    StartsWith (field name value ++ rest) (.key other) ↔ name = other := by
  simp [field]

/-- A field of another name, written or skipped, is not the first key. -/
@[simp]
theorem not_startsWith_fieldUnlessNone [Serialize α] {other : String}
    {value : Option α} (names : name ≠ other) (restKey : ¬ StartsWith rest (.key other)) :
    ¬ StartsWith (fieldUnlessNone name value ++ rest) (.key other) := by
  cases value with
  | none => exact restKey
  | some value =>
    rw [fieldUnlessNone, startsWith_field]
    exact names

@[simp]
theorem field_append_inj [Serialize α] [SelfDelimiting α] {first second : α} :
    field name first ++ rest = field name second ++ other ↔ first = second ∧ rest = other := by
  constructor
  · intro same
    exact SelfDelimiting.cancel (List.cons.inj same).2
  · rintro ⟨rfl, rfl⟩
    rfl

/-- A skipped field is told from a written one by the key that comes next. -/
@[simp]
theorem fieldUnlessNone_append_inj [Serialize α] [SelfDelimiting α] {first second : Option α}
    (restKey : ¬ StartsWith rest (.key name)) (otherKey : ¬ StartsWith other (.key name)) :
    fieldUnlessNone name first ++ rest = fieldUnlessNone name second ++ other ↔
      first = second ∧ rest = other := by
  cases first with
  | none =>
    cases second with
    | none => simp
    | some value =>
      refine iff_of_false (fun same => restKey ?_) (by simp)
      change rest = field name value ++ other at same
      simp [same]
  | some value =>
    cases second with
    | none =>
      refine iff_of_false (fun same => otherKey ?_) (by simp)
      change field name value ++ rest = other at same
      simp [← same]
    | some otherValue => simp [fieldUnlessNone]

end Treer.Foundation
