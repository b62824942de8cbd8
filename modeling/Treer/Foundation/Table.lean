import Mathlib.Data.List.Nodup

/-!
# Keyed tables

A table is a list of rows in insertion order whose primary keys are distinct.
The key invariant is a field of the type, so a table with two rows of one key
cannot be built and no lookup has to say which of them it means.
-/

namespace Treer.Foundation

open List Option Function

universe u v

/-- Rows in insertion order, with distinct primary keys. -/
structure Table (ρ : Type u) {κ : Type v} (key : ρ → κ) where
  rows : List ρ
  nodup : (rows.map key).Nodup

namespace Table

variable {ρ : Type u} {κ : Type v} {key : ρ → κ} {table : Table ρ key}

@[ext]
theorem ext {first second : Table ρ key} (rowsEq : first.rows = second.rows) : first = second := by
  cases second
  cases rowsEq
  rfl

instance [DecidableEq ρ] : DecidableEq (Table ρ key) := fun first second =>
  decidable_of_iff (first.rows = second.rows) ⟨ext, fun same => same ▸ rfl⟩

/-- The table without rows. -/
def empty : Table ρ key := ⟨[], List.nodup_nil⟩

instance : Membership ρ (Table ρ key) := ⟨fun table row => row ∈ table.rows⟩

@[simp]
theorem mem_rows {row : ρ} : row ∈ table.rows ↔ row ∈ table :=
  Iff.rfl

@[simp]
theorem not_mem_empty (row : ρ) : row ∉ (empty : Table ρ key) := not_mem_nil

/-- Two rows of one key are one row. -/
theorem eq_of_key_eq {first second : ρ} (firstMem : first ∈ table)
    (secondMem : second ∈ table) (keyEq : key first = key second) : first = second :=
  inj_on_of_nodup_map table.nodup firstMem secondMem keyEq

section
variable [DecidableEq κ] {table : Table ρ key} {row : ρ} {wanted : κ}

/-- `SELECT ... WHERE <primary key> = wanted`. -/
def find? (table : Table ρ key) (wanted : κ) : Option ρ :=
  table.rows.find? fun row => key row = wanted

theorem find?_eq_some_iff : table.find? wanted = some row ↔ row ∈ table ∧ key row = wanted := by
  constructor
  · intro found
    have keyEq := find?_some found
    exact ⟨mem_of_find?_eq_some found, by simpa using keyEq⟩
  · rintro ⟨rowMem, keyEq⟩
    cases found : table.find? wanted with
    | none =>
      have absent := find?_eq_none.mp found row rowMem
      simp [keyEq] at absent
    | some other =>
      have otherKey := find?_some found
      have otherMem := mem_of_find?_eq_some found
      have same : other = row := eq_of_key_eq otherMem rowMem (by
        rw [keyEq]
        simpa using otherKey)
      rw [same]

@[simp]
theorem find?_empty (wanted : κ) : (empty : Table ρ key).find? wanted = none :=
  rfl

theorem find?_eq_none_iff : table.find? wanted = none ↔ ∀ row ∈ table, key row ≠ wanted := by
  unfold find?
  simp [mem_rows]

/-- `INSERT`: append a row, or refuse it when its key is taken. -/
def insert? (table : Table ρ key) (row : ρ) : Option (Table ρ key) :=
  if fresh : key row ∈ table.rows.map key then none
  else some ⟨table.rows ++ [row], by
    rw [List.map_append, List.nodup_append]
    refine ⟨table.nodup, List.nodup_singleton _, ?_⟩
    intro taken takenMem other otherMem same
    simp only [List.map_cons, List.map_nil, List.mem_singleton] at otherMem
    exact fresh (otherMem ▸ same ▸ takenMem)⟩

theorem insert?_eq_some {next : Table ρ key} (inserted : table.insert? row = some next) :
    (∀ other ∈ table, key other ≠ key row) ∧ next.rows = table.rows ++ [row] := by
  unfold insert? at inserted
  split at inserted
  · cases inserted
  rename_i fresh
  cases inserted
  refine ⟨fun other otherMem keyEq => ?_, rfl⟩
  exact fresh (keyEq ▸ mem_map_of_mem otherMem)

/-- An insert into a table of a larger state. -/
theorem of_map_insert? {σ : Type*} {set : Table ρ key → σ} {next : σ}
    (written : (table.insert? row).map set = some next) :
    ∃ grown, grown.rows = table.rows ++ [row] ∧ next = set grown := by
  rcases map_eq_some_iff.mp written with ⟨grown, inserted, rfl⟩
  exact ⟨grown, (insert?_eq_some inserted).2, rfl⟩

end

variable {table : Table ρ key} {row : ρ} {selected : ρ → Bool}

/-- A row of the table after an insert is an old row or the new one. -/
theorem mem_of_rows_append {next : Table ρ key} {added : List ρ}
    (rowsEq : next.rows = table.rows ++ added) :
    row ∈ next ↔ row ∈ table ∨ row ∈ added := by
  rw [← mem_rows, rowsEq, mem_append, mem_rows]

/-- Writes that each append one row to one table append all rows and change nothing else. -/
theorem foldlM_appends {σ : Type*} {write : ρ → σ → Option σ}
    (get : σ → Table ρ key) (set : σ → Table ρ key → σ)
    (getSet : ∀ state table, get (set state table) = table)
    (setGet : ∀ state, set state (get state) = state)
    (setSet : ∀ state first second, set (set state first) second = set state second)
    (appends : ∀ {row state next}, write row state = some next →
      ∃ table, table.rows = (get state).rows ++ [row] ∧ next = set state table)
    {rows : List ρ} {state next : σ}
    (written : rows.foldlM (fun state row => write row state) state = some next) :
    ∃ table, table.rows = (get state).rows ++ rows ∧ next = set state table := by
  induction rows generalizing state with
  | nil =>
    cases written
    exact ⟨get next, by simp, (setGet next).symm⟩
  | cons row rest ih =>
    rcases bind_eq_some_iff.mp written with ⟨middle, first, others⟩
    rcases appends first with ⟨firstTable, firstRows, rfl⟩
    rcases ih others with ⟨table, rowsEq, rfl⟩
    refine ⟨table, ?_, setSet state firstTable table⟩
    rw [rowsEq, getSet, firstRows, append_assoc]
    rfl

/-- `UPDATE ... SET ... WHERE selected`; the assignment keeps the key. -/
def update (table : Table ρ key) (selected : ρ → Bool) (assign : ρ → ρ)
    (keeps : ∀ row, key (assign row) = key row) : Table ρ key where
  rows := table.rows.map fun row => if selected row then assign row else row
  nodup := by
    have keysEq : (table.rows.map fun row => if selected row then assign row else row).map key =
        table.rows.map key := by
      rw [List.map_map]
      apply List.map_congr_left
      intro row _
      simp only [Function.comp_apply]
      split
      · exact keeps row
      · rfl
    rw [keysEq]
    exact table.nodup

theorem mem_update_iff {assign : ρ → ρ} {keeps : ∀ row, key (assign row) = key row} :
    row ∈ table.update selected assign keeps ↔
      ∃ old ∈ table, (if selected old then assign old else old) = row := by
  simp [← mem_rows, update]

/-- `DELETE ... WHERE selected`. -/
def delete (table : Table ρ key) (selected : ρ → Bool) : Table ρ key where
  rows := table.rows.filter fun row => !selected row
  nodup := table.nodup.sublist (List.filter_sublist.map key)

theorem mem_delete_iff : row ∈ table.delete selected ↔ row ∈ table ∧ selected row = false := by
  simp [← mem_rows, delete]

end Table

/-! ## Lookups after a write -/

namespace Table

variable {ρ : Type u} {κ : Type v} {key : ρ → κ} [DecidableEq κ] {table : Table ρ key} {row : ρ}

theorem find?_update (table : Table ρ key) (selected : ρ → Bool) (assign : ρ → ρ)
    (keeps : ∀ row, key (assign row) = key row) (wanted : κ) :
    (table.update selected assign keeps).find? wanted =
      (table.find? wanted).map fun row => if selected row then assign row else row := by
  have keyEq : ∀ row, key (if selected row then assign row else row) = key row := by
    intro row
    split
    · exact keeps row
    · rfl
  apply Option.ext
  intro found
  rw [find?_eq_some_iff, mem_update_iff, map_eq_some_iff]
  constructor
  · rintro ⟨⟨old, oldMem, rfl⟩, foundKey⟩
    exact ⟨old, find?_eq_some_iff.mpr ⟨oldMem, (keyEq old).symm.trans foundKey⟩, rfl⟩
  · rintro ⟨old, oldFound, rfl⟩
    rcases find?_eq_some_iff.mp oldFound with ⟨oldMem, oldKey⟩
    exact ⟨⟨old, oldMem, rfl⟩, (keyEq old).trans oldKey⟩

theorem find?_delete (table : Table ρ key) (selected : ρ → Bool) (wanted : κ) :
    (table.delete selected).find? wanted = (table.find? wanted).filter (!selected ·) := by
  apply Option.ext
  intro found
  rw [find?_eq_some_iff, mem_delete_iff, filter_eq_some_iff, find?_eq_some_iff]
  constructor
  · rintro ⟨⟨foundMem, unselected⟩, keyEq⟩
    exact ⟨⟨foundMem, keyEq⟩, by simp [unselected]⟩
  · rintro ⟨⟨foundMem, keyEq⟩, unselected⟩
    exact ⟨⟨foundMem, by simpa using unselected⟩, keyEq⟩

theorem find?_update_key (table : Table ρ key) (changed : κ) (assign : ρ → ρ)
    (keeps : ∀ row, key (assign row) = key row) :
    (table.update (key · == changed) assign keeps).find? =
      Function.update table.find? changed ((table.find? changed).map assign) := by
  funext wanted
  rw [find?_update, update_apply]
  cases found : table.find? wanted with
  | none =>
    split
    case isTrue same =>
      rw [← same, found]
      rfl
    case isFalse => rfl
  | some row =>
    obtain ⟨_, rfl⟩ := find?_eq_some_iff.mp found
    by_cases same : key row = changed
    · simp [← same, found]
    · simp [same]

theorem find?_delete_key (table : Table ρ key) (removed : κ) :
    (table.delete (key · == removed)).find? = Function.update table.find? removed none := by
  funext wanted
  rw [find?_delete, update_apply]
  cases found : table.find? wanted with
  | none => simp
  | some row =>
    obtain ⟨_, rfl⟩ := find?_eq_some_iff.mp found
    by_cases same : key row = removed <;> simp [same]

/-- Puts a row in the table, in place of an earlier one of its key. -/
def put (table : Table ρ key) (row : ρ) : Table ρ key where
  rows := (table.delete (key · == key row)).rows ++ [row]
  nodup := by
    rw [List.map_append, List.nodup_append]
    refine ⟨(table.delete _).nodup, List.nodup_singleton _, ?_⟩
    intro old oldMem new newMem
    rcases List.mem_map.mp oldMem with ⟨other, otherMem, rfl⟩
    cases List.mem_singleton.mp newMem
    simpa using (mem_delete_iff.mp otherMem).2

theorem length_put_le (table : Table ρ key) (row : ρ) :
    (table.put row).rows.length ≤ table.rows.length + 1 := by
  change ((table.delete _).rows ++ [row]).length ≤ _
  rw [length_append]
  exact Nat.add_le_add_right (length_filter_le _ _) 1

/-- A row of a new key comes last. -/
theorem rows_put_of_fresh (fresh : table.find? (key row) = none) :
    (table.put row).rows = table.rows ++ [row] := by
  change table.rows.filter _ ++ [row] = _
  rw [filter_eq_self.mpr]
  intro other mem
  rw [Bool.not_eq_true', beq_eq_false_iff_ne]
  exact find?_eq_none_iff.mp fresh other mem

theorem mem_put_iff {other : ρ} :
    other ∈ table.put row ↔ (other ∈ table ∧ key other ≠ key row) ∨ other = row := by
  have rows : (table.put row).rows = (table.delete (key · == key row)).rows ++ [row] := rfl
  rw [mem_of_rows_append rows, mem_delete_iff, mem_singleton, beq_eq_false_iff_ne]

theorem find?_put (table : Table ρ key) (row : ρ) (wanted : κ) :
    (table.put row).find? wanted = if wanted = key row then some row else table.find? wanted := by
  apply Option.ext
  intro found
  rw [find?_eq_some_iff, mem_put_iff]
  by_cases same : wanted = key row
  · rw [if_pos same, some.injEq, same]
    constructor
    · rintro ⟨⟨_, differs⟩ | rfl, keyEq⟩
      · exact absurd keyEq differs
      · rfl
    · rintro rfl
      exact ⟨.inr rfl, rfl⟩
  · rw [if_neg same, find?_eq_some_iff]
    constructor
    · rintro ⟨⟨old, _⟩ | rfl, keyEq⟩
      · exact ⟨old, keyEq⟩
      · exact absurd keyEq.symm same
    · rintro ⟨old, rfl⟩
      exact ⟨.inl ⟨old, same⟩, rfl⟩

theorem find?_of_insert? {next : Table ρ key}
    (inserted : table.insert? row = some next) (wanted : κ) :
    next.find? wanted = if wanted = key row then some row else table.find? wanted := by
  rcases insert?_eq_some inserted with ⟨fresh, rowsEq⟩
  have put : next = table.put row :=
    ext (rowsEq.trans (rows_put_of_fresh (find?_eq_none_iff.mpr fresh)).symm)
  rw [put, find?_put]

/-- A loop that puts a row for each item that is selected. -/
theorem mem_of_mem_foldl_put_if {ι : Type*} {items : List ι} {selected : ι → Bool} {make : ι → ρ}
    (mem : row ∈ items.foldl
      (fun table item => if selected item then table.put (make item) else table) table) :
    row ∈ table ∨ ∃ item ∈ items, selected item = true ∧ make item = row := by
  induction items generalizing table with
  | nil => exact .inl mem
  | cons item rest ih =>
    rw [foldl_cons] at mem
    rcases ih mem with inTable | ⟨later, laterMem, facts⟩
    · split at inTable
      · rename_i taken
        rcases mem_put_iff.mp inTable with ⟨old, _⟩ | rfl
        · exact .inl old
        · exact .inr ⟨item, mem_cons_self, taken, rfl⟩
      · exact .inl inTable
    · exact .inr ⟨later, mem_cons_of_mem item laterMem, facts⟩

/-- A loop of such writes adds no other rows. -/
theorem mem_of_mem_foldl_put {rows : List ρ}
    (mem : row ∈ rows.foldl put table) : row ∈ table ∨ row ∈ rows := by
  rcases @mem_of_mem_foldl_put_if _ _ _ _ _ _ _ rows (fun _ => true) id mem with
    old | ⟨item, itemMem, -, rfl⟩
  · exact .inl old
  · exact .inr itemMem

end Table

/-- A finite map is a table of key and value pairs. -/
abbrev KeyedMap (κ : Type u) (ν : Type v) := Table (κ × ν) Prod.fst

namespace KeyedMap

variable {κ : Type u} {ν : Type v}

/-- The value under a key. -/
def get? [DecidableEq κ] (map : KeyedMap κ ν) (wanted : κ) : Option ν :=
  (map.find? wanted).map Prod.snd

theorem get?_eq_some_iff [DecidableEq κ] {map : KeyedMap κ ν} {wanted : κ} {value : ν} :
    map.get? wanted = some value ↔ (wanted, value) ∈ map := by
  rw [get?, map_eq_some_iff]
  constructor
  · rintro ⟨⟨key, found⟩, entry, rfl⟩
    obtain ⟨mem, rfl⟩ := Table.find?_eq_some_iff.mp entry
    exact mem
  · intro mem
    exact ⟨(wanted, value), Table.find?_eq_some_iff.mpr ⟨mem, rfl⟩, rfl⟩

/-- The rows of one key are at most one. -/
theorem rows_filter_key [DecidableEq κ] (map : KeyedMap κ ν) (wanted : κ) :
    map.rows.filter (·.1 == wanted) = (map.get? wanted).toList.map (wanted, ·) := by
  rcases map with ⟨rows, nodup⟩
  change rows.filter _ = ((rows.find? (·.1 == wanted)).map Prod.snd).toList.map (wanted, ·)
  induction rows with
  | nil => rfl
  | cons entry rest ih =>
    rw [map_cons, nodup_cons] at nodup
    by_cases same : entry.1 = wanted
    · have others : rest.filter (·.1 == wanted) = [] := by
        rw [filter_eq_nil_iff]
        intro other otherMem otherSame
        exact nodup.1 (mem_map.mpr ⟨other, otherMem, (beq_iff_eq.mp otherSame).trans same.symm⟩)
      rw [filter_cons_of_pos (by simpa using same), others, find?_cons_of_pos (by simpa using same)]
      rw [← same]
      rfl
    · rw [filter_cons_of_neg (by simpa using same), ih nodup.2,
        find?_cons_of_neg (by simpa using same)]

/-- Puts a value under a key, in place of an earlier one. -/
def insert [DecidableEq κ] (map : KeyedMap κ ν) (added : κ) (value : ν) : KeyedMap κ ν where
  rows := (map.delete (·.1 == added)).rows ++ [(added, value)]
  nodup := by
    rw [List.map_append, List.nodup_append]
    refine ⟨(map.delete _).nodup, List.nodup_singleton _, ?_⟩
    intro old oldMem new newMem
    rcases List.mem_map.mp oldMem with ⟨row, rowMem, rfl⟩
    cases List.mem_singleton.mp newMem
    simpa using (Table.mem_delete_iff.mp rowMem).2

theorem get?_insert [DecidableEq κ] (map : KeyedMap κ ν) (added wanted : κ) (value : ν) :
    (map.insert added value).get? wanted =
      if wanted = added then some value else map.get? wanted := by
  have put : map.insert added value = map.put (added, value) := rfl
  rw [get?, put, Table.find?_put, apply_ite (Option.map Prod.snd)]
  rfl

/-- Removes a key. -/
def erase [DecidableEq κ] (map : KeyedMap κ ν) (removed : κ) : KeyedMap κ ν :=
  map.delete (·.1 == removed)

theorem get?_erase [DecidableEq κ] (map : KeyedMap κ ν) (removed wanted : κ) :
    (map.erase removed).get? wanted = if wanted = removed then none else map.get? wanted := by
  rw [get?, erase, Table.find?_delete_key, update_apply, apply_ite (Option.map Prod.snd)]
  rfl

theorem get?_insert_eq [DecidableEq κ] (map : KeyedMap κ ν) (added : κ) (value : ν) :
    (map.insert added value).get? = update map.get? added (some value) := by
  funext wanted
  rw [get?_insert, update_apply]

theorem get?_erase_eq [DecidableEq κ] (map : KeyedMap κ ν) (removed : κ) :
    (map.erase removed).get? = update map.get? removed none := by
  funext wanted
  rw [get?_erase, update_apply]

/-- The map with every value replaced. -/
def mapValues {μ : Type*} (map : KeyedMap κ ν) (assign : ν → μ) : KeyedMap κ μ where
  rows := map.rows.map fun entry => (entry.1, assign entry.2)
  nodup := by
    rw [List.map_map]
    exact map.nodup

@[simp]
theorem get?_mapValues {μ : Type*} [DecidableEq κ] (map : KeyedMap κ ν) (assign : ν → μ)
    (wanted : κ) : (map.mapValues assign).get? wanted = (map.get? wanted).map assign := by
  simp only [get?, Table.find?, mapValues, find?_map, Option.map_map]
  rfl

end KeyedMap
end Treer.Foundation
