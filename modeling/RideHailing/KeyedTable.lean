import Mathlib.Data.List.Nodup
import Mathlib.Data.List.Perm.Basic

/-!
# Tables with a primary key

A table is a list of rows in which no two rows share their primary key.
Saving a row overwrites the row with the same key, or appends it.  A table may
also carry a second uniqueness constraint; saving a row that would break it is
refused and leaves the table as it was.
-/

namespace RideHailing

/-- Rows whose primary keys are pairwise different. -/
structure KeyedTable {κ ρ : Type} (key : ρ → κ) where
  rows : List ρ
  distinct : (rows.map key).Nodup

namespace KeyedTable

variable {κ ρ : Type} {key : ρ → κ}

theorem nodup_append_absent {rows : List ρ} {row : ρ}
    (distinct : (rows.map key).Nodup) (absent : key row ∉ rows.map key) :
    ((rows ++ [row]).map key).Nodup := by
  rw [List.map_append, List.nodup_append]
  refine ⟨distinct, by simp, ?_⟩
  intro old oldMem new newMem equal
  have newKey : new = key row := by simpa using newMem
  exact absent (newKey ▸ equal ▸ oldMem)

def empty : KeyedTable key :=
  ⟨[], List.nodup_nil⟩

variable [DecidableEq κ]

/-- The row stored under a key. -/
def find (table : KeyedTable key) (sought : κ) : Option ρ :=
  table.rows.find? fun row => decide (key row = sought)

/-- Overwrite the rows with this row's key. -/
def overwrite (key : ρ → κ) (rows : List ρ) (row : ρ) : List ρ :=
  rows.map fun old => if key old = key row then row else old

theorem map_key_overwrite (rows : List ρ) (row : ρ) :
    (overwrite key rows row).map key = rows.map key := by
  rw [overwrite, List.map_map]
  apply List.map_congr_left
  intro old _
  by_cases same : key old = key row <;> simp [same]

/-- Overwrite the row with the same primary key, or append a new one. -/
def save (table : KeyedTable key) (row : ρ) : KeyedTable key :=
  if present : key row ∈ table.rows.map key then
    ⟨overwrite key table.rows row, by
      rw [map_key_overwrite]
      exact table.distinct⟩
  else
    ⟨table.rows ++ [row], nodup_append_absent table.distinct present⟩

/-- Drop the row with this key. -/
def erase (table : KeyedTable key) (gone : κ) : KeyedTable key :=
  ⟨table.rows.filter fun row => decide (key row ≠ gone),
    table.distinct.sublist (List.filter_sublist.map key)⟩

theorem find_eq_some_iff {table : KeyedTable key} {sought : κ} {row : ρ} :
    table.find sought = some row ↔ row ∈ table.rows ∧ key row = sought := by
  constructor
  · intro found
    exact ⟨List.mem_of_find?_eq_some found, by simpa using List.find?_some found⟩
  · rintro ⟨stored, rfl⟩
    cases found : table.find (key row) with
    | none =>
        simp only [find, List.find?_eq_none, decide_eq_true_eq] at found
        exact absurd rfl (found row stored)
    | some other =>
        have otherMem := List.mem_of_find?_eq_some found
        have otherKey : key other = key row := by
          simpa using List.find?_some found
        rw [List.inj_on_of_nodup_map table.distinct otherMem stored otherKey]

theorem key_of_find {table : KeyedTable key} {sought : κ} {row : ρ}
    (found : table.find sought = some row) : key row = sought :=
  (find_eq_some_iff.mp found).2

theorem mem_rows_iff_find {table : KeyedTable key} {row : ρ} :
    row ∈ table.rows ↔ table.find (key row) = some row := by
  simp [find_eq_some_iff]

theorem find_eq_none_iff {table : KeyedTable key} {sought : κ} :
    table.find sought = none ↔ sought ∉ table.rows.map key := by
  simp [find, List.find?_eq_none]

theorem mem_rows_save {table : KeyedTable key} {row other : ρ} :
    other ∈ (table.save row).rows ↔
      other = row ∨ (other ∈ table.rows ∧ key other ≠ key row) := by
  unfold save
  split
  · rename_i present
    obtain ⟨old, oldMem, oldKey⟩ := List.mem_map.mp present
    simp only [overwrite, List.mem_map]
    constructor
    · rintro ⟨before, beforeMem, rfl⟩
      by_cases same : key before = key row
      · exact Or.inl (if_pos same)
      · rw [if_neg same]
        exact Or.inr ⟨beforeMem, same⟩
    · rintro (rfl | ⟨otherMem, otherNe⟩)
      · exact ⟨old, oldMem, if_pos oldKey⟩
      · exact ⟨other, otherMem, if_neg otherNe⟩
  · rename_i absent
    have keyNe : ∀ old ∈ table.rows, key old ≠ key row := fun old oldMem equal =>
      absent (equal ▸ List.mem_map_of_mem oldMem)
    simp only [List.mem_append, List.mem_singleton]
    constructor
    · rintro (oldMem | rfl)
      · exact Or.inr ⟨oldMem, keyNe other oldMem⟩
      · exact Or.inl rfl
    · rintro (rfl | ⟨oldMem, _⟩)
      · exact Or.inr rfl
      · exact Or.inl oldMem

/-- Reading after a save sees the saved row under its own key and the old row
under every other one. -/
theorem find_save (table : KeyedTable key) (row : ρ) (sought : κ) :
    (table.save row).find sought =
      if key row = sought then some row else table.find sought := by
  ext other
  rw [find_eq_some_iff, mem_rows_save]
  by_cases same : key row = sought
  · subst same
    simp only [if_true, Option.some.injEq]
    constructor
    · rintro ⟨rfl | ⟨_, otherNe⟩, otherKey⟩
      · rfl
      · exact absurd otherKey otherNe
    · rintro rfl
      exact ⟨Or.inl rfl, rfl⟩
  · rw [if_neg same, find_eq_some_iff]
    constructor
    · rintro ⟨rfl | ⟨otherMem, _⟩, otherKey⟩
      · exact absurd otherKey same
      · exact ⟨otherMem, otherKey⟩
    · rintro ⟨otherMem, rfl⟩
      exact ⟨Or.inr ⟨otherMem, fun equal => same equal.symm⟩, rfl⟩

@[simp]
theorem find_save_self (table : KeyedTable key) (row : ρ) :
    (table.save row).find (key row) = some row := by
  simp [find_save]

theorem find_erase (table : KeyedTable key) (gone sought : κ) :
    (table.erase gone).find sought =
      if sought = gone then none else table.find sought := by
  ext row
  rw [find_eq_some_iff, erase, List.mem_filter, decide_eq_true_eq]
  by_cases same : sought = gone
  · rw [if_pos same]
    constructor
    · rintro ⟨⟨_, kept⟩, rowKey⟩
      exact absurd (rowKey.trans same) kept
    · intro absurdRow
      cases absurdRow
  · rw [if_neg same, find_eq_some_iff]
    constructor
    · rintro ⟨⟨rowMem, _⟩, rowKey⟩
      exact ⟨rowMem, rowKey⟩
    · rintro ⟨rowMem, rowKey⟩
      exact ⟨⟨rowMem, fun erased => same (rowKey.symm.trans erased)⟩, rowKey⟩

theorem rows_save_of_absent {table : KeyedTable key} {row : ρ}
    (absent : table.find (key row) = none) :
    (table.save row).rows = table.rows ++ [row] := by
  rw [find_eq_none_iff] at absent
  simp [save, absent]

end KeyedTable

/-- A keyed table with a second uniqueness constraint. -/
structure UniqueTable {κ υ ρ : Type} (key : ρ → κ) (unique : ρ → υ)
    extends KeyedTable key where
  exclusive : (rows.map unique).Nodup

namespace UniqueTable

variable {κ υ ρ : Type} [DecidableEq κ]
variable {key : ρ → κ} {unique : ρ → υ}

def empty : UniqueTable key unique :=
  ⟨KeyedTable.empty, List.nodup_nil⟩

/-- Another row already holds this row's unique value. -/
def Conflicts (table : UniqueTable key unique) (row : ρ) : Prop :=
  ∃ old ∈ table.rows, key old ≠ key row ∧ unique old = unique row

instance [DecidableEq υ] (table : UniqueTable key unique) (row : ρ) :
    Decidable (table.Conflicts row) := by
  unfold Conflicts
  infer_instance

theorem exclusive_save (table : UniqueTable key unique) (row : ρ)
    (free : ¬ table.Conflicts row) :
    ((table.toKeyedTable.save row).rows.map unique).Nodup := by
  have rowsNodup : (table.toKeyedTable.save row).rows.Nodup :=
    (table.toKeyedTable.save row).distinct.of_map
  apply List.Nodup.map_on ?_ rowsNodup
  intro first firstMem second secondMem equal
  rcases KeyedTable.mem_rows_save.mp firstMem with rfl | ⟨firstOld, firstNe⟩
  · rcases KeyedTable.mem_rows_save.mp secondMem with rfl | ⟨secondOld, secondNe⟩
    · rfl
    · exact absurd ⟨second, secondOld, secondNe, equal.symm⟩ free
  · rcases KeyedTable.mem_rows_save.mp secondMem with rfl | ⟨secondOld, secondNe⟩
    · exact absurd ⟨first, firstOld, firstNe, equal⟩ free
    · exact List.inj_on_of_nodup_map table.exclusive firstOld secondOld equal

/-- Save a row, or refuse it when it breaks the second constraint. -/
def merge [DecidableEq υ] (table : UniqueTable key unique) (row : ρ) :
    Option (UniqueTable key unique) :=
  if conflict : table.Conflicts row then none
  else some ⟨table.toKeyedTable.save row, exclusive_save table row conflict⟩

theorem merge_eq_some [DecidableEq υ] {table next : UniqueTable key unique}
    {row : ρ} (merged : table.merge row = some next) :
    ¬ table.Conflicts row ∧
      next.toKeyedTable = table.toKeyedTable.save row := by
  unfold merge at merged
  split at merged
  · cases merged
  · rename_i free
    cases merged
    exact ⟨free, rfl⟩

theorem merge_eq_none [DecidableEq υ] {table : UniqueTable key unique}
    {row : ρ} (refused : table.merge row = none) : table.Conflicts row := by
  unfold merge at refused
  split at refused
  · assumption
  · cases refused

/-- A row that keeps the unique value already stored under its key never
conflicts. -/
theorem not_conflicts_of_find {table : UniqueTable key unique} {old row : ρ}
    (found : table.find (key row) = some old) (same : unique old = unique row) :
    ¬ table.Conflicts row := by
  rintro ⟨other, otherMem, otherNe, otherUnique⟩
  obtain ⟨oldMem, oldKey⟩ := KeyedTable.find_eq_some_iff.mp found
  have equal := List.inj_on_of_nodup_map table.exclusive otherMem oldMem
    (otherUnique.trans same.symm)
  exact otherNe (equal ▸ oldKey)

end UniqueTable

end RideHailing
