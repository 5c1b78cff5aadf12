import Mathlib.Data.List.Nodup

/-!
# Cutting a ranking before or after a selection

A ranking lists candidates, the best first.  Whoever cuts it at a limit and selects
afterwards may get fewer than whoever selects first: both get the same exactly when
everybody above the cut is selected, or nobody below it.
-/

namespace RideHailing

namespace Ranking

variable {α : Type} {selected : α → Bool} {limit : Nat} {ranked : List α}

/-- The selected ones among the first. -/
def cutThenSelect (selected : α → Bool) (limit : Nat) (ranked : List α) : List α :=
  (ranked.take limit).filter selected

/-- The first of the selected ones. -/
def selectThenCut (selected : α → Bool) (limit : Nat) (ranked : List α) : List α :=
  (ranked.filter selected).take limit

theorem cutThenSelect_length_le : (cutThenSelect selected limit ranked).length ≤ limit := by
  have fewer : (cutThenSelect selected limit ranked).length ≤ (ranked.take limit).length :=
    List.length_filter_le selected (ranked.take limit)
  have cut : (ranked.take limit).length ≤ limit := List.length_take_le limit ranked
  omega

/-- Selecting first fills the places that are left with selected ones below the cut. -/
theorem selectThenCut_eq_append :
    selectThenCut selected limit ranked = cutThenSelect selected limit ranked ++
      ((ranked.drop limit).filter selected).take
        (limit - (cutThenSelect selected limit ranked).length) := by
  have parts : ranked.filter selected =
      cutThenSelect selected limit ranked ++ (ranked.drop limit).filter selected := by
    rw [cutThenSelect, ← List.filter_append, List.take_append_drop]
  rw [selectThenCut, parts, List.take_append]
  rw [List.take_of_length_le cutThenSelect_length_le]

theorem cutThenSelect_prefix :
    cutThenSelect selected limit ranked <+: selectThenCut selected limit ranked := by
  rw [selectThenCut_eq_append]
  exact List.prefix_append _ _

/-- A full place count means that everybody above the cut is selected. -/
theorem all_selected_of_full (full : (cutThenSelect selected limit ranked).length = limit) :
    ∀ candidate ∈ ranked.take limit, selected candidate = true := by
  rw [← List.length_filter_eq_length_iff]
  have fewer := List.length_filter_le selected (ranked.take limit)
  have cut := List.length_take_le limit ranked
  rw [cutThenSelect] at full
  omega

/-- Cutting before the selection loses nobody exactly when everybody above the cut is
selected or nobody below it. -/
theorem cutThenSelect_eq_iff :
    cutThenSelect selected limit ranked = selectThenCut selected limit ranked ↔
      (∀ candidate ∈ ranked.take limit, selected candidate = true) ∨
        ∀ candidate ∈ ranked.drop limit, selected candidate = false := by
  rw [selectThenCut_eq_append, List.self_eq_append_right, List.take_eq_nil_iff]
  have noneBelow : (ranked.drop limit).filter selected = [] ↔
      ∀ candidate ∈ ranked.drop limit, selected candidate = false := by
    simp [List.filter_eq_nil_iff]
  rw [noneBelow]
  constructor
  · rintro (full | below)
    · left
      apply all_selected_of_full
      have bound : (cutThenSelect selected limit ranked).length ≤ limit :=
        cutThenSelect_length_le
      omega
    · exact Or.inr below
  · rintro (above | below)
    · -- The ranking may end above the cut.
      have everybody : cutThenSelect selected limit ranked = ranked.take limit :=
        List.filter_eq_self.mpr above
      by_cases short : ranked.length ≤ limit
      · right
        rw [List.drop_eq_nil_of_le short]
        simp
      · left
        rw [everybody, List.length_take]
        omega
    · exact Or.inr below

theorem cutThenSelect_length_of_all (all : ∀ candidate ∈ ranked, selected candidate = true) :
    (cutThenSelect selected limit ranked).length = min limit ranked.length := by
  have everybody : cutThenSelect selected limit ranked = ranked.take limit :=
    List.filter_eq_self.mpr fun candidate above => all candidate (List.mem_of_mem_take above)
  rw [everybody, List.length_take]

theorem cutThenSelect_sublist : (cutThenSelect selected limit ranked).Sublist ranked :=
  List.filter_sublist.trans (List.take_sublist limit ranked)

end Ranking

end RideHailing
