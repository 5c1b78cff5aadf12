import Mathlib.Data.List.Basic

/-!
# Quotas by key

Each key has room for a number of items.  An item passes while there is room left under its
key.  Lists have the newest item first.
-/

namespace RideHailing

variable {κ : Type}

namespace Quota

/-- There are few items, or all of them have the same key, or there is no room at all. -/
def FewOrAlike (limit : Nat) (keys : List κ) : Prop :=
  keys.length ≤ limit ∨ (∀ first ∈ keys, ∀ second ∈ keys, first = second) ∨ limit = 0

variable [DecidableEq κ]

/-- The items that pass, in the order of the list. -/
def passed (room : κ → Nat) : List κ → List κ
  | [] => []
  | key :: earlier =>
      if (passed room earlier).count key < room key then key :: passed room earlier
      else passed room earlier

variable {room : κ → Nat} {limit : Nat} {keys : List κ}

theorem passed_sublist (room : κ → Nat) (keys : List κ) :
    (passed room keys).Sublist keys := by
  induction keys with
  | nil => exact List.Sublist.refl []
  | cons key earlier ih =>
      rw [passed]
      split
      · exact ih.cons_cons key
      · exact ih.cons key

theorem count_passed (room : κ → Nat) (keys : List κ) (key : κ) :
    (passed room keys).count key = min (keys.count key) (room key) := by
  induction keys with
  | nil => simp [passed]
  | cons newest earlier ih =>
      by_cases same : newest = key
      · subst same
        rw [passed, List.count_cons_self]
        split
        · rw [List.count_cons_self]
          omega
        · omega
      · rw [passed, List.count_cons_of_ne same]
        split
        · rw [List.count_cons_of_ne same, ih]
        · exact ih

theorem count_add_count_le_length {first second : κ} (differ : first ≠ second) (keys : List κ) :
    keys.count first + keys.count second ≤ keys.length := by
  induction keys with
  | nil => simp
  | cons key keys ih =>
      by_cases isFirst : key = first
      · subst isFirst
        rw [List.count_cons_self, List.count_cons_of_ne differ, List.length_cons]
        omega
      · rw [List.count_cons_of_ne isFirst, List.length_cons, List.count_cons]
        split <;> omega

theorem length_passed_le (small : ∀ key, room key ≤ limit) (fewOrAlike : FewOrAlike limit keys) :
    (passed room keys).length ≤ limit := by
  rcases fewOrAlike with few | alike | rfl
  · exact Nat.le_trans (passed_sublist room keys).length_le few
  · cases found : passed room keys with
    | nil => exact Nat.zero_le limit
    | cons key others =>
        have inside := (passed_sublist room keys).subset
        rw [found] at inside
        have only : ∀ other ∈ passed room keys, key = other := by
          intro other otherMem
          rw [found] at otherMem
          exact alike key (inside List.mem_cons_self) other (inside otherMem)
        have counted := count_passed room keys key
        rw [List.count_eq_length.mpr only, found] at counted
        have := small key
        omega
  · have none_passed : passed room keys = [] := by
      rw [List.eq_nil_iff_forall_not_mem]
      intro key keyMem
      have counted := count_passed room keys key
      have positive := List.count_pos_iff.mpr keyMem
      have := small key
      omega
    rw [none_passed]
    exact Nat.zero_le 0

/-- Where all keys have the same room, no more items pass than there is room under one key only
if there are few or all have the same key. -/
theorem fewOrAlike_of_length_passed_le (full : ∀ key ∈ keys, room key = limit)
    (short : (passed room keys).length ≤ limit) : FewOrAlike limit keys := by
  by_contra against
  simp only [FewOrAlike, not_or, not_forall, exists_prop, Nat.not_le] at against
  obtain ⟨many, ⟨first, firstMem, second, secondMem, differ⟩, positive⟩ := against
  by_cases crowded : ∃ key ∈ keys, limit ≤ keys.count key
  · -- One key fills its room, and some other key has one more item.
    obtain ⟨key, keyMem, above⟩ := crowded
    obtain ⟨other, otherMem, otherNe⟩ : ∃ other ∈ keys, key ≠ other := by
      by_cases isFirst : key = first
      · exact ⟨second, secondMem, isFirst ▸ differ⟩
      · exact ⟨first, firstMem, isFirst⟩
    have together := count_add_count_le_length otherNe (passed room keys)
    rw [count_passed, count_passed, full key keyMem, full other otherMem] at together
    have present := List.count_pos_iff.mpr otherMem
    omega
  · -- No key fills its room, and every item passes.
    have everything : (passed room keys).Perm keys := by
      rw [List.perm_iff_count]
      intro key
      rw [count_passed]
      by_cases keyMem : key ∈ keys
      · have below : ¬ limit ≤ keys.count key := fun above => crowded ⟨key, keyMem, above⟩
        rw [full key keyMem]
        omega
      · rw [List.count_eq_zero.mpr keyMem]
        exact Nat.zero_min _
    have := everything.length_eq
    omega

end Quota

end RideHailing
