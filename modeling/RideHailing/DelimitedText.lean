import Mathlib.Data.List.Basic

/-!
# Texts cut at a delimiter

A part of a text that does not contain the delimiter after it can be read off the text.
-/

namespace RideHailing

namespace DelimitedText

variable {α : Type} {delimiter : α} {part part' rest rest' : List α}

/-- The part before the first delimiter of a prefix is the one of the whole text. -/
theorem prefix_of_delimited (free : delimiter ∉ part) (free' : delimiter ∉ part')
    (isPrefix : part ++ delimiter :: rest <+: part' ++ delimiter :: rest') :
    part = part' ∧ rest <+: rest' := by
  induction part generalizing part' with
  | nil =>
      cases part' with
      | nil =>
          rw [List.nil_append, List.nil_append, List.cons_prefix_cons] at isPrefix
          exact ⟨rfl, isPrefix.2⟩
      | cons first part' =>
          rw [List.nil_append, List.cons_append, List.cons_prefix_cons] at isPrefix
          rw [isPrefix.1] at free'
          exact absurd List.mem_cons_self free'
  | cons first part ih =>
      cases part' with
      | nil =>
          rw [List.nil_append, List.cons_append, List.cons_prefix_cons] at isPrefix
          rw [isPrefix.1] at free
          exact absurd List.mem_cons_self free
      | cons first' part' =>
          rw [List.cons_append, List.cons_append, List.cons_prefix_cons] at isPrefix
          obtain ⟨rfl, others⟩ := isPrefix
          obtain ⟨rfl, remaining⟩ :=
            ih (fun inside => free (List.mem_cons_of_mem first inside))
              (fun inside => free' (List.mem_cons_of_mem first inside)) others
          exact ⟨rfl, remaining⟩

theorem eq_of_delimited (free : delimiter ∉ part) (free' : delimiter ∉ part')
    (same : part ++ delimiter :: rest = part' ++ delimiter :: rest') :
    part = part' ∧ rest = rest' := by
  have forth : part ++ delimiter :: rest <+: part' ++ delimiter :: rest' :=
    same ▸ List.prefix_rfl
  have back : part' ++ delimiter :: rest' <+: part ++ delimiter :: rest :=
    same ▸ List.prefix_rfl
  obtain ⟨partEq, before⟩ := prefix_of_delimited free free' forth
  obtain ⟨_, after⟩ := prefix_of_delimited free' free back
  exact ⟨partEq, before.eq_of_length (Nat.le_antisymm before.length_le after.length_le)⟩

end DelimitedText

end RideHailing
