import Mathlib.Data.List.Perm.Basic

/-!
# Looking things up in a history

A history is a list of entries, the newest first.  Entries that change a record
determine its current value.  A marked entry is one at which the record was
read; what it saw is the value of the history before it.  A value that was seen
is still current as long as no entry since then changed the record.
-/

namespace RideHailing

variable {ε ρ β : Type}

/-- The newest change of a record, or the value it began with. -/
def latest (change : ε → Option ρ) (base : Option ρ) : List ε → Option ρ
  | [] => base
  | entry :: older =>
      match change entry with
      | some record => some record
      | none => latest change base older

@[simp]
theorem latest_nil (change : ε → Option ρ) (base : Option ρ) :
    latest change base [] = base :=
  rfl

theorem latest_cons_some {change : ε → Option ρ} {base : Option ρ} {entry : ε}
    {older : List ε} {record : ρ} (changed : change entry = some record) :
    latest change base (entry :: older) = some record := by
  rw [latest, changed]

theorem latest_cons_none {change : ε → Option ρ} {base : Option ρ} {entry : ε}
    {older : List ε} (unchanged : change entry = none) :
    latest change base (entry :: older) = latest change base older := by
  rw [latest, unchanged]

theorem latest_append_of_unchanged {change : ε → Option ρ} {base : Option ρ}
    {newer older : List ε} (unchanged : ∀ entry ∈ newer, change entry = none) :
    latest change base (newer ++ older) = latest change base older := by
  induction newer with
  | nil => rfl
  | cons entry newer ih =>
      rw [List.cons_append, latest_cons_none (unchanged entry (by simp))]
      exact ih fun other otherMem => unchanged other (by simp [otherMem])

/-- A record that exists goes on existing. -/
theorem latest_cons_ne_none {change : ε → Option ρ} {base : Option ρ}
    {entry : ε} {older : List ε} (present : latest change base older ≠ none) :
    latest change base (entry :: older) ≠ none := by
  cases changed : change entry with
  | some record =>
      rw [latest_cons_some changed]
      exact Option.some_ne_none record
  | none =>
      rw [latest_cons_none changed]
      exact present

/-- The record had this value at some time. -/
def Ever (change : ε → Option ρ) (base : Option ρ) (entries : List ε)
    (record : ρ) : Prop :=
  base = some record ∨ ∃ entry ∈ entries, change entry = some record

theorem Ever.cons {change : ε → Option ρ} {base : Option ρ} {entry : ε}
    {older : List ε} {record : ρ} (ever : Ever change base older record) :
    Ever change base (entry :: older) record := by
  rcases ever with fromBase | ⟨source, sourceMem, changed⟩
  · exact Or.inl fromBase
  · exact Or.inr ⟨source, List.mem_cons_of_mem entry sourceMem, changed⟩

theorem ever_cons {change : ε → Option ρ} {base : Option ρ} {entry : ε}
    {older : List ε} {record : ρ} :
    Ever change base (entry :: older) record ↔
      change entry = some record ∨ Ever change base older record := by
  simp only [Ever, List.mem_cons, exists_eq_or_imp]
  exact or_left_comm

theorem Ever.append {change : ε → Option ρ} {base : Option ρ}
    {newer older : List ε} {record : ρ} (ever : Ever change base older record) :
    Ever change base (newer ++ older) record := by
  induction newer with
  | nil => exact ever
  | cons entry newer ih => exact ih.cons

/-- A record that once had a value still has one. -/
theorem Ever.latest_ne_none {change : ε → Option ρ} {base : Option ρ}
    {entries : List ε} {record : ρ} (ever : Ever change base entries record) :
    latest change base entries ≠ none := by
  induction entries with
  | nil =>
      rcases ever with fromBase | ⟨source, sourceMem, _⟩
      · simp [fromBase]
      · cases sourceMem
  | cons entry older ih =>
      rcases ever_cons.mp ever with changed | before
      · simp [latest_cons_some changed]
      · exact latest_cons_ne_none (ih before)

/-- What is stored was stored where the newer part begins, or was written in it. -/
theorem ever_of_latest_append {change : ε → Option ρ} {base : Option ρ}
    {newer older : List ε} {record : ρ}
    (found : latest change base (newer ++ older) = some record) :
    Ever change (latest change base older) newer record := by
  induction newer with
  | nil => exact Or.inl found
  | cons entry newer ih =>
      rw [List.cons_append] at found
      cases changed : change entry with
      | some other =>
          rw [latest_cons_some changed] at found
          exact ever_cons.mpr (Or.inl (changed.trans found))
      | none =>
          rw [latest_cons_none changed] at found
          exact (ih found).cons

theorem ever_of_latest {change : ε → Option ρ} {base : Option ρ}
    {entries : List ε} {record : ρ}
    (found : latest change base entries = some record) :
    Ever change base entries record := by
  rw [← List.append_nil entries] at found
  exact ever_of_latest_append found

/-- A record that was stored is still stored. -/
theorem latest_append_ne_none {change : ε → Option ρ} {base : Option ρ}
    {newer older : List ε} (stored : latest change base older ≠ none) :
    latest change base (newer ++ older) ≠ none := by
  obtain ⟨record, found⟩ := Option.ne_none_iff_exists'.mp stored
  exact (ever_of_latest found).append.latest_ne_none

/-- A record that has changed was last changed by some entry. -/
theorem exists_last_change {change : ε → Option ρ} {entries : List ε}
    (changed : ∃ entry ∈ entries, change entry ≠ none) :
    ∃ newer last older record, entries = newer ++ last :: older ∧
      change last = some record ∧ ∀ entry ∈ newer, change entry = none := by
  induction entries with
  | nil =>
      obtain ⟨_, absurdMem, _⟩ := changed
      cases absurdMem
  | cons entry rest ih =>
      cases here : change entry with
      | some record => exact ⟨[], entry, rest, record, rfl, here, by simp⟩
      | none =>
          have inRest : ∃ other ∈ rest, change other ≠ none := by
            obtain ⟨other, otherMem, otherChanged⟩ := changed
            rcases List.mem_cons.mp otherMem with rfl | otherRest
            · exact absurd here otherChanged
            · exact ⟨other, otherRest, otherChanged⟩
          obtain ⟨newer, last, older, record, split, lastChange, quiet⟩ := ih inRest
          refine ⟨entry :: newer, last, older, record, by rw [split]; rfl, lastChange, ?_⟩
          intro other otherMem
          rcases List.mem_cons.mp otherMem with rfl | otherNewer
          · exact here
          · exact quiet other otherNewer

/-- What a view of the history showed before the newest marked entry. -/
def atLast (marks : ε → Bool) (view : List ε → Option ρ) : List ε → Option ρ
  | [] => none
  | entry :: older => if marks entry then view older else atLast marks view older

theorem atLast_cons (marks : ε → Bool) (view : List ε → Option ρ) (entry : ε)
    (older : List ε) :
    atLast marks view (entry :: older) =
      if marks entry then view older else atLast marks view older :=
  rfl

/-- The entries after the newest marked one. -/
def since (marks : ε → Bool) (entries : List ε) : List ε :=
  entries.takeWhile fun entry => !marks entry

theorem since_cons (marks : ε → Bool) (entry : ε) (older : List ε) :
    since marks (entry :: older) =
      if marks entry then [] else entry :: since marks older := by
  cases marked : marks entry <;> simp [since, marked]

/-- The newest marked entry stands right before those that came after it. -/
theorem exists_since_split {marks : ε → Bool} {entries : List ε}
    (marked : ∃ entry ∈ entries, marks entry = true) :
    ∃ mark older, entries = since marks entries ++ mark :: older ∧ marks mark = true := by
  induction entries with
  | nil =>
      obtain ⟨_, absurdMem, _⟩ := marked
      cases absurdMem
  | cons entry entries ih =>
      rw [since_cons]
      by_cases here : marks entry = true
      · rw [if_pos here]
        exact ⟨entry, entries, rfl, here⟩
      · rw [if_neg here]
        obtain ⟨other, otherMem, otherMarked⟩ := marked
        rcases List.mem_cons.mp otherMem with rfl | inside
        · exact absurd otherMarked here
        · obtain ⟨mark, older, split, marked⟩ := ih ⟨other, inside, otherMarked⟩
          exact ⟨mark, older, by rw [List.cons_append, ← split], marked⟩

/-- What was seen is a value of some earlier history. -/
theorem atLast_eq_some {marks : ε → Bool} {view : List ε → Option ρ}
    {entries : List ε} {record : ρ}
    (seen : atLast marks view entries = some record) :
    ∃ entry older, entries = since marks entries ++ entry :: older ∧
      marks entry = true ∧ view older = some record := by
  induction entries with
  | nil => cases seen
  | cons entry older ih =>
      rw [atLast_cons] at seen
      rw [since_cons]
      split at seen
      · rename_i marked
        rw [if_pos marked]
        exact ⟨entry, older, rfl, marked, seen⟩
      · rename_i unmarked
        obtain ⟨mark, before, olderEq, marked, viewed⟩ := ih seen
        rw [if_neg unmarked]
        exact ⟨mark, before, by rw [List.cons_append, ← olderEq], marked, viewed⟩

theorem ever_of_atLast {marks : ε → Bool} {change : ε → Option ρ}
    {base : Option ρ} {entries : List ε} {record : ρ}
    (seen : atLast marks (latest change base) entries = some record) :
    Ever change base entries record := by
  obtain ⟨mark, older, split, _, viewed⟩ := atLast_eq_some seen
  rw [split]
  exact (ever_of_latest viewed).cons.append

/-- What is marked in the newer part only was stored where that part begins, or was
written in it. -/
theorem ever_of_atLast_append {marks : ε → Bool} {change : ε → Option ρ}
    {base : Option ρ} {newer older : List ε} {record : ρ}
    (unmarked : ∀ entry ∈ older, marks entry = false)
    (seen : atLast marks (latest change base) (newer ++ older) = some record) :
    Ever change (latest change base older) newer record := by
  induction newer with
  | nil =>
      obtain ⟨mark, before, split, marked, _⟩ := atLast_eq_some seen
      have markMem : mark ∈ older := by
        change older = _ at split
        rw [split]
        simp
      rw [unmarked mark markMem] at marked
      cases marked
  | cons entry newer ih =>
      rw [List.cons_append, atLast_cons] at seen
      split at seen
      · exact (ever_of_latest_append seen).cons
      · exact (ih seen).cons

/-- What was seen is still current when nothing changed it since. -/
theorem latest_eq_of_since_unchanged {marks : ε → Bool} {change : ε → Option ρ}
    {base : Option ρ} {entries : List ε} {record : ρ}
    (seen : atLast marks (latest change base) entries = some record)
    (unmarked : ∀ entry, marks entry = true → change entry = none)
    (undisturbed : ∀ entry ∈ since marks entries, change entry = none) :
    latest change base entries = some record := by
  obtain ⟨mark, older, split, marked, viewed⟩ := atLast_eq_some seen
  rw [split, latest_append_of_unchanged undisturbed,
    latest_cons_none (unmarked mark marked), viewed]

/-- Two kinds of entries that occur at most once for each key, and for the same
keys, occur equally often. -/
theorem countP_eq_of_same_keys {κ : Type} {entries : List ε}
    {first second : ε → Bool} {key : ε → κ}
    (firstOnce : ((entries.filter first).map key).Nodup)
    (secondOnce : ((entries.filter second).map key).Nodup)
    (sameKeys : ∀ sought, (∃ entry ∈ entries, first entry = true ∧ key entry = sought) ↔
      ∃ entry ∈ entries, second entry = true ∧ key entry = sought) :
    entries.countP first = entries.countP second := by
  have perm : ((entries.filter first).map key).Perm
      ((entries.filter second).map key) := by
    rw [List.perm_ext_iff_of_nodup firstOnce secondOnce]
    intro sought
    simpa [and_assoc] using sameKeys sought
  have lengths := perm.length_eq
  rwa [List.length_map, List.length_map, ← List.countP_eq_length_filter,
    ← List.countP_eq_length_filter] at lengths

/-! ## Lawful histories -/

/-- Every entry is allowed by the law, given the history before it. -/
def Lawful (law : ε → List ε → Prop) : List ε → Prop
  | [] => True
  | entry :: older => law entry older ∧ Lawful law older

variable {law : ε → List ε → Prop}

theorem Lawful.of_append {newer older : List ε}
    (lawful : Lawful law (newer ++ older)) : Lawful law older := by
  induction newer with
  | nil => exact lawful
  | cons entry newer ih => exact ih lawful.2

/-- The law holds of every entry inside a lawful history. -/
theorem Lawful.entry {newer older : List ε} {entry : ε}
    (lawful : Lawful law (newer ++ entry :: older)) : law entry older :=
  lawful.of_append.1

instance decidableLawful [∀ entry older, Decidable (law entry older)] :
    (entries : List ε) → Decidable (Lawful law entries)
  | [] => inferInstanceAs (Decidable True)
  | entry :: older =>
      have := decidableLawful older
      inferInstanceAs (Decidable (law entry older ∧ Lawful law older))

theorem Lawful.mono {stronger : ε → List ε → Prop}
    {entries : List ε} (lawful : Lawful stronger entries)
    (implies : ∀ newer entry older, entries = newer ++ entry :: older →
      stronger entry older → law entry older) : Lawful law entries := by
  induction entries with
  | nil => trivial
  | cons entry older ih =>
      refine ⟨implies [] entry older rfl lawful.1, ih lawful.2 ?_⟩
      intro newer other oldest split
      exact implies (entry :: newer) other oldest (by rw [split]; rfl)

/-- Of two different entries, one is the newer. -/
theorem exists_split_of_mem {entries : List ε} {first second : ε}
    (firstMem : first ∈ entries) (secondMem : second ∈ entries)
    (different : first ≠ second) :
    (∃ newer between older,
        entries = newer ++ first :: (between ++ second :: older)) ∨
      ∃ newer between older,
        entries = newer ++ second :: (between ++ first :: older) := by
  induction entries with
  | nil => cases firstMem
  | cons entry rest ih =>
      rcases List.mem_cons.mp firstMem with rfl | firstRest
      · rcases List.mem_cons.mp secondMem with same | secondRest
        · exact absurd same.symm different
        · obtain ⟨between, older, rfl⟩ := List.append_of_mem secondRest
          exact Or.inl ⟨[], between, older, rfl⟩
      · rcases List.mem_cons.mp secondMem with rfl | secondRest
        · obtain ⟨between, older, rfl⟩ := List.append_of_mem firstRest
          exact Or.inr ⟨[], between, older, rfl⟩
        · rcases ih firstRest secondRest with split | split
          · obtain ⟨newer, between, older, rfl⟩ := split
            exact Or.inl ⟨entry :: newer, between, older, rfl⟩
          · obtain ⟨newer, between, older, rfl⟩ := split
            exact Or.inr ⟨entry :: newer, between, older, rfl⟩

/-- What lies behind a new entry contains the whole old history. -/
theorem older_of_append_eq {newer older news old : List ε} {entry : ε}
    (split : newer ++ entry :: older = news ++ old) (new : entry ∉ old) :
    ∃ middle, older = middle ++ old := by
  induction newer generalizing news with
  | nil =>
      cases news with
      | nil =>
          simp only [List.nil_append] at split
          exact absurd (split ▸ List.mem_cons_self) new
      | cons newest news =>
          simp only [List.nil_append, List.cons_append, List.cons.injEq] at split
          exact ⟨news, split.2⟩
  | cons newest newer ih =>
      cases news with
      | nil =>
          rw [List.nil_append] at split
          exact absurd (split ▸ by simp) new
      | cons other news =>
          simp only [List.cons_append, List.cons.injEq] at split
          exact ih split.2

/-- A field that no lawful change alters has one value for all time. -/
theorem Ever.agree {γ : Type} {change : ε → Option ρ} {base : Option ρ}
    {field : ρ → γ}
    (changes : ∀ entry older record, law entry older → Lawful law older →
      change entry = some record →
        latest change base older = none ∨
          ∃ earlier, Ever change base older earlier ∧ field record = field earlier)
    {entries : List ε} (lawful : Lawful law entries) {first second : ρ}
    (everFirst : Ever change base entries first)
    (everSecond : Ever change base entries second) :
    field first = field second := by
  induction entries generalizing first second with
  | nil =>
      rcases everFirst with firstBase | ⟨_, absurdMem, _⟩
      · rcases everSecond with secondBase | ⟨_, absurdMem, _⟩
        · rw [Option.some.inj (firstBase.symm.trans secondBase)]
        · cases absurdMem
      · cases absurdMem
  | cons entry older ih =>
      have newAgrees : ∀ {record earlier : ρ}, change entry = some record →
          Ever change base older earlier → field record = field earlier := by
        intro record earlier changed everEarlier
        rcases changes entry older record lawful.1 lawful.2 changed with
          absent | ⟨source, everSource, same⟩
        · exact absurd absent everEarlier.latest_ne_none
        · rw [same]
          exact ih lawful.2 everSource everEarlier
      rcases ever_cons.mp everFirst with firstNew | firstOld
      · rcases ever_cons.mp everSecond with secondNew | secondOld
        · rw [Option.some.inj (firstNew.symm.trans secondNew)]
        · exact newAgrees firstNew secondOld
      · rcases ever_cons.mp everSecond with secondNew | secondOld
        · exact (newAgrees secondNew firstOld).symm
        · exact ih lawful.2 firstOld secondOld

end RideHailing
