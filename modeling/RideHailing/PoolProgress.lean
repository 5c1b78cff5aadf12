import RideHailing.CallMonitors
import Mathlib.Logic.Hydra

/-!
# Tasks that come to their ends

Every call brings a program closer to its end, whatever the reply.  A pool of tasks can
therefore not go on for ever without new tasks; and if in each configuration with an
unfinished task some task can make its next call, every way of going on ends with all
tasks finished.
-/

namespace RideHailing

/-! ## Runs that cannot go on for ever -/

section Runs

variable {σ ε : Type} {step : σ → ε → Option σ} {property done : σ → Prop}
variable {allowed : ε → Prop} {smaller : σ → σ → Prop}

/-- If each state that is not done has a further step of this kind to a smaller state,
some run of such steps gets done. -/
theorem runSteps_completes (founded : WellFounded smaller)
    (progress : ∀ state, property state → done state ∨ ∃ event next, allowed event ∧
      step state event = some next ∧ property next ∧ smaller next state)
    {state : σ} (start : property state) :
    ∃ events final, (∀ event ∈ events, allowed event) ∧
      runSteps step state events = some final ∧ property final ∧ done final := by
  induction state using founded.induction with
  | h state ih =>
      rcases progress state start with finished | ⟨event, next, permitted, moved, kept, less⟩
      · exact ⟨[], state, by simp, rfl, start, finished⟩
      · obtain ⟨events, final, permittedRest, ran, keptFinal, finished⟩ := ih next less kept
        refine ⟨event :: events, final, ?_, ?_, keptFinal, finished⟩
        · simpa [permitted] using permittedRest
        · rw [runSteps_cons, moved]
          exact ran

/-- A value that every moment keeps or makes smaller is not made smaller again and again. -/
theorem not_smaller_recurrently {β : Type} {smaller : β → β → Prop}
    (founded : WellFounded smaller) {values : Nat → β}
    (moves : ∀ time, values (time + 1) = values time ∨
      smaller (values (time + 1)) (values time))
    (recurs : ∀ time, ∃ later, time ≤ later ∧ smaller (values (later + 1)) (values later)) :
    False := by
  suffices never : ∀ value time, values time = value → False from never _ 0 rfl
  intro value
  induction value using founded.induction with
  | h value ih =>
      intro time here
      -- Up to the next moment that makes it smaller the value is kept.
      have reaches : ∀ span, smaller (values (time + span + 1)) (values (time + span)) →
          ∃ later, smaller (values later) value := by
        intro span
        induction span generalizing time with
        | zero =>
            intro less
            exact ⟨time + 1, here ▸ less⟩
        | succ span ihSpan =>
            intro less
            rcases moves time with kept | lessNow
            · apply ihSpan (time + 1) (kept.trans here)
              rwa [Nat.add_right_comm time 1 span]
            · exact ⟨time + 1, here ▸ lessNow⟩
      obtain ⟨later, after, less⟩ := recurs time
      obtain ⟨span, rfl⟩ := Nat.exists_eq_add_of_le after
      obtain ⟨last, lessThan⟩ := reaches span less
      exact ih (values last) lessThan last rfl

end Runs

/-! ## What is left to do -/

section Remaining

variable {Call : Type} {Value : Call → Type}
variable {Fault State Request Outcome Token Ambient α : Type}

/-- What a reply leaves of a program that awaits a call. -/
inductive AwaitProgram.Resumes {Reply : Call → Type} :
    AwaitProgram Call Reply α → AwaitProgram Call Reply α → Prop where
  | reply (call : Call) (resume : Reply call → AwaitProgram Call Reply α)
      (given : Reply call) : Resumes (resume given) (.await call resume)

theorem AwaitProgram.wellFounded_resumes {Reply : Call → Type} :
    WellFounded (AwaitProgram.Resumes : AwaitProgram Call Reply α →
      AwaitProgram Call Reply α → Prop) := by
  constructor
  intro program
  induction program with
  | done result =>
      constructor
      intro rest resumes
      cases resumes
  | await call resume ih =>
      constructor
      intro rest resumes
      cases resumes with
      | reply _ _ given => exact ih given

/-- The programs that the tasks of a pool still have to run. -/
def Pool.remaining (pool : Pool Value Fault State Request Outcome) :
    Multiset (AwaitProgram Call (fun call => Except Fault (Value call)) Outcome) :=
  pool.tasks.map Task.rest

/-- One task has made a call. -/
def Pool.Less (after before : Pool Value Fault State Request Outcome) : Prop :=
  Relation.CutExpand AwaitProgram.Resumes after.remaining before.remaining

theorem Pool.wellFounded_less :
    WellFounded (Pool.Less : Pool Value Fault State Request Outcome →
      Pool Value Fault State Request Outcome → Prop) :=
  InvImage.wf Pool.remaining AwaitProgram.wellFounded_resumes.cutExpand

theorem coe_set_add_singleton {β : Type} {items : List β} {index : Nat} {old new : β}
    (found : items[index]? = some old) :
    ((items.set index new : List β) : Multiset β) + {old} = items + {new} := by
  induction items generalizing index with
  | nil => simp at found
  | cons item items ih =>
      cases index with
      | zero =>
          obtain rfl : item = old := by simpa using found
          rw [List.set_cons_zero, ← Multiset.cons_coe, ← Multiset.cons_coe,
            Multiset.cons_add, Multiset.cons_add, ← Multiset.cons_zero, ← Multiset.cons_zero,
            Multiset.add_cons, Multiset.add_cons, Multiset.cons_swap]
      | succ index =>
          rw [List.set_cons_succ, ← Multiset.cons_coe, ← Multiset.cons_coe,
            Multiset.cons_add, Multiset.cons_add, ih (by simpa using found)]

/-- A call brings the pool closer to its end. -/
theorem Machine.less_of_advance
    {m : Machine Value Fault State Request Outcome Token Ambient}
    {pool pool' : Pool Value Fault State Request Outcome} {pid : Nat} {broken : Option Fault}
    (advanced : m.advance pool pid broken = some pool') : pool'.Less pool := by
  obtain ⟨request, call, resume, reply, state, found, _, rfl⟩ := m.advance_eq_some advanced
  refine ⟨{resume reply}, .await call resume, ?_, ?_⟩
  · intro rest restMem
    rw [Multiset.mem_singleton.mp restMem]
    exact @AwaitProgram.Resumes.reply Call Outcome (fun call => Except Fault (Value call)) call
      resume reply
  · have rests : (pool.tasks.map Task.rest)[pid]? = some (.await call resume) := by
      rw [List.getElem?_map, found]
      rfl
    simp only [Pool.remaining, List.map_set]
    exact coe_set_add_singleton rests

end Remaining

/-! ## Coarser monitors -/

section Coarser

variable {Call : Type} {Value : Call → Type} {Fault Note View Outcome : Type}

/-- A monitor that keeps a view of another one's notes, and allows no less as long as
they keep an invariant, watches the same programs. -/
theorem CallMonitor.Watches.coarsen {fine : CallMonitor Value Fault Note}
    {coarse : CallMonitor Value Fault View} (view : Note → View) (invariant : Note → Prop)
    (kept : ∀ note call reply, invariant note → invariant (fine.after note call reply))
    (allowed : ∀ note call, invariant note → fine.allows note call →
      coarse.allows (view note) call)
    (answered : ∀ call reply, coarse.answers call reply → fine.answers call reply)
    (noted : ∀ note call reply,
      view (fine.after note call reply) = coarse.after (view note) call reply)
    {program : AwaitProgram Call (fun call => Except Fault (Value call)) Outcome}
    {post : Outcome → Note → Prop} {postView : Outcome → View → Prop} {note : Note}
    (ends : ∀ result last, post result last → postView result (view last))
    (holds : invariant note) (watches : fine.Watches program post note) :
    coarse.Watches program postView (view note) := by
  induction program generalizing note with
  | done result => exact ends result note watches
  | await call resume ih =>
      refine ⟨allowed note call holds watches.1, fun reply replied => ?_⟩
      rw [← noted]
      exact ih reply (kept note call reply holds) (watches.2 reply (answered call reply replied))

end Coarser

end RideHailing
