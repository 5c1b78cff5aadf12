import RideHailing.CallMonitors
import Mathlib.Data.List.Forall2

/-!
# A machine inside a larger one

A host serves the requests of a guest machine and errands of its own.  Its programs
may make the guest's calls and further ones.  If the host answers the guest's calls
as the guest would, and if the errands only make calls that leave the guest's part
of the state alone, then every run of the host is a run of the guest, in which
nothing stands for the errands.  What holds of all runs of the guest therefore holds
inside the host.
-/

namespace RideHailing

variable {Call Extra : Type} {Value : Call → Type} {ExtraValue : Extra → Type}
variable {Fault State HostState Request Errand Outcome Token Ambient HostAmbient : Type}

/-- What a call of either kind returns. -/
abbrev EitherValue (Value : Call → Type) (ExtraValue : Extra → Type) :
    Call ⊕ Extra → Type
  | .inl call => Value call
  | .inr extra => ExtraValue extra

namespace AwaitProgram

variable {α : Type}

/-- The guest's program among the calls of the host. -/
def hosted : AwaitProgram Call (fun call => Except Fault (Value call)) α →
    AwaitProgram (Call ⊕ Extra)
      (fun call => Except Fault (EitherValue Value ExtraValue call)) α
  | .done result => .done result
  | .await call resume => .await (.inl call) fun reply => (resume reply).hosted

theorem Only.hosted {allowed : Call ⊕ Extra → Prop}
    {program : AwaitProgram Call (fun call => Except Fault (Value call)) α}
    (only : program.Only fun call => allowed (.inl call)) :
    (program.hosted : AwaitProgram (Call ⊕ Extra)
      (fun call => Except Fault (EitherValue Value ExtraValue call)) α).Only allowed := by
  induction program with
  | done result => trivial
  | await call resume ih => exact ⟨only.1, fun reply => ih reply (only.2 reply)⟩

end AwaitProgram

/-- What a monitor of the host says about the guest's calls. -/
def CallMonitor.guest {Note : Type} (w : CallMonitor (EitherValue Value ExtraValue) Fault Note) :
    CallMonitor Value Fault Note where
  start := w.start
  allows note call := w.allows note (.inl call)
  answers call reply := w.answers (.inl call) reply
  after note call reply := w.after note (.inl call) reply

/-- The guest's program is watched in the host as it is in the guest. -/
theorem CallMonitor.watches_hosted {α Note : Type}
    {w : CallMonitor (EitherValue Value ExtraValue) Fault Note}
    {program : AwaitProgram Call (fun call => Except Fault (Value call)) α}
    {post : α → Note → Prop} {note : Note} (watches : w.guest.Watches program post note) :
    w.Watches program.hosted post note := by
  induction program generalizing note with
  | done result => exact watches
  | await call resume ih =>
      exact ⟨watches.1, fun reply answered => ih reply (watches.2 reply answered)⟩

/-- How a host serves the requests of a guest. -/
structure Hosting (guest : Machine Value Fault State Request Outcome Token Ambient)
    (host : Machine (EitherValue Value ExtraValue) Fault HostState (Request ⊕ Errand)
      Outcome Token HostAmbient) where
  shares : HostState → State → Prop
  harmless : Call ⊕ Extra → Prop
  idle : Request
  idles : ∃ outcome, guest.program idle = .done outcome
  idle_draws : guest.draws idle = []
  programs : ∀ request, host.program (.inl request) = (guest.program request).hosted
  errands : ∀ errand, (host.program (.inr errand)).Only harmless
  draws : ∀ request, host.draws (.inl request) = guest.draws request
  unused : ∀ {token : Token} {hostState : HostState} {state : State},
    shares hostState state → host.unused token hostState = true →
      guest.unused token state = true
  answers : ∀ {pid : Nat} {broken : Option Fault} {call : Call}
    {hostState hostAfter : HostState} {state : State} {reply : Except Fault (Value call)},
    shares hostState state →
      host.answer pid broken (.inl call) hostState = some (reply, hostAfter) →
        ∃ after, guest.answer pid broken call state = some (reply, after) ∧
          shares hostAfter after
  harmless_answers : ∀ {pid : Nat} {broken : Option Fault} {call : Call ⊕ Extra}
    {hostState hostAfter : HostState} {state : State}
    {reply : Except Fault (EitherValue Value ExtraValue call)},
    shares hostState state → harmless call →
      host.answer pid broken call hostState = some (reply, hostAfter) →
        shares hostAfter state
  ambient : HostAmbient → Ambient
  shares_ambient : ∀ {change : HostAmbient} {hostState : HostState} {state : State},
    shares hostState state →
      shares (host.ambient change hostState) (guest.ambient (ambient change) state)

/-- The guest's entry behind an entry of the host. -/
def Entry.guest? :
    Entry (EitherValue Value ExtraValue) Fault (Request ⊕ Errand) →
      Option (Entry Value Fault Request)
  | ⟨pid, .inl request, .inl call, reply⟩ => some ⟨pid, request, call, reply⟩
  | _ => none

namespace Hosting

variable {guest : Machine Value Fault State Request Outcome Token Ambient}
variable {host : Machine (EitherValue Value ExtraValue) Fault HostState (Request ⊕ Errand)
  Outcome Token HostAmbient}
variable (H : Hosting guest host)

/-- A task of the host and the task that stands for it in the guest. -/
inductive TaskMirrors :
    Task (EitherValue Value ExtraValue) Fault (Request ⊕ Errand) Outcome →
      Task Value Fault Request Outcome → Prop
  | request (request : Request)
      (rest : AwaitProgram Call (fun call => Except Fault (Value call)) Outcome) :
      TaskMirrors ⟨.inl request, rest.hosted⟩ ⟨request, rest⟩
  | errand {errand : Errand} {outcome : Outcome}
      {rest : AwaitProgram (Call ⊕ Extra)
        (fun call => Except Fault (EitherValue Value ExtraValue call)) Outcome}
      (only : rest.Only H.harmless) :
      TaskMirrors ⟨.inr errand, rest⟩ ⟨H.idle, .done outcome⟩

/-- The guest's pool inside a pool of the host. -/
structure Mirrors
    (hostPool : Pool (EitherValue Value ExtraValue) Fault HostState (Request ⊕ Errand)
      Outcome)
    (pool : Pool Value Fault State Request Outcome) : Prop where
  shares : H.shares hostPool.world.state pool.world.state
  tasks : List.Forall₂ H.TaskMirrors hostPool.tasks pool.tasks
  log : pool.world.log = hostPool.world.log.filterMap Entry.guest?

variable {H}
variable {hostPool hostNext : Pool (EitherValue Value ExtraValue) Fault HostState
  (Request ⊕ Errand) Outcome}
variable {pool : Pool Value Fault State Request Outcome}

theorem forall₂_set {α β : Type} {relation : α → β → Prop} {left : List α} {right : List β}
    (related : List.Forall₂ relation left right) (index : Nat) {one : α} {other : β}
    (new : relation one other) :
    List.Forall₂ relation (left.set index one) (right.set index other) := by
  induction related generalizing index with
  | nil => exact List.Forall₂.nil
  | cons first rest ih =>
      cases index with
      | zero => exact List.Forall₂.cons new rest
      | succ index => exact List.Forall₂.cons first (ih index)

theorem forall₂_set_left {α β : Type} {relation : α → β → Prop} {left : List α}
    {right : List β} (related : List.Forall₂ relation left right) {index : Nat} {one : α}
    {other : β} (found : right[index]? = some other) (new : relation one other) :
    List.Forall₂ relation (left.set index one) right := by
  obtain ⟨bound, rfl⟩ := List.getElem?_eq_some_iff.mp found
  have both := forall₂_set related index new
  rwa [List.set_getElem_self bound] at both

theorem getElem?_of_forall₂ {α β : Type} {relation : α → β → Prop} {left : List α}
    {right : List β} (related : List.Forall₂ relation left right) {index : Nat} {one : α}
    (found : left[index]? = some one) :
    ∃ other, right[index]? = some other ∧ relation one other := by
  induction related generalizing index with
  | nil => simp at found
  | cons first rest ih =>
      cases index with
      | zero =>
          cases found
          exact ⟨_, rfl, first⟩
      | succ index => exact ih (by simpa using found)

/-- A call of one of the host's tasks is a call of the guest's task, or one that
does not concern the guest. -/
theorem Mirrors.advance {pid : Nat} {broken : Option Fault}
    (mirrors : H.Mirrors hostPool pool)
    (advanced : host.advance hostPool pid broken = some hostNext) :
    H.Mirrors hostNext pool ∨
      ∃ next, guest.advance pool pid broken = some next ∧ H.Mirrors hostNext next := by
  obtain ⟨hostRequest, hostCall, hostResume, hostReply, hostState, found, answered, rfl⟩ :=
    host.advance_eq_some advanced
  obtain ⟨task, foundGuest, mirror⟩ := getElem?_of_forall₂ mirrors.tasks found
  generalize taskEq :
    (⟨hostRequest, .await hostCall hostResume⟩ :
      Task (EitherValue Value ExtraValue) Fault (Request ⊕ Errand) Outcome) = hostTask
    at mirror
  cases mirror with
  | request request rest =>
      -- The host's task is at a call because the guest's task is.
      cases rest with
      | done outcome => cases taskEq
      | await call resume =>
          cases taskEq
          obtain ⟨state, answeredGuest, shares⟩ := H.answers mirrors.shares answered
          apply Or.inr
          refine ⟨⟨⟨state, ⟨pid, request, call, hostReply⟩ :: pool.world.log⟩,
            pool.tasks.set pid ⟨request, resume hostReply⟩⟩, ?_, shares, ?_, ?_⟩
          · simp only [Machine.advance, foundGuest, answeredGuest]
          · exact forall₂_set mirrors.tasks pid (TaskMirrors.request request _)
          · rw [mirrors.log]
            rfl
  | errand only =>
      cases taskEq
      have shares := H.harmless_answers mirrors.shares only.1 answered
      apply Or.inl
      refine ⟨shares, ?_, ?_⟩
      · exact forall₂_set_left mirrors.tasks foundGuest
          (TaskMirrors.errand (only.2 hostReply))
      · rw [mirrors.log]
        cases hostCall <;> rfl

theorem Mirrors.requests (mirrors : H.Mirrors hostPool pool) {request : Request}
    (requestMem : request ∈ pool.requests) :
    request = H.idle ∨ .inl request ∈ hostPool.requests := by
  obtain ⟨task, taskMem, rfl⟩ := List.mem_map.mp requestMem
  obtain ⟨index, found⟩ := List.getElem?_of_mem taskMem
  obtain ⟨hostTask, foundHost, mirror⟩ := getElem?_of_forall₂ mirrors.tasks.flip found
  have hostMem : hostTask.request ∈ hostPool.requests :=
    List.mem_map_of_mem (List.mem_of_getElem? foundHost)
  generalize taskEq : task = guestTask at mirror
  cases mirror with
  | request request rest =>
      cases taskEq
      exact Or.inr hostMem
  | errand _ =>
      cases taskEq
      exact Or.inl rfl

variable [DecidableEq Token]

theorem Mirrors.admits (mirrors : H.Mirrors hostPool pool) {request : Request}
    (admitted : host.admits hostPool (.inl request) = true) :
    guest.admits pool request = true := by
  simp only [Machine.admits, List.all_eq_true, Bool.and_eq_true, decide_eq_true_eq,
    H.draws] at admitted ⊢
  intro token drawn
  obtain ⟨unused, apart⟩ := admitted token drawn
  refine ⟨H.unused mirrors.shares unused, ?_⟩
  intro earlier earlierMem
  rcases mirrors.requests earlierMem with rfl | hostMem
  · simp [H.idle_draws]
  · have apartHost := apart _ hostMem
    rwa [H.draws] at apartHost

/-- One event of the host is at most one event of the guest. -/
theorem Mirrors.next {event : Event Fault (Request ⊕ Errand) HostAmbient}
    (mirrors : H.Mirrors hostPool pool) (moved : host.next hostPool event = some hostNext) :
    ∃ events next, guest.run pool events = some next ∧ H.Mirrors hostNext next := by
  have single : ∀ {event : Event Fault Request Ambient}
      {next : Pool Value Fault State Request Outcome}, guest.next pool event = some next →
        guest.run pool [event] = some next := by
    intro event next movedGuest
    rw [Machine.run, runSteps_cons, movedGuest]
    rfl
  cases event with
  | spawn request =>
      simp only [Machine.next] at moved
      split at moved
      · rename_i admitted
        cases moved
        cases request with
        | inl request =>
            have admittedGuest := mirrors.admits admitted
            refine ⟨[.spawn request], _, single (if_pos admittedGuest), mirrors.shares, ?_,
              mirrors.log⟩
            apply List.rel_append mirrors.tasks
            rw [H.programs]
            exact List.Forall₂.cons (TaskMirrors.request _ _) List.Forall₂.nil
        | inr errand =>
            have admittedGuest : guest.admits pool H.idle = true := by
              simp [Machine.admits, H.idle_draws]
            refine ⟨[.spawn H.idle], _, single (if_pos admittedGuest), mirrors.shares, ?_,
              mirrors.log⟩
            apply List.rel_append mirrors.tasks
            obtain ⟨outcome, idles⟩ := H.idles
            rw [idles]
            exact List.Forall₂.cons (TaskMirrors.errand (H.errands errand)) List.Forall₂.nil
      · cases moved
  | step pid =>
      rcases mirrors.advance moved with same | ⟨next, advanced, mirrorsNext⟩
      · exact ⟨[], pool, rfl, same⟩
      · exact ⟨[.step pid], next, single advanced, mirrorsNext⟩
  | fault pid fault =>
      rcases mirrors.advance moved with same | ⟨next, advanced, mirrorsNext⟩
      · exact ⟨[], pool, rfl, same⟩
      · exact ⟨[.fault pid fault], next, single advanced, mirrorsNext⟩
  | ambient change =>
      cases moved
      exact ⟨[.ambient (H.ambient change)], _, single rfl, H.shares_ambient mirrors.shares,
        mirrors.tasks, mirrors.log⟩

/-- Every run of the host is a run of the guest. -/
theorem mirrors_of_run {events : List (Event Fault (Request ⊕ Errand) HostAmbient)}
    {hostState : HostState} {state : State} (shares : H.shares hostState state)
    (ran : host.run (Pool.start hostState) events = some hostPool) :
    ∃ guestEvents pool, guest.run (Pool.start state) guestEvents = some pool ∧
      H.Mirrors hostPool pool := by
  apply runSteps_invariant ?_ ?_ ran
  · rintro before event after ⟨guestEvents, pool, ranGuest, mirrors⟩ moved
    obtain ⟨more, next, ranMore, mirrorsNext⟩ := mirrors.next moved
    refine ⟨guestEvents ++ more, next, ?_, mirrorsNext⟩
    rw [Machine.run, runSteps_append]
    exact Option.bind_eq_some_iff.mpr ⟨pool, ranGuest, ranMore⟩
  · exact ⟨[], Pool.start state, rfl, shares, List.Forall₂.nil, rfl⟩

end Hosting

end RideHailing
