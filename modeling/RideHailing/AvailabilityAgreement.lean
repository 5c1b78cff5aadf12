import RideHailing.RequestConduct
import RideHailing.RequestGuarantees

/-!
# The availability set and the drivers table

A driver's availability is stored twice: as a column of the driver's row and as
membership in a Redis set.  A save writes the row first and the set afterwards, and
another save of the same driver may come in between.  As long as no save that writes
another flag does, the two agree once every save has written both.
-/

namespace RideHailing

/-- The row says that the driver is available. -/
def marksAvailable (stored : Option Driver) : Bool :=
  stored.any Driver.isAvailable

/-- The driver is in the availability set if and only if the row says so. -/
def Store.Agrees (store : Store) (driverId : String) : Prop :=
  driverId ∈ store.available ↔ marksAvailable (store.drivers.find driverId) = true

instance (store : Store) (driverId : String) : Decidable (store.Agrees driverId) := by
  unfold Store.Agrees
  infer_instance

/-- What a call makes of the driver's membership in the availability set. -/
def Call.listed? (driverId : String) : Call → Option Bool
  | .sadd userId => if userId = driverId then some true else none
  | .srem userId => if userId = driverId then some false else none
  | _ => none

/-- The membership that an entry gives the driver. -/
def Entry.listedAs (entry : HistoryEntry) (driverId : String) : Option Bool :=
  if entry.succeeded then entry.call.listed? driverId else none

/-- The row of the driver that the task has committed in its last call; with its next call
the save writes the availability set. -/
def justSaved (driverId : String) (pid : Nat) : History → Option Driver
  | [] => none
  | entry :: older =>
      if entry.pid = pid then entry.driverAt driverId else justSaved driverId pid older

/-- A save of the driver commits only where every other save of the driver that has
committed has also written the availability set, or writes the same flag. -/
def SavesApart (driverId : String) (entry : HistoryEntry) (older : History) : Prop :=
  ∀ row ∈ entry.driverAt driverId, ∀ other ∈ older,
    ∀ unlisted ∈ justSaved driverId other.pid older, unlisted.isAvailable = row.isAvailable

instance (driverId : String) (entry : HistoryEntry) (older : History) :
    Decidable (SavesApart driverId entry older) := by
  unfold SavesApart
  infer_instance

theorem Driver.lists_listing (driver : Driver) : driver.listing.lists = true := by
  unfold Driver.listing
  split <;> rfl

theorem Conduct.allows.owed {note : Conduct} {call : Call} {driver : Driver}
    (allowed : note.allows call) (owes : note.owed = some driver) :
    call = driver.listing := by
  have next := allowed.1
  rw [owes] at next
  exact next

variable {P : Platform} {init : Store} {driverId : String}

section Entries

variable {entry : HistoryEntry} {older : History} {before after : Store}

theorem justSaved_mem {log : History} {pid : Nat} {row : Driver}
    (saved : justSaved driverId pid log = some row) : ∃ other ∈ log, other.pid = pid := by
  induction log with
  | nil => cases saved
  | cons entry older ih =>
      rw [justSaved] at saved
      split at saved
      · rename_i own
        exact ⟨entry, List.mem_cons_self, own⟩
      · obtain ⟨other, otherMem, samePid⟩ := ih saved
        exact ⟨other, List.mem_cons_of_mem entry otherMem, samePid⟩

/-- What a task owes to the availability set is the row that it has just saved. -/
theorem justSaved_iff_owed {log : History} {pid : Nat} {row : Driver} :
    justSaved driverId pid log = some row ↔
      (conduct.noteOf pid log).owed = some row ∧ row.userId = driverId := by
  induction log with
  | nil => simp [justSaved, CallMonitor.noteOf, conduct]
  | cons entry older ih =>
      rw [justSaved, CallMonitor.noteOf]
      split
      · rw [Entry.driverAt_eq_some]
        obtain ⟨other, request, call, reply⟩ := entry
        cases reply with
        | error fault =>
            cases call <;> simp [Entry.savedDriver, Entry.succeeded, conduct, Conduct.after]
        | ok value =>
            cases call <;>
              simp [Entry.savedDriver, Entry.succeeded, Call.driver?, conduct, Conduct.after]
      · exact ih

theorem available_of_unlisting {pid : Nat} {call : Call}
    {reply : Except Fault (Value call)} (unlisting : call.lists = false)
    (performed : P.perform pid call before = some (reply, after)) :
    after.available = before.available := by
  rcases perform_cases performed with rfl | change
  · rfl
  · cases change <;> first | rfl | cases unlisting

/-- What a call leaves of the availability set. -/
theorem mem_available_of_answer {pid : Nat} {request : Request} {broken : Option Fault}
    {call : Call} {reply : Except Fault (Value call)}
    (answered : (application P).answer pid broken call before = some (reply, after)) :
    driverId ∈ after.available ↔
      (Entry.listedAs ⟨pid, request, call, reply⟩ driverId).getD
        (decide (driverId ∈ before.available)) = true := by
  cases broken with
  | some fault =>
      obtain ⟨_, rfl, rfl⟩ := Machine.answer_broken answered
      simp [Entry.listedAs]
  | none =>
      cases listing : call.lists with
      | false =>
          have unwritten : call.listed? driverId = none := by
            cases call <;> first | rfl | cases listing
          simp [Entry.listedAs, unwritten, available_of_unlisting listing answered]
      | true =>
          cases call with
          | sadd userId =>
              cases answered
              have written : Entry.listedAs ⟨pid, request, .sadd userId, .ok ()⟩ driverId =
                  if userId = driverId then some true else none := rfl
              by_cases same : userId = driverId
              · simp [written, same]
              · simp [written, same, Ne.symm same]
          | srem userId =>
              cases answered
              have written : Entry.listedAs ⟨pid, request, .srem userId, .ok ()⟩ driverId =
                  if userId = driverId then some false else none := rfl
              by_cases same : userId = driverId
              · simp [written, same]
              · simp [written, same, Ne.symm same]
          | _ => cases listing

theorem listedAs_of_listing {driver : Driver} (sameDriver : driver.userId = driverId)
    (listing : entry.call = driver.listing) (succeeded : entry.succeeded = true) :
    entry.listedAs driverId = some driver.isAvailable := by
  unfold Entry.listedAs Driver.listing at *
  rw [if_pos succeeded, listing]
  split
  · rename_i available
    simp [Call.listed?, sameDriver, available]
  · rename_i unavailable
    simp [Call.listed?, sameDriver, unavailable]

/-- Only the writes of the availability set list a driver. -/
theorem lists_of_listed {listed : Bool} (written : entry.listedAs driverId = some listed) :
    entry.call.lists = true := by
  unfold Entry.listedAs at written
  split at written
  · cases call : entry.call <;> first | rfl | (rw [call] at written; cases written)
  · cases written

/-- The write that completes a save lists the driver who has been saved, as saved. -/
theorem listing_of_listed {driver : Driver} {listed : Bool}
    (listing : entry.call = driver.listing)
    (written : entry.listedAs driverId = some listed) :
    driver.userId = driverId ∧ listed = driver.isAvailable := by
  unfold Entry.listedAs at written
  split at written
  · rw [listing] at written
    unfold Driver.listing at written
    split at written
    · rename_i available
      simp only [Call.listed?, Option.ite_none_right_eq_some, Option.some.injEq] at written
      exact ⟨written.1, written.2.symm.trans available.symm⟩
    · rename_i unavailable
      simp only [Call.listed?, Option.ite_none_right_eq_some, Option.some.injEq] at written
      exact ⟨written.1, written.2.symm.trans (Bool.not_eq_true _ ▸ unavailable).symm⟩
  · cases written

end Entries

/-- The saves of the driver that have committed and not yet written the availability set
have the flag of the row.  If there is none, the set agrees with the row. -/
structure Settling (driverId : String) (pool : ApplicationPool) : Prop where
  flags : ∀ pid row, justSaved driverId pid pool.world.log = some row →
    row.isAvailable = marksAvailable (pool.world.state.drivers.find driverId)
  settled : (∃ pid row, justSaved driverId pid pool.world.log = some row) ∨
    pool.world.state.Agrees driverId

section Steps

variable {pid : Nat} {broken : Option Fault} {pool pool' : ApplicationPool}

/-- A call that no infrastructure failed has written what it was to write. -/
theorem succeeded_of_lists {call : Call} {request : Request} {state : Store}
    {reply : Except Fault (Value call)} (valid : (rules P init).Valid (Guarantee init) pool)
    (answered : (application P).answer pid broken call pool.world.state =
      some (reply, state))
    (lists : call.lists = true)
    (working : Entry.outage ⟨pid, request, call, reply⟩ = false) :
    Entry.succeeded ⟨pid, request, call, reply⟩ = true := by
  cases reply with
  | ok value => rfl
  | error fault =>
      have steady : call.refusable = false := by
        cases call <;> first | rfl | cases lists
      have failed : fault = .outage :=
        outage_of_steady steady ⟨pool.world, broken, state, valid.good, rfl, answered⟩
      rw [failed] at working
      cases working

/-- An entry that does not save the driver ends the save that its task had under way. -/
theorem justSaved_cons_of_unsaved {entry : HistoryEntry} {log : History} {other : Nat}
    {row : Driver} (unsaved : entry.driverAt driverId = none) :
    justSaved driverId other (entry :: log) = some row ↔
      entry.pid ≠ other ∧ justSaved driverId other log = some row := by
  rw [justSaved]
  split
  · rename_i own
    simp [own, unsaved]
  · rename_i different
    exact ⟨fun just => ⟨different, just⟩, fun both => both.2⟩

/-- Only a save under way writes the set, and it writes the flag of its row. -/
theorem justSaved_of_listed {call : Call} {request : Request}
    {reply : Except Fault (Value call)} {listed : Bool}
    (allowed : Conduct.allows (conduct.noteOf pid pool.world.log) call)
    (written : Entry.listedAs ⟨pid, request, call, reply⟩ driverId = some listed) :
    ∃ driver, justSaved driverId pid pool.world.log = some driver ∧
      listed = driver.isAvailable := by
  have lists := lists_of_listed written
  cases owes : (conduct.noteOf pid pool.world.log).owed with
  | none =>
      have unlisting := allowed.1
      rw [owes] at unlisting
      rw [unlisting] at lists
      cases lists
  | some driver =>
      obtain ⟨sameDriver, flag⟩ := listing_of_listed (allowed.owed owes) written
      exact ⟨driver, justSaved_iff_owed.mpr ⟨owes, sameDriver⟩, flag⟩

/-- A task with a save under way writes the set with its next call. -/
theorem listed_of_justSaved {call : Call} {request : Request} {state : Store}
    {reply : Except Fault (Value call)} {driver : Driver}
    (valid : (rules P init).Valid (Guarantee init) pool)
    (answered : (application P).answer pid broken call pool.world.state =
      some (reply, state))
    (allowed : Conduct.allows (conduct.noteOf pid pool.world.log) call)
    (working : Entry.outage ⟨pid, request, call, reply⟩ = false)
    (just : justSaved driverId pid pool.world.log = some driver) :
    Entry.listedAs ⟨pid, request, call, reply⟩ driverId = some driver.isAvailable := by
  obtain ⟨owes, sameDriver⟩ := justSaved_iff_owed.mp just
  have listing : call = driver.listing := allowed.owed owes
  have lists : call.lists = true := by
    rw [listing]
    exact driver.lists_listing
  have succeeded := succeeded_of_lists valid answered lists working
  exact listedAs_of_listing sameDriver listing succeeded

/-- One call of a task that keeps the order of its writes. -/
theorem Settling.advance (settling : Settling driverId pool)
    (valid : (rules P init).Valid (Guarantee init) pool)
    (validAfter : (rules P init).Valid (Guarantee init) pool')
    (followed : Orderly pool)
    (advanced : (application P).advance pool pid broken = some pool')
    (working : ∀ entry ∈ pool'.world.log, entry.outage = false)
    (apart : Lawful (SavesApart driverId) pool'.world.log) : Settling driverId pool' := by
  have described : Describes init pool.world := valid.good.1
  have describedAfter : Describes init pool'.world := validAfter.good.1
  obtain ⟨request, call, resume, reply, state, found, answered, rfl⟩ :=
    (application P).advance_eq_some advanced
  have allowed : Conduct.allows _ call := followed.allows found trivial
  have listed : driverId ∈ state.available ↔
      (Entry.listedAs ⟨pid, request, call, reply⟩ driverId).getD
        (decide (driverId ∈ pool.world.state.available)) = true :=
    mem_available_of_answer answered
  have rowAfter := describedAfter.drivers driverId
  simp only [storedDriver_cons] at rowAfter
  rw [← described.drivers] at rowAfter
  cases saved : Entry.driverAt ⟨pid, request, call, reply⟩ driverId with
  | some row =>
      rw [saved, Option.some_or] at rowAfter
      constructor
      · intro other unlisted just
        rw [rowAfter]
        rw [justSaved] at just
        split at just
        · cases saved.symm.trans just
          rfl
        · obtain ⟨source, sourceMem, rfl⟩ := justSaved_mem just
          exact apart.1 row saved source sourceMem unlisted just
      · left
        refine ⟨pid, row, ?_⟩
        rw [justSaved, if_pos rfl]
        exact saved
  | none =>
      rw [saved, Option.none_or] at rowAfter
      constructor
      · intro other row just
        rw [rowAfter]
        exact settling.flags other row ((justSaved_cons_of_unsaved saved).mp just).2
      · cases written : Entry.listedAs ⟨pid, request, call, reply⟩ driverId with
        | some membership =>
            -- The save that writes the set now has the flag of the row.
            right
            obtain ⟨driver, just, rfl⟩ := justSaved_of_listed allowed written
            have flag := settling.flags pid driver just
            rw [Store.Agrees, listed, written, rowAfter, Option.getD_some, flag]
        | none =>
            rcases settling.settled with ⟨owner, driver, just⟩ | agrees
            · left
              refine ⟨owner, driver, (justSaved_cons_of_unsaved saved).mpr ⟨?_, just⟩⟩
              rintro rfl
              have isListed := listed_of_justSaved valid answered allowed
                (working _ List.mem_cons_self) just
              rw [written] at isListed
              cases isListed
            · right
              rw [Store.Agrees, listed, written, rowAfter, Option.getD_none,
                decide_eq_true_iff]
              exact agrees

theorem Settling.next {event : ApplicationEvent} (settling : Settling driverId pool)
    (valid : (rules P init).Valid (Guarantee init) pool)
    (validAfter : (rules P init).Valid (Guarantee init) pool')
    (followed : Orderly pool)
    (moved : (application P).next pool event = some pool')
    (working : ∀ entry ∈ pool'.world.log, entry.outage = false)
    (apart : Lawful (SavesApart driverId) pool'.world.log) : Settling driverId pool' := by
  rcases (application P).next_cases moved with
    ⟨_, _, rfl⟩ | ⟨pid, broken, advanced⟩ | ⟨_, _, rfl⟩
  · exact ⟨settling.flags, settling.settled⟩
  · exact settling.advance valid validAfter followed advanced working apart
  · exact ⟨settling.flags, settling.settled⟩

end Steps

section Runs

variable {events : List ApplicationEvent} {pool : ApplicationPool}

/-- Whoever has made no call yet, or has ended, owes no write of the availability set. -/
theorem owes_nothing_of_quiescent
    (followed : Orderly pool)
    (quiescent : pool.Quiescent) (pid : Nat) :
    (conduct.noteOf pid pool.world.log).owed = none := by
  cases found : pool.tasks[pid]? with
  | none =>
      rw [CallMonitor.noteOf_fresh]
      · rfl
      · intro entry entryMem
        have bound := followed.owned entry entryMem
        have beyond := List.getElem?_eq_none_iff.mp found
        omega
  | some task =>
      have ended := quiescent task (List.mem_of_getElem? found)
      have watched := followed.tasks found trivial
      obtain ⟨request, rest⟩ := task
      cases rest with
      | done outcome => exact watched
      | await call resume => cases ended

/-- Without failing calls, whenever no request is in flight a driver is in the availability
set if and only if the driver's row says available, if the two agreed at the start and no
save of the driver has come between the two writes of a save with another flag. -/
theorem agrees_of_savesApart (unlocked : init.acceptLock = none)
    (start : init.Agrees driverId)
    (ran : (application P).run (Pool.start init) events = some pool)
    (working : ∀ entry ∈ pool.world.log, entry.outage = false)
    (apart : Lawful (SavesApart driverId) pool.world.log)
    (quiescent : pool.Quiescent) : pool.world.state.Agrees driverId := by
  have settles : (∀ entry ∈ pool.world.log, entry.outage = false) →
      Lawful (SavesApart driverId) pool.world.log → Settling driverId pool := by
    apply runSteps_reached ?_ ?_ ran
    · intro _ _
      refine ⟨?_, Or.inr start⟩
      intro pid row just
      cases just
    · intro before middle event next ranBefore moved settling workingNext apartNext
      have moves : (application P).run middle [event] = some next := by
        rw [Machine.run, runSteps_cons, moved]
        rfl
      obtain ⟨news, logEq⟩ := log_grows moves
      have workingMiddle : ∀ entry ∈ middle.world.log, entry.outage = false := by
        intro entry entryMem
        apply workingNext
        simp [logEq, entryMem]
      have apartMiddle : Lawful (SavesApart driverId) middle.world.log := by
        rw [logEq] at apartNext
        exact apartNext.of_append
      exact (settling workingMiddle apartMiddle).next (reached_valid unlocked ranBefore)
        (reached_valid unlocked (runSteps_snoc _ ranBefore moved)) (conduct_of_run ranBefore)
        moved workingNext apartNext
  rcases (settles working apart).settled with ⟨pid, driver, just⟩ | agrees
  · obtain ⟨owes, _⟩ := justSaved_iff_owed.mp just
    rw [owes_nothing_of_quiescent (conduct_of_run ran) quiescent pid] at owes
    cases owes
  · exact agrees

end Runs

namespace SmallCity

/-- The city with both drivers in the availability set. -/
def openStore : Store :=
  { store with available := {"u3", "u4"} }

theorem openStore_agrees (driverId : String) : openStore.Agrees driverId := by
  by_cases isDan : driverId = "u3"
  · subst isDan
    decide
  by_cases isEve : driverId = "u4"
  · subst isEve
    decide
  · simp [Store.Agrees, marksAvailable, openStore, store, Store.opening, KeyedTable.find,
      danDriver, eveDriver, isDan, isEve, Ne.symm isDan, Ne.symm isEve]

/-- Dan goes offline after going online has committed his row and before it has
written the availability set. -/
def offlineDuringOnline : List ApplicationEvent :=
  [.spawn (.goOnline "u3" centre centre), .spawn (.goOffline "u3")] ++
  steps 0 4 ++ steps 1 6 ++ steps 0 1

theorem offlineDuringOnline_disagrees :
    ∃ pool, (application platform).run (Pool.start openStore) offlineDuringOnline =
        some pool ∧
      (∀ driverId, openStore.Agrees driverId) ∧
        (∀ entry ∈ pool.world.log, entry.outage = false) ∧ pool.Quiescent ∧
          ¬ pool.world.state.Agrees "u3" := by
  obtain ⟨pool, ran, checked⟩ := Option.map_eq_some_iff.mp
    (by decide +kernel : ((application platform).run (Pool.start openStore)
      offlineDuringOnline).map (fun pool =>
        decide ((∀ entry ∈ pool.world.log, entry.outage = false) ∧ pool.Quiescent ∧
          ¬ pool.world.state.Agrees "u3")) = some true)
  exact ⟨pool, ran, openStore_agrees, of_decide_eq_true checked⟩

/-- Dan goes offline and comes back. -/
def offlineThenOnline : List ApplicationEvent :=
  [.spawn (.goOffline "u3")] ++ steps 0 6 ++
  [.spawn (.goOnline "u3" centre centre)] ++ steps 1 5

theorem offlineThenOnline_agrees :
    ∃ pool, (application platform).run (Pool.start openStore) offlineThenOnline =
        some pool ∧ pool.world.state.Agrees "u3" := by
  obtain ⟨pool, ran, checked⟩ := Option.map_eq_some_iff.mp
    (by decide +kernel : ((application platform).run (Pool.start openStore)
      offlineThenOnline).map (fun pool =>
        decide ((∀ entry ∈ pool.world.log, entry.outage = false) ∧ pool.Quiescent ∧
          Lawful (SavesApart "u3") pool.world.log)) = some true)
  obtain ⟨working, quiescent, apart⟩ := of_decide_eq_true checked
  exact ⟨pool, ran, agrees_of_savesApart rfl (openStore_agrees "u3") ran working apart
    quiescent⟩

end SmallCity

end RideHailing
