import RideHailing.StableFacts

/-!
# Triples for the backend calls

One rule for each kind of call the services await: quiet calls, reads of a row,
the writes, and the accept lock.  What the call returns is expressed through
the history before it.
-/

namespace RideHailing

variable {P : Platform} {init : Store} {pid : Nat} {request : Request}
variable {log : History}

/-! ## Replies -/

theorem outage_of_breakable {call : Call} {fault : Fault}
    (permitted : breakable call fault = true) : fault = .outage := by
  cases call <;> simp_all [breakable]

/-- A reply comes from the infrastructure's failure or from the tables that the
history describes. -/
theorem answers_cases {call : Call} {reply : Except Fault (Value call)}
    (answers : (rules P init).Answers pid call reply log) :
    reply = .error .outage ∨
      ∃ state after, Describes init ⟨state, log⟩ ∧
        P.perform pid call state = some (reply, after) := by
  obtain ⟨⟨state, _⟩, broken, after, good, rfl, answered⟩ := answers
  cases broken with
  | none => exact Or.inr ⟨state, after, good.1, answered⟩
  | some fault =>
      obtain ⟨permitted, rfl, _⟩ := Machine.answer_broken answered
      rw [outage_of_breakable permitted]
      exact Or.inl rfl

theorem answers_ok {call : Call} {value : Value call}
    (answers : (rules P init).Answers pid call (.ok value) log) :
    ∃ state after, Describes init ⟨state, log⟩ ∧
      P.perform pid call state = some (.ok value, after) := by
  rcases answers_cases answers with absurdReply | performed
  · cases absurdReply
  · exact performed

/-- Only the infrastructure fails a call that the backend does not refuse. -/
theorem outage_of_steady {call : Call} {fault : Fault}
    (steady : call.refusable = false)
    (answers : (rules P init).Answers pid call (.error fault) log) :
    fault = .outage := by
  rcases answers_cases answers with outage | ⟨state, after, _, performed⟩
  · exact Except.error.inj outage
  · cases call with
    | userSave _ => cases steady
    | driverMerge _ => cases steady
    | ratingSave _ => cases steady
    | geoadd _ _ _ => cases steady
    | geosearch _ _ _ _ => cases steady
    | limiterHit _ _ _ =>
        simp only [Platform.perform] at performed
        split at performed <;> cases performed
    | lockAcquire =>
        simp only [Platform.perform] at performed
        split at performed <;> cases performed
    | _ => cases performed

theorem answers_rideFindById {rideId : String} {found : Option Ride}
    (answers : (rules P init).Answers pid (.rideFindById rideId) (.ok found) log) :
    found = storedRide init rideId log := by
  obtain ⟨state, after, described, performed⟩ := answers_ok answers
  cases performed
  exact described.rides rideId

theorem answers_driverFindById {userId : String} {found : Option Driver}
    (answers : (rules P init).Answers pid (.driverFindById userId) (.ok found) log) :
    found = storedDriver init userId log := by
  obtain ⟨state, after, described, performed⟩ := answers_ok answers
  cases performed
  exact described.drivers userId

theorem answers_userFindById {userId : String} {found : Option User}
    (answers : (rules P init).Answers pid (.userFindById userId) (.ok found) log) :
    found = storedUser init userId log := by
  obtain ⟨state, after, described, performed⟩ := answers_ok answers
  cases performed
  exact described.users userId

theorem answers_userFindByUsername {username : String} {user : User}
    (answers : (rules P init).Answers pid (.userFindByUsername username)
      (.ok (some user)) log) :
    storedUser init user.id log = some user ∧ user.username = username := by
  obtain ⟨state, after, described, performed⟩ := answers_ok answers
  have found : state.users.rows.find?
      (fun user => decide (user.username = username)) = some user := by
    simpa [Platform.perform, ok] using congrArg (Option.map Prod.fst) performed
  refine ⟨?_, by simpa using List.find?_some found⟩
  rw [← described.users user.id]
  exact KeyedTable.mem_rows_iff_find.mp (List.mem_of_find?_eq_some found)

/-- A name that some user bears is found. -/
theorem answers_username_taken {userId username : String} {stored : User}
    {found : Option User}
    (answers : (rules P init).Answers pid (.userFindByUsername username)
      (.ok found) log)
    (storedUser_ : storedUser init userId log = some stored)
    (named : stored.username = username) : found = some stored := by
  obtain ⟨state, after, described, performed⟩ := answers_ok answers
  have foundEq : state.users.rows.find?
      (fun user => decide (user.username = username)) = found := by
    simpa [Platform.perform, ok] using congrArg (Option.map Prod.fst) performed
  have storedMem : stored ∈ state.users.rows := by
    rw [← described.users userId] at storedUser_
    exact (KeyedTable.find_eq_some_iff.mp storedUser_).1
  cases found with
  | none =>
      have absent := List.find?_eq_none.mp foundEq stored storedMem
      simp [named] at absent
  | some user =>
      have userMem := List.mem_of_find?_eq_some foundEq
      have userNamed : user.username = username := by
        simpa using List.find?_some foundEq
      rw [List.inj_on_of_nodup_map state.users.exclusive userMem storedMem
        (userNamed.trans named.symm)]

theorem answers_lockAcquire {reply : Except Fault Unit}
    (answers : (rules P init).Answers pid .lockAcquire reply log) :
    lockOwner log = none ∧ ∃ value, reply = .ok value := by
  obtain ⟨⟨state, _⟩, broken, after, good, rfl, answered⟩ := answers
  cases broken with
  | some fault => cases answered
  | none =>
      have performed : P.perform pid .lockAcquire state = some (reply, after) := answered
      simp only [Platform.perform] at performed
      split at performed
      · rename_i free
        cases performed
        rw [← good.1.lock]
        exact ⟨by simpa using free, (), rfl⟩
      · cases performed

theorem answers_lockRelease {reply : Except Fault Unit}
    (answers : (rules P init).Answers pid .lockRelease reply log) :
    ∃ value, reply = .ok value := by
  obtain ⟨⟨state, _⟩, broken, after, _, rfl, answered⟩ := answers
  cases broken with
  | some fault => cases answered
  | none =>
      cases answered
      exact ⟨(), rfl⟩

/-- The foreign key holds of a driver whose row was read. -/
theorem outage_of_driverMerge {driver seen : Driver} {fault : Fault}
    (answers : (rules P init).Answers pid (.driverMerge driver) (.error fault) log)
    (read : driverSeen init pid driver.userId log = some seen) :
    fault = .outage := by
  rcases answers_cases answers with outage | ⟨state, after, described, performed⟩
  · exact Except.error.inj outage
  · obtain ⟨stored, found⟩ := Option.ne_none_iff_exists'.mp
      (ever_of_atLast read).latest_ne_none
    have foundRow : state.drivers.find driver.userId = some stored :=
      (described.drivers driver.userId).trans found
    simp only [Platform.perform, foundRow] at performed
    cases performed

/-- The name of a user whose row was read is not taken by another. -/
theorem outage_of_userSave {user seen : User} {fault : Fault}
    (answers : (rules P init).Answers pid (.userSave user) (.error fault) log)
    (lawful : Lawful (law init) log)
    (read : userSeen init pid user.id log = some seen)
    (named : seen.username = user.username) : fault = .outage := by
  rcases answers_cases answers with outage | ⟨state, after, described, performed⟩
  · exact Except.error.inj outage
  · have everSeen := everUser_of_seen read
    obtain ⟨stored, found⟩ := Option.ne_none_iff_exists'.mp everSeen.latest_ne_none
    have sameName : stored.username = seen.username :=
      EverUser.username_eq lawful (ever_of_latest found) everSeen
    have foundRow : state.users.find user.id = some stored :=
      (described.users user.id).trans found
    simp only [Platform.perform] at performed
    split at performed
    · rename_i refusedMerge
      exact absurd (UniqueTable.merge_eq_none refusedMerge)
        (UniqueTable.not_conflicts_of_find foundRow (sameName.trans named))
    · cases performed

/-! ## Rules -/

theorem broken_outage {call : Call} :
    Broken pid (⟨pid, request, call, .error .outage⟩ :: log) :=
  ⟨_, List.mem_cons_self, rfl, rfl⟩

section Rules

variable {pre : History → Prop} {exits : Failure → History → Prop}

/-- A quiet call that the backend may refuse. -/
theorem quiet_triple {call : Call} (quiet : call.quiet = true)
    (framed : Framed P init pid request pre)
    (refuse : ∀ failure log, pre log → exits failure log) :
    (rules P init).Triple pid request pre (Service.call call)
      (fun _ => pre) exits := by
  apply HistoryRules.triple_perform framed.stable
  · intro log reply _ _ _
    exact law_of_quiet reply log quiet
  · intro log value _ holds _
    exact framed.quiet call _ log quiet holds
  · intro log fault _ holds _
    exact refuse _ _ (framed.quiet call _ log quiet holds)

/-- A quiet call that only the infrastructure can fail. -/
theorem steady_triple {call : Call} (quiet : call.quiet = true)
    (steady : call.refusable = false) (framed : Framed P init pid request pre)
    (broken : ∀ failure call log, pre log →
      exits failure (⟨pid, request, call, .error .outage⟩ :: log)) :
    (rules P init).Triple pid request pre (Service.call call)
      (fun _ => pre) exits := by
  apply HistoryRules.triple_perform framed.stable
  · intro log reply _ _ _
    exact law_of_quiet reply log quiet
  · intro log value _ holds _
    exact framed.quiet call _ log quiet holds
  · intro log fault _ holds answers
    rw [outage_of_steady steady answers]
    exact broken _ _ log holds

theorem triple_ite {α : Type} {condition : Prop} [Decidable condition]
    {yes no : Service α} {post : α → History → Prop}
    (whenTrue : condition →
      (rules P init).Triple pid request pre yes post exits)
    (whenFalse : ¬ condition →
      (rules P init).Triple pid request pre no post exits) :
    (rules P init).Triple pid request pre (if condition then yes else no)
      post exits := by
  split
  · exact whenTrue ‹_›
  · exact whenFalse ‹_›

theorem reject_triple {α : Type} {status : Nat} {detail : String}
    {post : α → History → Prop}
    (refuse : ∀ failure log, pre log → exits failure log) :
    (rules P init).Triple pid request pre
      (Service.reject status detail : Service α) post exits :=
  HistoryRules.triple_raise fun log holds => refuse _ log holds

/-- A guard rejects, or lets the service go on. -/
theorem guard_triple {α : Type} {condition : Prop} [Decidable condition]
    {status : Nat} {detail : String} {next : Service α} {post : α → History → Prop}
    (refuse : ∀ failure log, pre log → exits failure log)
    (goesOn : ¬ condition → (rules P init).Triple pid request pre next post exits) :
    (rules P init).Triple pid request pre
      (if condition then Service.reject status detail else next) post exits :=
  triple_ite (fun _ => reject_triple refuse) goesOn

end Rules

end RideHailing
