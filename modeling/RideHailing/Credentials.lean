import RideHailing.RouteAuthority

/-!
# Every token goes back to a password

Users are written back whole from copies, but the copies keep the name and the password
that the user signed up with.  A token is issued when somebody signs up, when somebody
signs in with a password that fits, or in exchange for a token of the same name.  So
behind every token that is in use there is a password of its user.
-/

namespace RideHailing

/-- A user with this identifier, name and password is stored. -/
def Store.HasAccount (store : Store) (user : User) : Prop :=
  ∃ kept ∈ store.users.rows, kept.id = user.id ∧ kept.username = user.username ∧
    kept.passwordHash = user.passwordHash

/-- Whoever had an account has it still. -/
def Store.KeepsAccounts (before after : Store) : Prop :=
  ∀ user ∈ before.users.rows, after.HasAccount user

section Accounts

variable {P : Platform} {rideRequestLimitPerMinute : Nat} {init : Store}
variable {events : List RoutingEvent} {pool pool' : RoutingPool} {pid : Nat}
variable {broken : Option Fault} {route : Route} {before after : Store} {user : User}

theorem Store.HasAccount.mono (account : before.HasAccount user)
    (keeps : before.KeepsAccounts after) : after.HasAccount user := by
  obtain ⟨kept, stored, sameId, sameName, samePassword⟩ := account
  obtain ⟨later, storedLater, laterId, laterName, laterPassword⟩ := keeps kept stored
  exact ⟨later, storedLater, laterId.trans sameId, laterName.trans sameName,
    laterPassword.trans samePassword⟩

theorem hasAccount_of_stored (stored : user ∈ before.users.rows) : before.HasAccount user :=
  ⟨user, stored, rfl, rfl, rfl⟩

theorem keepsAccounts_of_same (same : after.users.toKeyedTable = before.users.toKeyedTable) :
    before.KeepsAccounts after := by
  intro user stored
  rw [← same] at stored
  exact hasAccount_of_stored stored

/-- The user in a call to save one, unless the call fails. -/
theorem users_of_answer {call : Call} {reply : Except Fault (Value call)}
    (answered : (routing P rideRequestLimitPerMinute).answer pid broken call before =
      some (reply, after)) :
    after.users.toKeyedTable = before.users.toKeyedTable ∨
      ∃ user, call = .userSave user ∧
        after.users.toKeyedTable = before.users.toKeyedTable.save user := by
  have users := (routing_follows (.goOffline "") answered).users
  cases saved : Entry.savedUser ⟨pid, .goOffline "", call, reply⟩ with
  | none =>
      rw [saved] at users
      exact Or.inl users
  | some user =>
      rw [saved] at users
      exact Or.inr ⟨user, Entry.call_of_savedUser saved, users⟩

/-- A request that has read and saved no user has saved no user. -/
theorem unsaved_of_unread (unread : (standingOf P pool pid route).users = []) :
    (dealingsOf pool pid route).saved = false := by
  simp only [standingOf, dealingsOf] at unread ⊢
  generalize pool.world.log = log at unread ⊢
  induction log with
  | nil => rfl
  | cons entry older ih =>
      simp only [CallMonitor.noteOf] at unread ⊢
      split
      · rename_i own
        rw [if_pos own] at unread
        obtain ⟨maker, request, call, reply⟩ := entry
        rcases reply with fault | value
        · cases call <;> exact ih unread
        · cases call with
          | userSave user => cases unread
          | userFindByUsername username =>
              cases value with
              | none => exact ih unread
              | some user => cases unread
          | userFindById userId =>
              cases value with
              | none => exact ih unread
              | some user => cases unread
          | driverFindById userId => cases value <;> exact ih unread
          | rideFindById rideId => cases value <;> exact ih unread
          | rideFindFirstByDriverIdAndStatusIn driverId statuses =>
              cases value <;> exact ih unread
          | _ => exact ih unread
      · rename_i other
        rw [if_neg other] at unread
        exact ih unread

/-- Whoever the routes have read or saved has an account. -/
def AccountHeld (P : Platform) (pool : RoutingPool) : Prop :=
  ∀ (pid : Nat) (route : Route), pool.requests[pid]? = some route →
    ∀ user ∈ (standingOf P pool pid route).users, pool.world.state.HasAccount user

/-- A route saves a new user, or a user with the account that the user has. -/
theorem keepsAccounts_of_save (held : AccountHeld P pool) (consistent : Consistent pool)
    (served : pool.requests[pid]? = some route)
    (allowed : (standingOf P pool pid route).allows (route.Enrols P) (.userSave user))
    (saved : after.users.toKeyedTable = pool.world.state.users.toKeyedTable.save user) :
    pool.world.state.KeepsAccounts after := by
  intro old stored
  have stays : old ∈ after.users.rows ∨ old.id = user.id := by
    rw [saved, KeyedTable.mem_rows_save]
    by_cases same : old.id = user.id
    · exact Or.inr same
    · exact Or.inl (Or.inr ⟨stored, same⟩)
  rcases stays with kept | same
  · exact hasAccount_of_stored kept
  · have here : user ∈ after.users.rows := by
      rw [saved]
      exact KeyedTable.mem_rows_save.mpr (Or.inl rfl)
    rcases allowed with ⟨unread, enrolled⟩ | ⟨_, seen, seenMem, seenId, seenName, seenPassword⟩
    · have drawn : user.id ∈ route.draws := by
        obtain ⟨token, endpoint⟩ := route
        cases endpoint with
        | authRegister clientIp username password newId salt =>
            rw [show user = _ from enrolled]
            exact List.mem_cons_self
        | _ => exact enrolled.elim
      have absent := consistent.unstored served (unsaved_of_unread unread) user.id drawn
      rw [← same, KeyedTable.mem_rows_iff_find.mp stored] at absent
      cases absent
    · obtain ⟨kept, keptStored, keptId, keptName, keptPassword⟩ :=
        held pid route served seen seenMem
      obtain rfl : kept = old :=
        List.inj_on_of_nodup_map pool.world.state.users.distinct keptStored stored
          (keptId.trans (seenId.trans same.symm))
      exact ⟨user, here, same.symm, seenName.symm.trans keptName.symm,
        seenPassword.symm.trans keptPassword.symm⟩

/-- Users that a reply tells of have accounts. -/
theorem users_after {call : Call} {reply : Except Fault (Value call)} {note : Standing}
    (answered : (routing P rideRequestLimitPerMinute).answer pid broken call before =
      some (reply, after))
    (userMem : user ∈ (note.after route.presented call reply).users) :
    user ∈ note.users ∨ user ∈ before.users.rows ∨ user ∈ after.users.rows := by
  rcases reply with fault | value
  · left
    cases call <;> exact userMem
  · cases call with
    | userFindByUsername username =>
        cases value with
        | none => exact Or.inl userMem
        | some found =>
            rcases List.mem_cons.mp userMem with rfl | older
            · obtain ⟨stored, _⟩ : user ∈ before.users.rows ∧ user.username = username :=
                userFindByUsername_found answered
              exact Or.inr (Or.inl stored)
            · exact Or.inl older
    | userFindById userId =>
        cases value with
        | none => exact Or.inl userMem
        | some found =>
            rcases List.mem_cons.mp userMem with rfl | older
            · have stored : before.users.find userId = some user := userFindById_found answered
              exact Or.inr (Or.inl (KeyedTable.find_eq_some_iff.mp stored).1)
            · exact Or.inl older
    | userSave saved =>
        have same : value = saved := routing_answers answered
        rcases List.mem_cons.mp userMem with here | older
        · have users := (routing_follows (.goOffline "") answered).users
          have stored : user ∈ after.users.toKeyedTable.rows := by
            rw [users]
            exact KeyedTable.mem_rows_save.mpr (Or.inl (here.trans same))
          exact Or.inr (Or.inr stored)
        · exact Or.inl older
    | rideFindById rideId => cases value <;> exact Or.inl userMem
    | rideFindFirstByDriverIdAndStatusIn driverId statuses =>
        cases value <;> exact Or.inl userMem
    | _ => exact Or.inl userMem

theorem AccountHeld.advance (held : AccountHeld P pool) (consistent : Consistent pool)
    (followed : ∀ route, (standing route.presented (route.Enrols P) {}).Followed
      (fun other => other = route) (fun other => CallMonitor.Leaves
        (fun response last => Standing.Grows {} last ∧ Issues P other response last)
        fun _ last => Standing.Grows {} last) pool)
    (advanced : (routing P rideRequestLimitPerMinute).advance pool pid broken = some pool') :
    AccountHeld P pool' ∧ pool.world.state.KeepsAccounts pool'.world.state := by
  have requests := (routing P rideRequestLimitPerMinute).requests_advance advanced
  obtain ⟨route, call, resume, reply, state, task, answered, rfl⟩ :=
    (routing P rideRequestLimitPerMinute).advance_eq_some advanced
  have own : pool.requests[pid]? = some route := Pool.request_of_task task
  have allowed := (followed route).allows task rfl
  have keeps : pool.world.state.KeepsAccounts state := by
    rcases users_of_answer answered with same | ⟨user, rfl, saved⟩
    · exact keepsAccounts_of_same same
    · exact keepsAccounts_of_save held consistent own allowed saved
  refine ⟨?_, keeps⟩
  intro other otherRoute there user userMem
  rw [requests] at there
  simp only [standingOf, CallMonitor.noteOf] at userMem
  split at userMem
  · rename_i same
    obtain rfl : pid = other := same
    obtain rfl : route = otherRoute := Option.some.inj (own.symm.trans there)
    rcases users_after answered userMem with older | stored | stored
    · exact (held pid route there user older).mono keeps
    · exact (hasAccount_of_stored stored).mono keeps
    · exact hasAccount_of_stored stored
  · exact (held other otherRoute there user userMem).mono keeps

theorem AccountHeld.next {event : RoutingEvent} (held : AccountHeld P pool)
    (consistent : Consistent pool)
    (followed : ∀ route, (standing route.presented (route.Enrols P) {}).Followed
      (fun other => other = route) (fun other => CallMonitor.Leaves
        (fun response last => Standing.Grows {} last ∧ Issues P other response last)
        fun _ last => Standing.Grows {} last) pool)
    (moved : Routing.next P rideRequestLimitPerMinute pool event = some pool') :
    AccountHeld P pool' ∧ pool.world.state.KeepsAccounts pool'.world.state := by
  cases event with
  | spawn route =>
      obtain ⟨begun, _⟩ := Routing.next_machine moved
      obtain rfl := (routing P rideRequestLimitPerMinute).next_spawn begun
      refine ⟨?_, fun user stored => hasAccount_of_stored stored⟩
      have requests : (Pool.mk pool.world (pool.tasks ++
          [⟨route, (routing P rideRequestLimitPerMinute).program route⟩])).requests =
            pool.requests ++ [route] := by
        simp [Pool.requests]
      intro pid other there user userMem
      rw [requests] at there
      rcases getElem?_concat_cases there with earlier | ⟨rfl, rfl⟩
      · exact held pid other earlier user userMem
      · have fresh : standingOf P pool pool.requests.length other = {} := by
          apply CallMonitor.noteOf_fresh
          intro entry mem same
          have bound := (List.getElem?_eq_some_iff.mp (consistent.logged entry mem)).1
          omega
        change user ∈ (standingOf P pool pool.requests.length other).users at userMem
        rw [fresh] at userMem
        cases userMem
  | step pid => exact held.advance consistent followed moved
  | fault pid fault => exact held.advance consistent followed moved
  | ambient elapsed =>
      cases moved
      exact ⟨held, fun user stored => hasAccount_of_stored stored⟩

theorem accounted_of_run (profiled : init.DriversHaveProfiles)
    (ran : Routing.run P rideRequestLimitPerMinute (Pool.start init) events = some pool) :
    AccountHeld P pool := by
  refine @runSteps_reached _ _ (Routing.next P rideRequestLimitPerMinute) (AccountHeld P)
    (Pool.start init) pool events ?_ ?_ ran
  · intro pid route there
    simp [Pool.start, Pool.requests] at there
  · intro before middle event next ranBefore moved held
    exact (held.next (consistent_of_run profiled ranBefore)
      (fun route => standing_followed route ranBefore) moved).1

end Accounts

/-! ## Tokens -/

/-- Behind the token there is a request that came with the password of its user, who
still has the account. -/
def Earned (P : Platform) (pool : RoutingPool) (token : Token) : Prop :=
  ∃ (pid : Nat) (route : Route) (user : User), pool.requests[pid]? = some route ∧
    pool.world.state.HasAccount user ∧ user.username = token.username ∧
      (route.Enrols P user ∨ route.SignsIn P user)

/-- The route gives out a token in exchange for its own. -/
def Endpoint.exchanges : Endpoint → Bool
  | .switchMode _ => true
  | .driverRegister _ _ => true
  | _ => false

section Tokens

variable {P : Platform} {rideRequestLimitPerMinute : Nat} {init : Store}
variable {events : List RoutingEvent} {pool pool' : RoutingPool} {event : RoutingEvent}

theorem requests_kept {pid : Nat} {route : Route}
    (moved : Routing.next P rideRequestLimitPerMinute pool event = some pool')
    (served : pool.requests[pid]? = some route) : pool'.requests[pid]? = some route := by
  rcases (routing P rideRequestLimitPerMinute).next_cases (Routing.next_machine moved).1 with
    ⟨spawned, _, rfl⟩ | ⟨other, broken, advanced⟩ | ⟨_, _, rfl⟩
  · have bound := (List.getElem?_eq_some_iff.mp served).1
    simp only [Pool.requests, List.map_append] at served bound ⊢
    rw [List.getElem?_append_left bound]
    exact served
  · rw [(routing P rideRequestLimitPerMinute).requests_advance advanced]
    exact served
  · exact served

theorem Earned.next {token : Token} (earned : Earned P pool token)
    (keeps : pool.world.state.KeepsAccounts pool'.world.state)
    (moved : Routing.next P rideRequestLimitPerMinute pool event = some pool') :
    Earned P pool' token := by
  obtain ⟨pid, route, user, served, account, named, proven⟩ := earned
  exact ⟨pid, route, user, requests_kept moved served, account.mono keeps, named, proven⟩

/-- If the tokens that requests came with are earned, so are the issued ones. -/
theorem earned_of_presented (profiled : init.DriversHaveProfiles)
    (ran : Routing.run P rideRequestLimitPerMinute (Pool.start init) events = some pool)
    (presented : ∀ route ∈ pool.requests, ∀ token, route.token = some token →
      Earned P pool token) {token : Token} (issued : token ∈ issuedTokens pool) :
    Earned P pool token := by
  obtain ⟨⟨route, rest⟩, taskMem, given⟩ := List.mem_filterMap.mp issued
  obtain ⟨pid, task⟩ := List.mem_iff_getElem?.mp taskMem
  have own : pool.requests[pid]? = some route := Pool.request_of_task task
  cases rest with
  | await call resume => cases given
  | done outcome =>
      cases outcome with
      | error failure => cases given
      | ok response =>
          have leaves := (standing_followed route ran).tasks task rfl
          rcases leaves.2 token given with named | ⟨user, userMem, named, proven⟩
          · obtain ⟨own', given', sameName⟩ := Option.map_eq_some_iff.mp named
            obtain ⟨other, otherRoute, user, served, account, userName, proven⟩ :=
              presented route (List.mem_of_getElem? own) own' given'
            exact ⟨other, otherRoute, user, served, account, userName.trans sameName, proven⟩
          · have account := accounted_of_run profiled ran pid route own user userMem
            exact ⟨pid, route, user, own, account, named, proven⟩

/-- A token is exchanged for one with the same name. -/
theorem presented_of_exchange
    (ran : Routing.run P rideRequestLimitPerMinute (Pool.start init) events = some pool)
    {pid : Nat} {route : Route} {response : Response} {token : Token}
    (ended : pool.ended? pid = some (route, .ok response))
    (issued : response.issued = some token) (exchanges : route.endpoint.exchanges = true) :
    route.presented = some token.username := by
  have leaves := (standing_followed route ran).ended ended rfl
  rcases leaves.2 token issued with named | ⟨user, _, _, proven⟩
  · exact named
  · -- Such a route neither signs up nor signs in.
    obtain ⟨own, endpoint⟩ := route
    cases endpoint with
    | switchMode mode => rcases proven with enrols | signsIn <;> contradiction
    | driverRegister vehicleType licensePlate =>
        rcases proven with enrols | signsIn <;> contradiction
    | _ => cases exchanges

end Tokens

/-- Nobody has a token without a password.  In every run, whatever tokens are exchanged
and whatever rows are written back in between, each token that has been issued names a
user who has an account, and some request has come with the name and the password of
this account: the one that signed it up, or one that signed in.  A token given out in
exchange for another one has its name. -/
theorem tokens_earned {P : Platform} {rideRequestLimitPerMinute : Nat} {init : Store}
    {events : List RoutingEvent} {pool : RoutingPool} (profiled : init.DriversHaveProfiles)
    (ran : Routing.run P rideRequestLimitPerMinute (Pool.start init) events = some pool) :
    (∀ token ∈ issuedTokens pool, Earned P pool token) ∧
      ∀ pid route response token, pool.ended? pid = some (route, .ok response) →
        response.issued = some token → route.endpoint.exchanges = true →
          route.presented = some token.username := by
  have presented : ∀ route ∈ pool.requests, ∀ token, route.token = some token →
      Earned P pool token := by
    refine @runSteps_reached _ _ (Routing.next P rideRequestLimitPerMinute)
      (fun reached => ∀ route ∈ reached.requests, ∀ token, route.token = some token →
        Earned P reached token) (Pool.start init) pool events ?_ ?_ ran
    · simp [Pool.start, Pool.requests]
    · intro before middle event next ranBefore moved presented route routeMem token given
      have keeps := ((accounted_of_run profiled ranBefore).next
        (consistent_of_run profiled ranBefore)
        (fun route => standing_followed route ranBefore) moved).2
      by_cases served : route ∈ middle.requests
      · exact (presented route served token given).next keeps moved
      · have spawned : event = .spawn route := by
          rcases (routing P rideRequestLimitPerMinute).next_cases
              (Routing.next_machine moved).1 with
            ⟨request, rfl, rfl⟩ | ⟨pid, broken, advanced⟩ | ⟨_, _, rfl⟩
          · simp only [Pool.requests, List.map_append, List.mem_append, List.map_cons,
              List.map_nil, List.mem_singleton] at routeMem
            rcases routeMem with earlier | rfl
            · exact absurd earlier served
            · rfl
          · rw [(routing P rideRequestLimitPerMinute).requests_advance advanced] at routeMem
            exact absurd routeMem served
          · exact absurd routeMem served
        have issued := (Routing.next_machine moved).2 route spawned token given
        exact (earned_of_presented profiled ranBefore presented issued).next keeps moved
  exact ⟨fun token => earned_of_presented profiled ran presented,
    fun pid route response token => presented_of_exchange ran⟩

namespace SmallCity

/-- The token that ann got when she became a driver goes back to her password. -/
theorem annBecomesDriver_earned :
    ∃ pool, playRoutes annBecomesDriver = some pool ∧
      ⟨"ann", .driver⟩ ∈ issuedTokens pool ∧ Earned platform pool ⟨"ann", .driver⟩ := by
  obtain ⟨pool, played, checked⟩ := Option.map_eq_some_iff.mp
    (by decide +kernel : (playRoutes annBecomesDriver).map (fun pool =>
      decide (⟨"ann", .driver⟩ ∈ issuedTokens pool)) = some true)
  have issued : (⟨"ann", .driver⟩ : Token) ∈ issuedTokens pool := of_decide_eq_true checked
  have profiled : store.DriversHaveProfiles := by
    unfold Store.DriversHaveProfiles
    decide
  exact ⟨pool, played, issued, (tokens_earned profiled played).1 _ issued⟩

end SmallCity

end RideHailing
