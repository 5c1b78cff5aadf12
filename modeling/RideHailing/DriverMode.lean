import RideHailing.BackendHistories
import RideHailing.RouteConduct

/-!
# The driver's mode implies a driver's profile

Tokens for the driver's mode outlive the state that they were given in, and users are
written back from copies that were read long before.  What makes both harmless is that
users keep their names and profiles are never deleted.
-/

namespace RideHailing

/-- Whoever has the driver's role has a profile. -/
def Store.DriversHaveProfiles (store : Store) : Prop :=
  ∀ user ∈ store.users.rows, user.role = .driver →
    (store.drivers.find user.id).isSome = true

/-- The user of this name has a profile. -/
def Store.HasProfile (store : Store) (username : String) : Prop :=
  ∃ user ∈ store.users.rows, user.username = username ∧
    (store.drivers.find user.id).isSome = true

/-- A user with this identifier and this name is stored. -/
def Store.Knows (store : Store) (userId username : String) : Prop :=
  ∃ user ∈ store.users.rows, user.id = userId ∧ user.username = username

/-- The users have kept their names, and no profile is gone. -/
structure Store.Extends (before after : Store) : Prop where
  users : ∀ user ∈ before.users.rows, after.Knows user.id user.username
  drivers : ∀ userId, (before.drivers.find userId).isSome = true →
    (after.drivers.find userId).isSome = true

section Stores

variable {store before after last : Store} {userId username : String}

theorem Store.Extends.knows (grown : before.Extends after)
    (known : before.Knows userId username) : after.Knows userId username := by
  obtain ⟨user, stored, rfl, rfl⟩ := known
  exact grown.users user stored

theorem Store.Extends.hasProfile (grown : before.Extends after)
    (profile : before.HasProfile username) : after.HasProfile username := by
  obtain ⟨user, stored, named, row⟩ := profile
  obtain ⟨kept, keptStored, sameId, sameName⟩ := grown.users user stored
  refine ⟨kept, keptStored, sameName.trans named, ?_⟩
  rw [sameId]
  exact grown.drivers user.id row

theorem Store.Extends.refl (store : Store) : store.Extends store :=
  ⟨fun user stored => ⟨user, stored, rfl, rfl⟩, fun _ row => row⟩

theorem Store.Extends.trans (first : before.Extends after) (second : after.Extends last) :
    before.Extends last :=
  ⟨fun user stored => second.knows (first.users user stored),
    fun userId row => second.drivers userId (first.drivers userId row)⟩

theorem extends_of_same (users : after.users.toKeyedTable = before.users.toKeyedTable)
    (drivers : after.drivers = before.drivers) : before.Extends after := by
  constructor
  · intro user stored
    rw [Store.Knows, users]
    exact ⟨user, stored, rfl, rfl⟩
  · intro userId row
    rw [drivers]
    exact row

/-- Names are unique. -/
theorem Store.Knows.profile (known : store.Knows userId username)
    (profile : store.HasProfile username) : (store.drivers.find userId).isSome = true := by
  obtain ⟨user, stored, rfl, named⟩ := known
  obtain ⟨other, otherStored, otherNamed, row⟩ := profile
  obtain rfl : user = other :=
    List.inj_on_of_nodup_map store.users.exclusive stored otherStored
      (named.trans otherNamed.symm)
  exact row

/-- So are identifiers. -/
theorem Store.Knows.username_eq {user : User} (known : store.Knows user.id username)
    (stored : user ∈ store.users.rows) : user.username = username := by
  obtain ⟨other, otherStored, sameId, rfl⟩ := known
  rw [List.inj_on_of_nodup_map store.users.distinct stored otherStored sameId.symm]

theorem Store.Knows.find_ne_none (known : store.Knows userId username) :
    store.users.find userId ≠ none := by
  obtain ⟨user, stored, rfl, _⟩ := known
  rw [KeyedTable.mem_rows_iff_find.mp stored]
  simp

end Stores

/-! ## One call -/

/-- What a request knows is so; a token that it came with names a user with a profile,
and it has found each profile that it looked for behind a driver's guard. -/
structure Backs (store : Store) (route : Route) (note : Dealings) : Prop where
  seen : ∀ user ∈ note.users, store.Knows user.id user.username
  driving : ∀ user ∈ note.users, user.role = .driver →
    (store.drivers.find user.id).isSome = true
  profiles : ∀ userId ∈ note.profiles, (store.drivers.find userId).isSome = true
  presented : ∀ token, route.token = some token → token.role = .driver →
    store.HasProfile token.username
  found : route.endpoint.requiredRole = some .driver → note.missed = false

section Calls

variable {P : Platform} {rideRequestLimitPerMinute : Nat} {route : Route} {note : Dealings}
variable {store before after : Store} {pid : Nat} {broken : Option Fault}

theorem Backs.mono (backs : Backs before route note) (grown : before.Extends after) :
    Backs after route note where
  seen user mem := grown.knows (backs.seen user mem)
  driving user mem role := grown.drivers user.id (backs.driving user mem role)
  profiles userId mem := grown.drivers userId (backs.profiles userId mem)
  presented token presented role := grown.hasProfile (backs.presented token presented role)
  found := backs.found

/-- A user who may be written back is stored under the same name. -/
theorem Backs.knows {user : User} (backs : Backs store route note)
    (vouched : note.Vouches user) : store.Knows user.id user.username := by
  obtain ⟨seen, seenMem, sameId, sameName, _⟩ := vouched
  rw [← sameId, ← sameName]
  exact backs.seen seen seenMem

/-- A driver who may be written back has a profile. -/
theorem Backs.profile {user : User} (backs : Backs store route note)
    (vouched : note.Vouches user) (role : user.role = .driver) :
    (store.drivers.find user.id).isSome = true := by
  obtain ⟨seen, seenMem, sameId, _, driving⟩ := vouched
  rcases driving role with seenRole | stored
  · rw [← sameId]
    exact backs.driving seen seenMem seenRole
  · exact backs.profiles user.id stored

/-- The call stores no user and no profile. -/
def Call.leavesAccounts : Call → Bool
  | .userSave _ => false
  | .driverMerge _ => false
  | _ => true

/-- What a call does to the tables does not depend on the request that makes it. -/
theorem routing_follows {awaited : Call} {reply : Except Fault (Value awaited)}
    (request : Request)
    (answered : (routing P rideRequestLimitPerMinute).answer pid broken awaited before =
      some (reply, after)) :
    Follows before after ⟨pid, request, awaited, reply⟩ :=
  answer_follows answered

/-- A failed call, and any call but a save, leaves users and profiles alone. -/
theorem accounts_same {awaited : Call} {reply : Except Fault (Value awaited)}
    (leaves : (∃ fault, reply = .error fault) ∨ awaited.leavesAccounts = true)
    (answered : (routing P rideRequestLimitPerMinute).answer pid broken awaited before =
      some (reply, after)) :
    after.users.toKeyedTable = before.users.toKeyedTable ∧ after.drivers = before.drivers := by
  have follows := routing_follows (.goOffline "") answered
  have unsaved : Entry.savedUser ⟨pid, .goOffline "", awaited, reply⟩ = none ∧
      Entry.savedDriver ⟨pid, .goOffline "", awaited, reply⟩ = none := by
    rcases leaves with ⟨fault, rfl⟩ | leaves
    · exact ⟨rfl, rfl⟩
    · cases reply <;> cases awaited <;> first | exact ⟨rfl, rfl⟩ | cases leaves
  have users := follows.users
  have drivers := follows.drivers
  rw [unsaved.1] at users
  rw [unsaved.2] at drivers
  exact ⟨users, drivers⟩

/-- A user who is stored after a call was stored before it, or by it. -/
theorem stored_before {awaited : Call} {reply : Except Fault (Value awaited)} {user : User}
    (answered : (routing P rideRequestLimitPerMinute).answer pid broken awaited before =
      some (reply, after)) (stored : user ∈ after.users.rows) :
    user ∈ before.users.rows ∨ awaited = .userSave user := by
  have users := (routing_follows (.goOffline "") answered).users
  cases saved : Entry.savedUser ⟨pid, .goOffline "", awaited, reply⟩ with
  | none =>
      rw [saved] at users
      rw [users] at stored
      exact Or.inl stored
  | some other =>
      rw [saved] at users
      rw [users] at stored
      rcases KeyedTable.mem_rows_save.mp stored with rfl | ⟨old, _⟩
      · exact Or.inr (Entry.call_of_savedUser saved)
      · exact Or.inl old

/-- Profiles that were stored before a call are stored after it. -/
theorem profile_after {awaited : Call} {reply : Except Fault (Value awaited)} {userId : String}
    (answered : (routing P rideRequestLimitPerMinute).answer pid broken awaited before =
      some (reply, after)) (row : (before.drivers.find userId).isSome = true) :
    (after.drivers.find userId).isSome = true :=
  (routing_follows (.goOffline "") answered).keeps_driver row

/-- The identifiers drawn for a request that has stored no user are new. -/
def Unstored (store : Store) (route : Route) (note : Dealings) : Prop :=
  note.saved = false → ∀ newId ∈ route.draws, store.users.find newId = none

/-- A user is stored under the name that its identifier has always had. -/
theorem Backs.named {user old : User} (backs : Backs store route note)
    (unstored : Unstored store route note) (allowed : note.allows route (.userSave user))
    (stored : old ∈ store.users.rows) (same : old.id = user.id) :
    old.username = user.username := by
  rcases allowed with ⟨unsaved, drawn, _⟩ | vouched
  · have absent := unstored unsaved user.id drawn
    rw [← same, KeyedTable.mem_rows_iff_find.mp stored] at absent
    cases absent
  · have known := backs.knows vouched
    rw [← same] at known
    exact known.username_eq stored

theorem Backs.extends {awaited : Call} {reply : Except Fault (Value awaited)}
    (backs : Backs before route note) (unstored : Unstored before route note)
    (allowed : note.allows route awaited)
    (answered : (routing P rideRequestLimitPerMinute).answer pid broken awaited before =
      some (reply, after)) : before.Extends after := by
  constructor
  · intro old stored
    have users := (routing_follows (.goOffline "") answered).users
    rw [Store.Knows, users]
    cases saved : Entry.savedUser ⟨pid, .goOffline "", awaited, reply⟩ with
    | none => exact ⟨old, stored, rfl, rfl⟩
    | some user =>
        obtain rfl : awaited = .userSave user := Entry.call_of_savedUser saved
        by_cases same : old.id = user.id
        · exact ⟨user, KeyedTable.mem_rows_save.mpr (Or.inl rfl), same.symm,
            (backs.named unstored allowed stored same).symm⟩
        · exact ⟨old, KeyedTable.mem_rows_save.mpr (Or.inr ⟨stored, same⟩), rfl, rfl⟩
  · intro userId row
    exact profile_after answered row

/-- Nobody becomes a driver without a profile. -/
theorem Backs.driversHaveProfiles {awaited : Call} {reply : Except Fault (Value awaited)}
    (backs : Backs before route note) (allowed : note.allows route awaited)
    (answered : (routing P rideRequestLimitPerMinute).answer pid broken awaited before =
      some (reply, after)) (profiled : before.DriversHaveProfiles) :
    after.DriversHaveProfiles := by
  intro user stored role
  apply profile_after answered
  rcases stored_before answered stored with old | rfl
  · exact profiled user old role
  · rcases allowed with ⟨_, _, rider⟩ | vouched
    · rw [role] at rider
      cases rider
    · exact backs.profile vouched role

/-- An identifier drawn for another request is not stored. -/
theorem Backs.absent {awaited : Call} {reply : Except Fault (Value awaited)} {newId : String}
    (backs : Backs before route note) (allowed : note.allows route awaited)
    (answered : (routing P rideRequestLimitPerMinute).answer pid broken awaited before =
      some (reply, after)) (foreign : newId ∉ route.draws)
    (absent : before.users.find newId = none) : after.users.find newId = none := by
  cases found : after.users.find newId with
  | none => rfl
  | some user =>
      obtain ⟨stored, rfl⟩ := KeyedTable.find_eq_some_iff.mp found
      rcases stored_before answered stored with old | rfl
      · rw [KeyedTable.mem_rows_iff_find.mp old] at absent
        cases absent
      · rcases allowed with ⟨_, drawn, _⟩ | vouched
        · exact absurd drawn foreign
        · exact absurd absent (backs.knows vouched).find_ne_none

/-- Behind a driver's guard the profile that is looked for is there. -/
theorem Backs.admitted {userId : String} (backs : Backs store route note)
    (admitted : note.Admits route userId) : (store.drivers.find userId).isSome = true := by
  obtain ⟨token, presented, role, user, seen, named, rfl⟩ := admitted
  have known := backs.seen user seen
  rw [named] at known
  exact known.profile (backs.presented token presented role)

theorem after_error (note : Dealings) (awaited : Call) (fault : Fault) :
    note.after awaited (.error fault) = note := by
  cases awaited <;> rfl

/-- A row that has been read adds to what the request knows. -/
theorem Backs.reads {user : User} (backs : Backs store route note)
    (profiled : store.DriversHaveProfiles) (stored : user ∈ store.users.rows) :
    Backs store route { note with users := user :: note.users } where
  seen := by
    simp only [List.mem_cons, forall_eq_or_imp]
    exact ⟨⟨user, stored, rfl, rfl⟩, backs.seen⟩
  driving := by
    simp only [List.mem_cons, forall_eq_or_imp]
    exact ⟨profiled user stored, backs.driving⟩
  profiles := backs.profiles
  presented := backs.presented
  found := backs.found

/-- Behind a driver's guard no profile is looked for in vain. -/
theorem Backs.finds {userId : String} (backs : Backs before route note)
    (required : route.endpoint.requiredRole = some .driver)
    (allowed : note.allows route (.driverFindById userId)) :
    (routing P rideRequestLimitPerMinute).answer pid broken (.driverFindById userId) before ≠
      some (.ok none, after) := by
  intro answered
  have row := backs.admitted (allowed required)
  have absent : before.drivers.find userId = none := driverFindById_found answered
  rw [absent] at row
  cases row

theorem unsaved_before {awaited : Call} {value : Value awaited}
    (unsaved : (note.after awaited (.ok value)).saved = false) :
    note.saved = false ∧ ∀ user, awaited ≠ .userSave user := by
  cases awaited with
  | userSave user => cases unsaved
  | userFindById userId => cases value <;> exact ⟨unsaved, by simp⟩
  | userFindByUsername username => cases value <;> exact ⟨unsaved, by simp⟩
  | driverFindById userId => cases value <;> exact ⟨unsaved, by simp⟩
  | _ => exact ⟨unsaved, by simp⟩

/-- A request that has not stored a user has left the users alone. -/
theorem Unstored.after_call {awaited : Call} {reply : Except Fault (Value awaited)}
    (unstored : Unstored before route note)
    (answered : (routing P rideRequestLimitPerMinute).answer pid broken awaited before =
      some (reply, after)) : Unstored after route (note.after awaited reply) := by
  intro unsaved newId drawn
  cases reply with
  | error fault =>
      rw [after_error] at unsaved
      rw [(accounts_same (Or.inl ⟨fault, rfl⟩) answered).1]
      exact unstored unsaved newId drawn
  | ok value =>
      obtain ⟨unsavedBefore, notSaving⟩ := unsaved_before unsaved
      have absent := unstored unsavedBefore newId drawn
      rw [KeyedTable.find_eq_none_iff] at absent ⊢
      intro mem
      obtain ⟨user, stored, rfl⟩ := List.mem_map.mp mem
      rcases stored_before answered stored with old | saving
      · exact absent (List.mem_map_of_mem old)
      · exact notSaving user saving

/-- What a request learns from a reply is so. -/
theorem Backs.learns {awaited : Call} {reply : Except Fault (Value awaited)}
    (backs : Backs before route note) (grown : before.Extends after)
    (profiled : before.DriversHaveProfiles) (allowed : note.allows route awaited)
    (answered : (routing P rideRequestLimitPerMinute).answer pid broken awaited before =
      some (reply, after)) : Backs after route (note.after awaited reply) := by
  have kept := backs.mono grown
  cases reply with
  | error fault =>
      rw [after_error]
      exact kept
  | ok value =>
      cases awaited with
      | userFindById userId =>
          cases value with
          | none => exact kept
          | some user =>
              have found : before.users.find userId = some user :=
                userFindById_found answered
              have stored := (KeyedTable.find_eq_some_iff.mp found).1
              exact (backs.reads profiled stored).mono grown
      | userFindByUsername username =>
          cases value with
          | none => exact kept
          | some user =>
              have stored : user ∈ before.users.rows :=
                (userFindByUsername_found answered).1
              exact (backs.reads profiled stored).mono grown
      | driverFindById userId =>
          cases value with
          | some driver => exact kept
          | none =>
              exact { kept with
                found := fun required => absurd answered (backs.finds required allowed) }
      | driverMerge driver =>
          refine { kept with profiles := ?_ }
          have drivers := (routing_follows (.goOffline "") answered).drivers
          have row : (after.drivers.find driver.userId).isSome = true := by
            rw [drivers]
            exact Option.isSome_iff_exists.mpr
              ⟨driver, KeyedTable.find_save_self before.drivers driver⟩
          intro userId mem
          rcases List.mem_cons.mp mem with rfl | older
          · exact row
          · exact kept.profiles userId older
      | userSave user =>
          exact ⟨kept.seen, kept.driving, kept.profiles, kept.presented, kept.found⟩
      | _ => exact kept

end Calls

/-! ## Runs -/

/-- What a request has learned and done so far. -/
def dealingsOf (pool : RoutingPool) (pid : Nat) (route : Route) : Dealings :=
  (dealing route).noteOf pid pool.world.log

/-- Users, profiles and what the requests know fit together, and reads have told what
is still so. -/
structure Consistent (pool : RoutingPool) : Prop where
  profiled : pool.world.state.DriversHaveProfiles
  backs : ∀ {pid route}, pool.requests[pid]? = some route →
    Backs pool.world.state route (dealingsOf pool pid route)
  unstored : ∀ {pid route}, pool.requests[pid]? = some route →
    Unstored pool.world.state route (dealingsOf pool pid route)
  apart : ∀ {pid other : Nat} {route otherRoute : Route}, pool.requests[pid]? = some route →
    pool.requests[other]? = some otherRoute → pid ≠ other →
      ∀ newId ∈ route.draws, newId ∉ otherRoute.draws
  logged : ∀ entry ∈ pool.world.log, pool.requests[entry.pid]? = some entry.request
  resolved : ∀ pid route username user,
    (⟨pid, route, .userFindByUsername username, .ok (some user)⟩ :
      Entry Value Fault Route) ∈ pool.world.log → pool.world.state.Knows user.id username
  found : ∀ pid route userId, route.endpoint.requiredRole = some .driver →
    (⟨pid, route, .driverFindById userId, .ok none⟩ : Entry Value Fault Route) ∉
      pool.world.log

/-- Every task is watched by its monitor. -/
abbrev Watched (pool : RoutingPool) : Prop :=
  ∀ route, (dealing route).Followed (fun request => request = route)
    (fun _ => CallMonitor.Leaves (fun response note =>
      ∀ token, response.issued = some token → note.Grants token) Dealings.Excuses) pool

section Runs

variable {P : Platform} {rideRequestLimitPerMinute : Nat} {init : Store}
variable {pool pool' : RoutingPool} {event : RoutingEvent} {events : List RoutingEvent}

theorem Consistent.advance {pid : Nat} {broken : Option Fault}
    (consistent : Consistent pool) (watched : Watched pool)
    (advanced : (routing P rideRequestLimitPerMinute).advance pool pid broken = some pool') :
    Consistent pool' ∧ pool.world.state.Extends pool'.world.state := by
  have requests := (routing P rideRequestLimitPerMinute).requests_advance advanced
  obtain ⟨route, awaited, resume, reply, after, task, answered, rfl⟩ :=
    (routing P rideRequestLimitPerMinute).advance_eq_some advanced
  have allowed := (watched route).allows task rfl
  have own : pool.requests[pid]? = some route :=
    Pool.request_of_task task
  have backs := consistent.backs own
  have grown := backs.extends (consistent.unstored own) allowed answered
  have learns := backs.learns grown consistent.profiled allowed answered
  refine ⟨?_, grown⟩
  constructor
  · exact backs.driversHaveProfiles allowed answered consistent.profiled
  · intro other otherRoute there
    rw [requests] at there
    by_cases same : pid = other
    · subst same
      obtain rfl : route = otherRoute := Option.some.inj (own.symm.trans there)
      simp only [dealingsOf, CallMonitor.noteOf, if_true]
      exact learns
    · simp only [dealingsOf, CallMonitor.noteOf, if_neg same]
      exact (consistent.backs there).mono grown
  · intro other otherRoute there unsaved newId drawn
    rw [requests] at there
    by_cases same : pid = other
    · subst same
      obtain rfl : route = otherRoute := Option.some.inj (own.symm.trans there)
      simp only [dealingsOf, CallMonitor.noteOf, if_true] at unsaved
      exact (consistent.unstored own).after_call answered unsaved newId drawn
    · simp only [dealingsOf, CallMonitor.noteOf, if_neg same] at unsaved
      have foreign := consistent.apart there own (Ne.symm same) newId drawn
      exact backs.absent allowed answered foreign
        (consistent.unstored there unsaved newId drawn)
  · intro first second firstRoute secondRoute there here
    rw [requests] at there here
    exact consistent.apart there here
  · intro entry mem
    rw [requests]
    rcases List.mem_cons.mp mem with rfl | older
    · exact own
    · exact consistent.logged entry older
  · intro reader readerRoute username user mem
    rcases List.mem_cons.mp mem with same | older
    · cases same
      obtain ⟨stored, rfl⟩ : user ∈ pool.world.state.users.rows ∧ user.username = username :=
        userFindByUsername_found answered
      exact grown.users user stored
    · exact grown.knows (consistent.resolved reader readerRoute username user older)
  · intro reader readerRoute userId required mem
    rcases List.mem_cons.mp mem with same | older
    · cases same
      exact backs.finds required allowed answered
    · exact consistent.found reader readerRoute userId required older

theorem Backs.grants {store : Store} {route : Route} {note : Dealings} {token : Token}
    (backs : Backs store route note) (granted : note.Grants token)
    (role : token.role = .driver) : store.HasProfile token.username := by
  obtain ⟨seen, seenMem, named, driving⟩ := granted role
  have row : (store.drivers.find seen.id).isSome = true := by
    rcases driving with seenRole | stored
    · exact backs.driving seen seenMem seenRole
    · exact backs.profiles seen.id stored
  obtain ⟨user, stored, sameId, sameName⟩ := backs.seen seen seenMem
  rw [← sameId] at row
  exact ⟨user, stored, sameName.trans named, row⟩

/-- A token for the driver's mode names a user with a profile. -/
theorem Consistent.issued {token : Token} (consistent : Consistent pool)
    (watched : Watched pool) (issued : token ∈ issuedTokens pool)
    (role : token.role = .driver) : pool.world.state.HasProfile token.username := by
  obtain ⟨⟨route, rest⟩, taskMem, given⟩ := List.mem_filterMap.mp issued
  obtain ⟨pid, task⟩ := List.mem_iff_getElem?.mp taskMem
  have own : pool.requests[pid]? = some route :=
    Pool.request_of_task task
  cases rest with
  | await awaited resume => cases given
  | done outcome =>
      cases outcome with
      | error failure => cases given
      | ok response =>
          have granted := (watched route).tasks task rfl token given
          exact (consistent.backs own).grants granted role

theorem Routing.next_machine
    (moved : Routing.next P rideRequestLimitPerMinute pool event = some pool') :
    (routing P rideRequestLimitPerMinute).next pool event = some pool' ∧
      ∀ route, event = .spawn route →
        ∀ token, route.token = some token → token ∈ issuedTokens pool := by
  cases event with
  | spawn route =>
      simp only [Routing.next] at moved
      split at moved
      · rename_i presented
        refine ⟨moved, ?_⟩
        rintro _ ⟨⟩ token given
        rw [given, Option.all_some] at presented
        exact of_decide_eq_true presented
      · cases moved
  | _ => exact ⟨moved, fun _ same => by cases same⟩

/-- A request begins without having learned anything. -/
theorem Consistent.dealings_fresh (consistent : Consistent pool) (route : Route) :
    dealingsOf pool pool.requests.length route = {} := by
  apply CallMonitor.noteOf_fresh
  intro entry mem same
  have bound := (List.getElem?_eq_some_iff.mp (consistent.logged entry mem)).1
  omega

/-- The identifiers that a request draws are new when it begins. -/
theorem drawn_of_admits {route : Route} {newId : String}
    (admitted : (routing P rideRequestLimitPerMinute).admits pool route = true)
    (drawn : newId ∈ route.draws) :
    pool.world.state.users.find newId = none ∧
      ∀ (pid : Nat) (other : Route), pool.requests[pid]? = some other →
        newId ∉ other.draws := by
  simp only [Machine.admits, List.all_eq_true, Bool.and_eq_true, decide_eq_true_eq]
    at admitted
  obtain ⟨unused, foreign⟩ := admitted newId drawn
  constructor
  · simp only [routing, Store.unused, Bool.and_eq_true, Option.isNone_iff_eq_none] at unused
    exact unused.1.2
  · intro pid other there
    exact foreign other (List.mem_of_getElem? there)

theorem Consistent.spawn {route : Route} (consistent : Consistent pool)
    (watched : Watched pool)
    (moved : Routing.next P rideRequestLimitPerMinute pool (.spawn route) = some pool') :
    Consistent pool' ∧ pool.world.state.Extends pool'.world.state := by
  obtain ⟨begun, presented⟩ := Routing.next_machine moved
  have admitted : (routing P rideRequestLimitPerMinute).admits pool route = true := by
    simp only [Machine.next] at begun
    split at begun
    · assumption
    · cases begun
  obtain rfl := (routing P rideRequestLimitPerMinute).next_spawn begun
  have requests : (Pool.mk pool.world (pool.tasks ++
      [⟨route, (routing P rideRequestLimitPerMinute).program route⟩])).requests =
        pool.requests ++ [route] := by
    simp [Pool.requests]
  refine ⟨?_, Store.Extends.refl _⟩
  constructor
  · exact consistent.profiled
  · intro pid other there
    rw [requests] at there
    rcases getElem?_concat_cases there with earlier | ⟨rfl, rfl⟩
    · exact consistent.backs earlier
    · have fresh := consistent.dealings_fresh other
      simp only [dealingsOf] at fresh ⊢
      rw [fresh]
      refine ⟨by simp, by simp, by simp, ?_, fun _ => rfl⟩
      intro token given role
      exact consistent.issued watched (presented other rfl token given) role
  · intro pid other there
    rw [requests] at there
    rcases getElem?_concat_cases there with earlier | ⟨rfl, rfl⟩
    · exact consistent.unstored earlier
    · intro _ newId drawn
      exact (drawn_of_admits admitted drawn).1
  · intro first second firstRoute secondRoute there here apart newId drawn
    rw [requests] at there here
    rcases getElem?_concat_cases there with earlier | ⟨rfl, rfl⟩
    · rcases getElem?_concat_cases here with later | ⟨rfl, rfl⟩
      · exact consistent.apart earlier later apart newId drawn
      · intro drawnAgain
        exact (drawn_of_admits admitted drawnAgain).2 first firstRoute earlier drawn
    · rcases getElem?_concat_cases here with later | ⟨rfl, rfl⟩
      · exact (drawn_of_admits admitted drawn).2 second secondRoute later
      · exact absurd rfl apart
  · intro entry mem
    rw [requests, List.getElem?_append_left]
    · exact consistent.logged entry mem
    · exact (List.getElem?_eq_some_iff.mp (consistent.logged entry mem)).1
  · exact consistent.resolved
  · exact consistent.found

theorem Consistent.next (consistent : Consistent pool) (watched : Watched pool)
    (moved : Routing.next P rideRequestLimitPerMinute pool event = some pool') :
    Consistent pool' ∧ pool.world.state.Extends pool'.world.state := by
  cases event with
  | spawn route => exact consistent.spawn watched moved
  | step pid => exact consistent.advance watched moved
  | fault pid fault => exact consistent.advance watched moved
  | ambient elapsed =>
      cases moved
      have grown : pool.world.state.Extends
          { pool.world.state with clock := pool.world.state.clock + elapsed } :=
        extends_of_same rfl rfl
      refine ⟨?_, grown⟩
      exact {
        profiled := consistent.profiled
        backs := fun there => (consistent.backs there).mono grown
        unstored := consistent.unstored
        apart := consistent.apart
        logged := consistent.logged
        resolved := consistent.resolved
        found := consistent.found }

theorem consistent_start (profiled : init.DriversHaveProfiles) :
    Consistent (Pool.start init) := by
  constructor
  · exact profiled
  all_goals simp [Pool.start, Pool.requests]

theorem dealings_answers {pid : Nat} {broken : Option Fault} {awaited : Call}
    {before after : Store} {reply : Except Fault (Value awaited)}
    (answered : (routing P rideRequestLimitPerMinute).answer pid broken awaited before =
      some (reply, after)) : Dealings.answers awaited reply := by
  cases reply with
  | error fault => cases awaited <;> trivial
  | ok value =>
      cases awaited with
      | userFindByUsername username =>
          cases value with
          | none => trivial
          | some user =>
              have named : user.username = username := (userFindByUsername_found answered).2
              exact named
      | _ => trivial

theorem Routing.run_machine
    (ran : Routing.run P rideRequestLimitPerMinute pool events = some pool') :
    (routing P rideRequestLimitPerMinute).run pool events = some pool' := by
  induction events generalizing pool with
  | nil => exact ran
  | cons event events ih =>
      rw [Routing.run, runSteps_cons, Option.bind_eq_some_iff] at ran
      obtain ⟨middle, moved, rest⟩ := ran
      rw [Machine.run, runSteps_cons, (Routing.next_machine moved).1]
      exact ih rest

theorem watched_of_run
    (ran : Routing.run P rideRequestLimitPerMinute (Pool.start init) events = some pool) :
    Watched pool := by
  intro route
  apply CallMonitor.followed_of_run dealings_answers ?_ (Routing.run_machine ran)
  rintro _ rfl
  exact route_deals rideRequestLimitPerMinute _

theorem consistent_of_run (profiled : init.DriversHaveProfiles)
    (ran : Routing.run P rideRequestLimitPerMinute (Pool.start init) events = some pool) :
    Consistent pool := by
  apply runSteps_reached (consistent_start profiled) ?_ ran
  intro before middle event next ranBefore moved consistent
  exact (consistent.next (watched_of_run ranBefore) moved).1

/-- Users keep their names and profiles stay in every run. -/
theorem extends_of_run {later : List RoutingEvent} {final : RoutingPool}
    (profiled : init.DriversHaveProfiles)
    (ran : Routing.run P rideRequestLimitPerMinute (Pool.start init) events = some pool)
    (ranLater : Routing.run P rideRequestLimitPerMinute pool later = some final) :
    pool.world.state.Extends final.world.state := by
  apply @runSteps_reached _ _ (Routing.next P rideRequestLimitPerMinute)
    (fun reached => pool.world.state.Extends reached.world.state) pool final later
    (Store.Extends.refl _) ?_ ranLater
  intro before middle event next ranBefore moved grown
  have ranMiddle : Routing.run P rideRequestLimitPerMinute (Pool.start init)
      (events ++ before) = some middle := by
    rw [Routing.run, runSteps_append]
    rw [Routing.run] at ran
    rw [ran]
    exact ranBefore
  exact grown.trans ((consistent_of_run profiled ranMiddle).next
    (watched_of_run ranMiddle) moved).2

/-- A token for the driver's mode names, from the moment that it is issued, a user with
a profile.  Hence a request with such a token is served for a user with a profile, and
behind a driver's guard no profile is missing and no request complains of it. -/
theorem driver_mode_has_profile (profiled : init.DriversHaveProfiles)
    (ran : Routing.run P rideRequestLimitPerMinute (Pool.start init) events = some pool) :
    (∀ token ∈ issuedTokens pool, token.role = .driver →
      ∀ later final, Routing.run P rideRequestLimitPerMinute pool later = some final →
        final.world.state.HasProfile token.username) ∧
    (∀ pid route token user, route.token = some token → .driver ∈ token.authorities →
      (⟨pid, route, .userFindByUsername token.username, .ok (some user)⟩ :
        Entry Value Fault Route) ∈ pool.world.log →
          (pool.world.state.drivers.find user.id).isSome = true) ∧
    (∀ pid route userId, route.endpoint.requiredRole = some .driver →
      (⟨pid, route, .driverFindById userId, .ok none⟩ : Entry Value Fault Route) ∉
        pool.world.log) ∧
    ∀ pid route failure, route.endpoint.requiredRole = some .driver →
      pool.ended? pid = some (route, .error failure) → ¬ failure.LacksProfile := by
  have consistent := consistent_of_run profiled ran
  have watched := watched_of_run ran
  refine ⟨?_, ?_, consistent.found, ?_⟩
  · intro token issued role later final ranLater
    exact (extends_of_run profiled ran ranLater).hasProfile
      (consistent.issued watched issued role)
  · intro pid route token user given held read
    have own := consistent.logged _ read
    have known := consistent.resolved pid route token.username user read
    exact known.profile ((consistent.backs own).presented token given
      (role_of_authorities held))
  · intro pid route failure required ended lacks
    have task := Pool.ended?_eq_some ended
    have own : pool.requests[pid]? = some route :=
    Pool.request_of_task task
    have missed : (dealingsOf pool pid route).missed = true :=
      (watched route).ended ended rfl lacks
    rw [(consistent.backs own).found required] at missed
    cases missed

end Runs

namespace SmallCity

/-- Run a schedule of routed requests from the opening of the city. -/
def playRoutes (events : List RoutingEvent) : Option RoutingPool :=
  Routing.run platform 5 (Pool.start store) events

/-- Ann signs in, registers as a driver and asks for her profile. -/
def annBecomesDriver : List RoutingEvent :=
  [.spawn ⟨none, .login "ip" "ann" "apple"⟩, .step 0, .step 0,
    .spawn ⟨some ⟨"ann", .rider⟩, .driverRegister "sedan" "K3"⟩,
    .step 1, .step 1, .step 1, .step 1, .step 1,
    .spawn ⟨some ⟨"ann", .driver⟩, .driverProfile⟩, .step 2, .step 2]

theorem annBecomesDriver_has_profile :
    ∃ pool, playRoutes annBecomesDriver = some pool ∧
      ⟨"ann", .driver⟩ ∈ issuedTokens pool ∧ pool.world.state.HasProfile "ann" ∧
      ∀ failure, pool.ended? 2 = some (⟨some ⟨"ann", .driver⟩, .driverProfile⟩,
        .error failure) → ¬ failure.LacksProfile := by
  obtain ⟨pool, played, checked⟩ := Option.map_eq_some_iff.mp
    (by decide +kernel : (playRoutes annBecomesDriver).map (fun pool =>
      decide (⟨"ann", .driver⟩ ∈ issuedTokens pool)) = some true)
  have issued : (⟨"ann", .driver⟩ : Token) ∈ issuedTokens pool := of_decide_eq_true checked
  have profiled : store.DriversHaveProfiles := by
    unfold Store.DriversHaveProfiles
    decide
  obtain ⟨named, _, _, excused⟩ := driver_mode_has_profile profiled played
  exact ⟨pool, played, issued, named _ issued rfl [] pool rfl,
    fun failure => excused 2 _ failure rfl⟩

end SmallCity

end RideHailing
