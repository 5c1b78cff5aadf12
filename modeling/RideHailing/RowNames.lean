import RideHailing.RequestGuarantees

/-!
# Identifiers of rides and of users

Rides and users are inserted under identifiers that no row has and no other request has
drawn.  So a ride never has the identifier of a user, and a key of the event streams
means either the one or the other.
-/

namespace RideHailing

variable {P : Platform} {init : Store} {log : History} {pool : ApplicationPool}

/-- The identifier of the ride that a request inserts. -/
def Request.newRide : Request → Option String
  | .requestRide newId _ _ _ _ _ _ => some newId
  | _ => none

/-- The identifier of the user that a request inserts. -/
def Request.newUser : Request → Option String
  | .authRegister _ _ _ newId _ => some newId
  | _ => none

theorem drawn_of_newRide {request : Request} {rideId : String}
    (inserts : request.newRide = some rideId) :
    rideId ∈ request.draws ∧ request.newUser = none := by
  cases request <;> cases inserts
  exact ⟨List.mem_singleton_self rideId, rfl⟩

theorem drawn_of_newUser {request : Request} {userId : String}
    (inserts : request.newUser = some userId) : userId ∈ request.draws := by
  cases request <;> cases inserts
  exact List.mem_singleton_self userId

/-- A ride was there from the start, or some request has inserted it. -/
theorem ride_inserted {rideId : String} {ride : Ride} (lawful : Lawful (law init) log)
    (ever : EverRide init rideId log ride) :
    init.rides.find rideId ≠ none ∨ ∃ entry ∈ log, entry.request.newRide = some rideId := by
  induction log generalizing ride with
  | nil =>
      rcases ever with fromInit | ⟨_, absurdMem, _⟩
      · exact Or.inl (by simp [fromInit])
      · cases absurdMem
  | cons entry older ih =>
      have earlier : ∀ {seen : Ride}, EverRide init rideId older seen →
          init.rides.find rideId ≠ none ∨
            ∃ other ∈ entry :: older, other.request.newRide = some rideId := by
        intro seen everSeen
        rcases ih lawful.2 everSeen with fromInit | ⟨other, otherMem, inserts⟩
        · exact Or.inl fromInit
        · exact Or.inr ⟨other, List.mem_cons_of_mem entry otherMem, inserts⟩
      rcases ever_cons.mp ever with saved | before
      · rcases law_rideAt lawful.1 saved with ⟨_, inserts, _⟩ | ⟨_, _, read, _⟩
        · right
          refine ⟨entry, List.mem_cons_self, ?_⟩
          obtain ⟨_, sameId⟩ := Entry.rideAt_eq_some.mp saved
          generalize entry.request = request at inserts
          cases request with
          | requestRide newId now riderId pickupLat pickupLng dropoffLat dropoffLng =>
              cases inserts
              rw [← sameId]
              rfl
          | _ => cases inserts
        · exact earlier (everRide_of_seen read)
      · exact earlier before

/-- A user was there from the start, or some request has inserted it. -/
theorem user_inserted {userId : String} {user : User} (lawful : Lawful (law init) log)
    (ever : EverUser init userId log user) :
    init.users.find userId ≠ none ∨ ∃ entry ∈ log, entry.request.newUser = some userId := by
  induction log generalizing user with
  | nil =>
      rcases ever with fromInit | ⟨_, absurdMem, _⟩
      · exact Or.inl (by simp [fromInit])
      · cases absurdMem
  | cons entry older ih =>
      have earlier : ∀ {seen : User}, EverUser init userId older seen →
          init.users.find userId ≠ none ∨
            ∃ other ∈ entry :: older, other.request.newUser = some userId := by
        intro seen everSeen
        rcases ih lawful.2 everSeen with fromInit | ⟨other, otherMem, inserts⟩
        · exact Or.inl fromInit
        · exact Or.inr ⟨other, List.mem_cons_of_mem entry otherMem, inserts⟩
      rcases ever_cons.mp ever with saved | before
      · obtain ⟨savedUser, rfl⟩ := Entry.userAt_eq_some.mp saved
        have userLaw := law_savedUser lawful.1 savedUser
        cases requestEq : entry.request with
        | authRegister clientIp username password newId salt =>
            simp only [UserLaw, requestEq] at userLaw
            right
            refine ⟨entry, List.mem_cons_self, ?_⟩
            rw [requestEq, userLaw.1]
            rfl
        | driverRegister username vehicleType licensePlate =>
            simp only [UserLaw, requestEq] at userLaw
            obtain ⟨seen, read, _, _⟩ := userLaw
            exact earlier (everUser_of_seen read)
        | rate rideId fromUserId score comment newId now =>
            simp only [UserLaw, requestEq] at userLaw
            obtain ⟨_, _, seen, read, _⟩ := userLaw
            exact earlier (everUser_of_seen read)
        | _ => simp only [UserLaw, requestEq] at userLaw
      · exact earlier before

/-- What a request has drawn was no identifier of a row at the start. -/
theorem drawn_new {events : List ApplicationEvent} (unlocked : init.acceptLock = none)
    (ran : (application P).run (Pool.start init) events = some pool) :
    ∀ request ∈ pool.requests, ∀ token ∈ request.draws,
      init.rides.find token = none ∧ init.users.find token = none := by
  apply runSteps_reached ?_ ?_ ran
  · intro request requestMem
    cases requestMem
  · intro before middle event next ranBefore moved drawn
    rcases (application P).next_cases moved with ⟨request, rfl, rfl⟩ |
      ⟨pid, broken, advanced⟩ | ⟨elapsed, rfl, rfl⟩
    · have described : Describes init middle.world := (reached_valid unlocked ranBefore).good.1
      simp only [Machine.next] at moved
      split at moved
      · rename_i admitted
        intro other otherMem token tokenMem
        simp only [Pool.requests, List.map_append, List.mem_append, List.map_cons,
          List.map_nil, List.mem_singleton] at otherMem
        rcases otherMem with old | rfl
        · exact drawn other old token tokenMem
        · have fresh := List.all_eq_true.mp admitted token tokenMem
          have unused : middle.world.state.unused token = true :=
            (Bool.and_eq_true_iff.mp fresh).1
          simp only [Store.unused, Bool.and_eq_true, Option.isNone_iff_eq_none] at unused
          obtain ⟨⟨noRide, noUser⟩, -⟩ := unused
          rw [described.rides] at noRide
          rw [described.users] at noUser
          have older : ∀ {β : Type} {change : HistoryEntry → Option β} {base : Option β},
              latest change base middle.world.log = none → base = none := by
            intro β change base absent
            by_contra stored
            have stays := @latest_append_ne_none _ _ change base middle.world.log [] stored
            rw [List.append_nil] at stays
            exact stays absent
          exact ⟨older noRide, older noUser⟩
      · cases moved
    · have same := (application P).requests_advance advanced
      rw [same]
      exact drawn
    · exact drawn

/-- No ride has the identifier of a user, if none had one at the start. -/
theorem rides_apart_of_run {events : List ApplicationEvent} (unlocked : init.acceptLock = none)
    (apart : ∀ name, init.rides.find name ≠ none → init.users.find name = none)
    (ran : (application P).run (Pool.start init) events = some pool) (name : String)
    (isRide : pool.world.state.rides.find name ≠ none) :
    pool.world.state.users.find name = none := by
  have valid := reached_valid unlocked ran
  have described : Describes init pool.world := valid.good.1
  have lawful : Lawful (law init) pool.world.log := valid.good.2
  by_contra isUser
  rw [described.rides] at isRide
  rw [described.users] at isUser
  obtain ⟨ride, storedRide⟩ := Option.ne_none_iff_exists'.mp isRide
  obtain ⟨user, storedUser⟩ := Option.ne_none_iff_exists'.mp isUser
  have requestOf : ∀ entry ∈ pool.world.log, entry.request ∈ pool.requests :=
    fun entry entryMem => List.mem_of_getElem? (valid.owned entry entryMem)
  rcases ride_inserted lawful (ever_of_latest storedRide) with
    rideStart | ⟨rides, ridesMem, newRide⟩
  · rcases user_inserted lawful (ever_of_latest storedUser) with
      userStart | ⟨users, usersMem, newUser⟩
    · exact userStart (apart name rideStart)
    · exact rideStart
        (drawn_new unlocked ran _ (requestOf users usersMem) name (drawn_of_newUser newUser)).1
  · obtain ⟨drawnRide, noUser⟩ := drawn_of_newRide newRide
    rcases user_inserted lawful (ever_of_latest storedUser) with
      userStart | ⟨users, usersMem, newUser⟩
    · exact userStart (drawn_new unlocked ran _ (requestOf rides ridesMem) name drawnRide).2
    · have different : rides.pid ≠ users.pid := by
        intro samePid
        have sameRequest := valid.oneRequestEach rides ridesMem users usersMem samePid
        rw [sameRequest, newUser] at noUser
        cases noUser
      exact valid.apart different (valid.owned rides ridesMem) (valid.owned users usersMem)
        name drawnRide (drawn_of_newUser newUser)

end RideHailing
