import RideHailing.Application
import RideHailing.CallMonitors
import RideHailing.KeyedQuotas

/-!
# The throttling of sign-in attempts

`routers/auth.py` keys the limiter by the client address that it reads from a request.  The
requests to register and to sign in run interleaved, each with the headers that its client
sends, and the limiter opens windows of fixed length for every key.
-/

namespace RideHailing

namespace Auth

/-- What `_client_ip` sees of a request: the headers in the order of their lines, their names
in lower case as the server passes them on, and the host of the peer. -/
structure HttpRequest where
  headers : List (String × String)
  client : Option String
deriving DecidableEq, Repr

/-- `request.headers.get(name)`. -/
def HttpRequest.header (request : HttpRequest) (name : String) : Option String :=
  (request.headers.find? fun line => decide (line.1 = name.toLower)).map Prod.snd

/-- `str.isspace` of one character. -/
def isSpace (letter : Char) : Bool :=
  decide (letter.toNat ∈ [32, 0x85, 0xA0, 0x1680, 0x2028, 0x2029, 0x202F, 0x205F, 0x3000]) ||
    decide (9 ≤ letter.toNat ∧ letter.toNat ≤ 13) ||
    decide (28 ≤ letter.toNat ∧ letter.toNat ≤ 31) ||
    decide (0x2000 ≤ letter.toNat ∧ letter.toNat ≤ 0x200A)

/-- `str.strip`. -/
def strip (letters : List Char) : List Char :=
  ((letters.dropWhile isSpace).reverse.dropWhile isSpace).reverse

/-- `_client_ip`. -/
def clientIp (request : HttpRequest) : String :=
  match request.header "X-Forwarded-For" with
  | some forwarded =>
      if forwarded ≠ "" then
        String.ofList (strip (forwarded.toList.takeWhile fun letter => decide (letter ≠ ',')))
      else request.client.getD "unknown"
  | none => request.client.getD "unknown"

/-- The first entry of `X-Forwarded-For`, unless the header is missing or empty. -/
def HttpRequest.forwardedFor (request : HttpRequest) : Option String :=
  ((request.header "X-Forwarded-For").filter fun forwarded => decide (forwarded ≠ "")).map
    fun forwarded =>
      String.ofList (strip (forwarded.toList.takeWhile fun letter => decide (letter ≠ ',')))

theorem clientIp_eq (request : HttpRequest) :
    clientIp request = request.forwardedFor.getD (request.client.getD "unknown") := by
  unfold clientIp HttpRequest.forwardedFor
  cases request.header "X-Forwarded-For" with
  | none => rfl
  | some forwarded =>
      by_cases empty : forwarded = ""
      · subst empty
        rfl
      · simp [empty, Option.filter]

/-- `POST /auth/register` and `POST /auth/login`. -/
inductive Attempt where
  | register (http : HttpRequest) (username password newId salt : String)
  | login (http : HttpRequest) (username password : String)
deriving DecidableEq, Repr

namespace Attempt

def http : Attempt → HttpRequest
  | .register http _ _ _ _ => http
  | .login http _ _ => http

/-- The key of the limiter. -/
def address (attempt : Attempt) : String :=
  clientIp attempt.http

/-- The request of the application that the route makes of an attempt. -/
def request : Attempt → Request
  | .register http username password newId salt =>
      .authRegister (clientIp http) username password newId salt
  | .login http username password => .login (clientIp http) username password

end Attempt

/-- Attempts that run interleaved on the application's store. -/
def attempts (P : Platform) : Machine Value Fault Store Attempt Outcome String Nat where
  program := fun attempt => handler P attempt.request
  perform := P.perform
  breakable := breakable
  draws := fun attempt => attempt.request.draws
  unused := Store.unused
  ambient := fun elapsed store => { store with clock := store.clock + elapsed }

abbrev AttemptPool := Pool Value Fault Store Attempt Outcome

abbrev AttemptEvent := Event Fault Attempt Nat

abbrev AttemptEntry := RideHailing.Entry Value Fault Attempt

/-- The attempt to which the limiter has replied. -/
def askedBy : AttemptEntry → Option Attempt
  | ⟨_, attempt, .limiterHit _ _ _, .ok _⟩ => some attempt
  | _ => none

/-- The attempt that the limiter has let past. -/
def admittedBy : AttemptEntry → Option Attempt
  | ⟨_, attempt, .limiterHit _ _ _, .ok true⟩ => some attempt
  | _ => none

/-- The attempts that have come to the limiter so far, the newest first. -/
def asked (pool : AttemptPool) : List Attempt :=
  pool.world.log.filterMap askedBy

/-- The attempts that have got past the limiter, the newest first. -/
def admitted (pool : AttemptPool) : List Attempt :=
  pool.world.log.filterMap admittedBy

def windowSeconds : Nat := 15 * 60

/-- The moments at which attempts of this address were let past before. -/
def hitsOf (P : Platform) (store : Store) (address : String) : List Nat :=
  store.hitsOf P.authAttemptsLimitPer15Min windowSeconds address

/-! ## Windows -/

/-- The limiter counts a key's hits in windows, and it admits a hit while fewer than its
capacity have been admitted since the window of this moment was opened. -/
structure FixedWindow (P : Platform) (opened : Nat → List Nat → Nat → Nat) : Prop where
  past : ∀ seconds hits now, opened seconds hits now ≤ now
  admits : ∀ capacity seconds hits now, P.admitsHit capacity seconds hits now =
    decide ((hits.countP fun hit => decide (opened seconds hits now ≤ hit)) < capacity)

/-- An attempt that comes to the limiter at this step falls into the window of its address that
was opened at the given moment. -/
def InWindow (P : Platform) (opened : Nat → List Nat → Nat → Nat) (start : String → Nat)
    (pool : AttemptPool) (_ : AttemptEvent) (next : AttemptPool) : Prop :=
  ∀ attempt, asked next = attempt :: asked pool →
    opened windowSeconds (hitsOf P pool.world.state attempt.address) pool.world.state.clock =
      start attempt.address

/-- The hits of the address in its window. -/
def hitsInWindow (P : Platform) (start : String → Nat) (store : Store) (address : String) : Nat :=
  (hitsOf P store address).countP fun hit => decide (start address ≤ hit)

/-- What the window of the address has room for. -/
def roomIn (P : Platform) (start : String → Nat) (store : Store) (address : String) : Nat :=
  P.authAttemptsLimitPer15Min - hitsInWindow P start store address

/-! ## What one attempt does -/

inductive AttemptNote where
  | asking
  | admitted
  | refused

/-- An attempt asks the limiter under its address; if it is let past, it goes on without asking
again. -/
def attempting (P : Platform) (attempt : Attempt) : CallMonitor Value Fault AttemptNote where
  start := .asking
  allows
    | .asking, call =>
        call = .limiterHit P.authAttemptsLimitPer15Min windowSeconds attempt.address
    | .admitted, call => ∀ capacity seconds key, call ≠ .limiterHit capacity seconds key
    | .refused, _ => False
  answers := fun _ _ => True
  after
    | .asking, .limiterHit _ _ _, .ok true => .admitted
    | .asking, _, _ => .refused
    | note, _, _ => note

theorem attempting_handler (P : Platform) (attempt : Attempt) :
    (attempting P attempt).Watches (handler P attempt.request) (fun _ _ => True) .asking := by
  cases attempt with
  | register http username password newId salt =>
      refine ⟨rfl, fun reply _ => ?_⟩
      rcases reply with fault | allowed
      · trivial
      · cases allowed with
        | false => trivial
        | true =>
            refine ⟨fun _ _ _ same => (by cases same), fun reply _ => ?_⟩
            rcases reply with fault | present
            · trivial
            · cases present with
              | true => trivial
              | false =>
                  refine ⟨fun _ _ _ same => (by cases same), fun reply _ => ?_⟩
                  cases reply <;> trivial
  | login http username password =>
      refine ⟨rfl, fun reply _ => ?_⟩
      rcases reply with fault | allowed
      · trivial
      · cases allowed with
        | false => trivial
        | true =>
            refine ⟨fun _ _ _ same => (by cases same), fun reply _ => ?_⟩
            rcases reply with fault | found
            · trivial
            · cases found with
              | none => trivial
              | some user =>
                  cases checked : P.checkPassword password user.passwordHash <;>
                    simp only [AwaitProgram.bind, Action.andThen_ok, checked] <;> trivial

variable {P : Platform} {store : Store} {events : List AttemptEvent} {pool next : AttemptPool}

theorem attempting_of_run (attempt : Attempt)
    (ran : (attempts P).run (Pool.start store) events = some pool) :
    (attempting P attempt).Followed (· = attempt) (fun _ _ _ => True) pool :=
  CallMonitor.followed_of_run (fun _ => trivial)
    (by
      rintro attempt rfl
      exact attempting_handler P attempt) ran

/-! ## What a step does to the limiter -/

/-- An attempt is let past and counted, or it is refused, or the limiter is not asked. -/
inductive LimiterStep (P : Platform) (before : World Value Fault Store Attempt) (pid : Nat) :
    World Value Fault Store Attempt → Prop where
  | admitted (attempt : Attempt) (room : P.admitsHit P.authAttemptsLimitPer15Min windowSeconds
        (hitsOf P before.state attempt.address) before.state.clock = true) :
      LimiterStep P before pid ⟨{ before.state with
          limiterHits := ⟨P.authAttemptsLimitPer15Min, windowSeconds, attempt.address,
            before.state.clock⟩ :: before.state.limiterHits },
        ⟨pid, attempt, .limiterHit P.authAttemptsLimitPer15Min windowSeconds attempt.address,
          .ok true⟩ :: before.log⟩
  | refused (attempt : Attempt) (full : P.admitsHit P.authAttemptsLimitPer15Min windowSeconds
        (hitsOf P before.state attempt.address) before.state.clock = false) :
      LimiterStep P before pid ⟨before.state,
        ⟨pid, attempt, .limiterHit P.authAttemptsLimitPer15Min windowSeconds attempt.address,
          .ok false⟩ :: before.log⟩
  | elsewhere (entry : AttemptEntry) (state : Store) (unasked : askedBy entry = none)
      (unadmitted : admittedBy entry = none)
      (hits : state.limiterHits = before.state.limiterHits) :
      LimiterStep P before pid ⟨state, entry :: before.log⟩

theorem advance_cases {pid : Nat} {broken : Option Fault}
    (ran : (attempts P).run (Pool.start store) events = some pool)
    (advanced : (attempts P).advance pool pid broken = some next) :
    LimiterStep P pool.world pid next.world := by
  obtain ⟨attempt, call, resume, reply, state, found, answered, rfl⟩ :=
    (attempts P).advance_eq_some advanced
  cases broken with
  | some fault =>
      obtain ⟨_, rfl, rfl⟩ := Machine.answer_broken answered
      exact .elsewhere _ _ (by cases call <;> rfl) (by cases call <;> rfl) rfl
  | none =>
      have allowed := (attempting_of_run attempt ran).allows found rfl
      have performed : P.perform pid call pool.world.state = some (reply, state) := answered
      cases call with
      | limiterHit capacity seconds key =>
          obtain ⟨rfl, rfl, rfl⟩ : capacity = P.authAttemptsLimitPer15Min ∧
              seconds = windowSeconds ∧ key = attempt.address := by
            cases note : (attempting P attempt).noteOf pid pool.world.log <;>
              simp_all [attempting]
          simp only [Platform.perform] at performed
          split at performed
          · rename_i room
            cases performed
            exact .admitted attempt room
          · rename_i full
            cases performed
            exact .refused attempt (by simpa [hitsOf] using full)
      | _ =>
          refine .elsewhere _ _ rfl rfl ?_
          rcases perform_cases performed with rfl | change
          · rfl
          · cases change <;> rfl

/-! ## Counting in the windows -/

variable {opened : Nat → List Nat → Nat → Nat} {start : String → Nat}

/-- Since the run began the hits of every window are the attempts let past, and these are the
attempts for which the windows had room. -/
structure Counted (P : Platform) (start : String → Nat) (store : Store) (pool : AttemptPool) :
    Prop where
  hits : ∀ address, hitsInWindow P start pool.world.state address =
    hitsInWindow P start store address + ((admitted pool).map Attempt.address).count address
  passed : (admitted pool).map Attempt.address =
    Quota.passed (roomIn P start store) ((asked pool).map Attempt.address)

theorem Counted.same (counted : Counted P start store pool)
    (hits : next.world.state.limiterHits = pool.world.state.limiterHits)
    (sameAsked : asked next = asked pool) (sameAdmitted : admitted next = admitted pool) :
    Counted P start store next := by
  constructor
  · intro address
    rw [sameAdmitted, ← counted.hits address]
    simp only [hitsInWindow, hitsOf, Store.hitsOf, hits]
  · rw [sameAsked, sameAdmitted, counted.passed]

/-- In its window an attempt is let past while there is room left for its address. -/
theorem Counted.admits_iff (counted : Counted P start store pool) (fixed : FixedWindow P opened)
    {attempt : Attempt} (inWindow : opened windowSeconds
      (hitsOf P pool.world.state attempt.address) pool.world.state.clock = start attempt.address) :
    P.admitsHit P.authAttemptsLimitPer15Min windowSeconds
        (hitsOf P pool.world.state attempt.address) pool.world.state.clock = true ↔
      (Quota.passed (roomIn P start store) ((asked pool).map Attempt.address)).count
        attempt.address < roomIn P start store attempt.address := by
  have hits := counted.hits attempt.address
  rw [hitsInWindow] at hits
  rw [fixed.admits, inWindow, decide_eq_true_iff, hits, ← counted.passed, roomIn]
  omega

/-- A hit in its window is one more of its address. -/
theorem hitsInWindow_cons {attempt : Attempt} (late : start attempt.address ≤ store.clock)
    (address : String) :
    hitsInWindow P start { store with
        limiterHits := ⟨P.authAttemptsLimitPer15Min, windowSeconds, attempt.address,
          store.clock⟩ :: store.limiterHits } address =
      hitsInWindow P start store address + if attempt.address = address then 1 else 0 := by
  simp only [hitsInWindow, hitsOf, Store.hitsOf, List.filter_cons]
  by_cases same : attempt.address = address
  · subst same
    simp [late]
  · simp [same]

theorem Counted.advance {pid : Nat} {broken : Option Fault}
    (counted : Counted P start store pool) (fixed : FixedWindow P opened)
    (inWindow : ∀ attempt, asked next = attempt :: asked pool → opened windowSeconds
      (hitsOf P pool.world.state attempt.address) pool.world.state.clock = start attempt.address)
    (ran : (attempts P).run (Pool.start store) events = some pool)
    (advanced : (attempts P).advance pool pid broken = some next) :
    Counted P start store next := by
  have limiterStep := advance_cases ran advanced
  generalize world : next.world = after at limiterStep
  cases limiterStep with
  | admitted attempt room =>
      have askedNext : asked next = attempt :: asked pool := by
        rw [asked, world]
        rfl
      have admittedNext : admitted next = attempt :: admitted pool := by
        rw [admitted, world]
        rfl
      have opening := inWindow attempt askedNext
      constructor
      · intro address
        have late : start attempt.address ≤ pool.world.state.clock :=
          opening ▸ fixed.past windowSeconds _ _
        rw [world, admittedNext, hitsInWindow_cons late, counted.hits address, List.map_cons,
          List.count_cons, Nat.add_assoc]
        simp only [beq_iff_eq]
      · rw [askedNext, admittedNext, List.map_cons, List.map_cons, Quota.passed,
          if_pos ((counted.admits_iff fixed opening).mp room), counted.passed]
  | refused attempt full =>
      have askedNext : asked next = attempt :: asked pool := by
        rw [asked, world]
        rfl
      have admittedNext : admitted next = admitted pool := by
        rw [admitted, world]
        rfl
      have opening := inWindow attempt askedNext
      have noRoom : ¬ _ := fun room =>
        Bool.false_ne_true (full.symm.trans ((counted.admits_iff fixed opening).mpr room))
      constructor
      · intro address
        rw [admittedNext, world]
        exact counted.hits address
      · rw [askedNext, admittedNext, List.map_cons, Quota.passed, if_neg noRoom, counted.passed]
  | elsewhere entry state unasked unadmitted hits =>
      apply counted.same
      · rw [world]
        exact hits
      · rw [asked, world, List.filterMap_cons, unasked]
        rfl
      · rw [admitted, world, List.filterMap_cons, unadmitted]
        rfl

theorem counted_of_run (fixed : FixedWindow P opened)
    (within : EveryStep (attempts P).next (InWindow P opened start) (Pool.start store) events)
    (ran : (attempts P).run (Pool.start store) events = some pool) :
    Counted P start store pool := by
  have always : Always (attempts P).next (Counted P start store) (Pool.start store) events := by
    refine always_of_everyStep ?_ ?_ within
    · exact ⟨fun _ => rfl, rfl⟩
    · intro before event after middle next _ ranBefore moved counted inWindow
      rcases (attempts P).next_cases moved with
        ⟨_, _, rfl⟩ | ⟨pid, broken, advanced⟩ | ⟨_, _, rfl⟩
      · exact counted.same rfl rfl rfl
      · exact counted.advance fixed inWindow ranBefore advanced
      · exact counted.same rfl rfl rfl
  exact always events [] pool (List.append_nil events).symm ran

theorem admitted_le (fixed : FixedWindow P opened)
    (ran : (attempts P).run (Pool.start store) events = some pool)
    (within : EveryStep (attempts P).next (InWindow P opened start) (Pool.start store) events)
    (fewOrAlike :
      Quota.FewOrAlike P.authAttemptsLimitPer15Min ((asked pool).map Attempt.address)) :
    (admitted pool).length ≤ P.authAttemptsLimitPer15Min := by
  have counted := counted_of_run fixed within ran
  rw [← List.length_map Attempt.address, counted.passed]
  have small : ∀ address, roomIn P start store address ≤ P.authAttemptsLimitPer15Min :=
    fun address => Nat.sub_le _ _
  exact Quota.length_passed_le small fewOrAlike

/-- Attempts that all fall into one window of every address they use: no more than the limit
get past the limiter if no more come to it, or if all of them have the same address.  Where
nothing has been counted in the windows before, this is so only then. -/
theorem attempts_throttled_iff (fixed : FixedWindow P opened)
    (ran : (attempts P).run (Pool.start store) events = some pool)
    (within : EveryStep (attempts P).next (InWindow P opened start) (Pool.start store) events) :
    (Quota.FewOrAlike P.authAttemptsLimitPer15Min ((asked pool).map Attempt.address) →
        (admitted pool).length ≤ P.authAttemptsLimitPer15Min) ∧
      ((∀ attempt ∈ asked pool, hitsInWindow P start store attempt.address = 0) →
        ((admitted pool).length ≤ P.authAttemptsLimitPer15Min ↔
          Quota.FewOrAlike P.authAttemptsLimitPer15Min ((asked pool).map Attempt.address))) := by
  have few := admitted_le fixed ran within
  refine ⟨few, fun fresh => ⟨?_, few⟩⟩
  have counted := counted_of_run fixed within ran
  rw [← List.length_map Attempt.address, counted.passed]
  apply Quota.fewOrAlike_of_length_passed_le
  intro address addressMem
  obtain ⟨attempt, attemptMem, rfl⟩ := List.mem_map.mp addressMem
  rw [roomIn, fresh attempt attemptMem, Nat.sub_zero]

/-- The attempts of one peer whose `X-Forwarded-For` headers begin with the same entry, or are
missing or empty, are throttled. -/
theorem peer_throttled (fixed : FixedWindow P opened)
    (ran : (attempts P).run (Pool.start store) events = some pool)
    (within : EveryStep (attempts P).next (InWindow P opened start) (Pool.start store) events)
    {client forwarded : Option String}
    (samePeer : ∀ attempt ∈ asked pool, attempt.http.client = client)
    (sameEntry : ∀ attempt ∈ asked pool, attempt.http.forwardedFor = forwarded) :
    (admitted pool).length ≤ P.authAttemptsLimitPer15Min := by
  apply admitted_le fixed ran within
  have same : ∀ address ∈ (asked pool).map Attempt.address,
      address = forwarded.getD (client.getD "unknown") := by
    intro address addressMem
    obtain ⟨attempt, attemptMem, rfl⟩ := List.mem_map.mp addressMem
    rw [Attempt.address, clientIp_eq, samePeer attempt attemptMem, sameEntry attempt attemptMem]
  exact Or.inr (Or.inl fun first firstMem second secondMem =>
    (same first firstMem).trans (same second secondMem).symm)

/-! ## Guesses from one peer -/

/-- A guess of the password of `ann`, sent by one peer with these headers. -/
def guess (headers : List (String × String)) : Attempt :=
  .login ⟨headers, some "203.0.113.9"⟩ "ann" "guess"

/-- Each attempt comes and asks the limiter. -/
def asking (attempts : List Attempt) : List AttemptEvent :=
  attempts.map .spawn ++ (List.range attempts.length).map .step

/-- Eleven guesses without headers of their own. -/
def plainGuesses : List Attempt :=
  List.replicate 11 (guess [])

/-- Eleven guesses, each with another address in its header. -/
def forwardedGuesses : List Attempt :=
  (List.range 11).map fun index => guess [("x-forwarded-for", "10.0.0." ++ toString index)]

theorem smallCity_fixedWindow : FixedWindow SmallCity.platform fun _ _ _ => 0 where
  past := fun _ _ now => Nat.zero_le now
  admits := by
    intro capacity seconds hits now
    simp [SmallCity.platform]

theorem smallCity_within (events : List AttemptEvent) :
    EveryStep (attempts SmallCity.platform).next
      (InWindow SmallCity.platform (fun _ _ _ => 0) fun _ => 0)
      (Pool.start SmallCity.store) events :=
  fun _ _ _ _ _ _ _ _ _ _ => rfl

theorem attempts_throttled_iff_of_plain : ∃ pool,
    (attempts SmallCity.platform).run (Pool.start SmallCity.store) (asking plainGuesses) =
        some pool ∧
      (asked pool).length = 11 ∧ (admitted pool).length ≤ 10 := by
  have ran : ((attempts SmallCity.platform).run (Pool.start SmallCity.store)
      (asking plainGuesses)).map asked = some (plainGuesses.reverse) := by
    decide +kernel
  obtain ⟨pool, ran, came⟩ := Option.map_eq_some_iff.mp ran
  refine ⟨pool, ran, by rw [came]; rfl, ?_⟩
  apply (attempts_throttled_iff smallCity_fixedWindow ran (smallCity_within _)).1
  rw [came]
  exact Or.inr (Or.inl (by decide +kernel))

/-- A peer that sends another forwarded address each time gets past the limiter each time. -/
theorem attempts_unthrottled :
    FixedWindow SmallCity.platform (fun _ _ _ => 0) ∧
      EveryStep (attempts SmallCity.platform).next
        (InWindow SmallCity.platform (fun _ _ _ => 0) fun _ => 0)
        (Pool.start SmallCity.store) (asking forwardedGuesses) ∧
      ∃ pool, (attempts SmallCity.platform).run (Pool.start SmallCity.store)
          (asking forwardedGuesses) = some pool ∧
        (∀ attempt ∈ pool.requests, attempt.http.client = some "203.0.113.9") ∧
        SmallCity.platform.authAttemptsLimitPer15Min < (admitted pool).length := by
  refine ⟨smallCity_fixedWindow, smallCity_within _, ?_⟩
  have ran : ((attempts SmallCity.platform).run (Pool.start SmallCity.store)
      (asking forwardedGuesses)).map (fun pool => (pool.requests, admitted pool)) =
        some (forwardedGuesses, forwardedGuesses.reverse) := by
    decide +kernel
  obtain ⟨pool, ran, seen⟩ := Option.map_eq_some_iff.mp ran
  obtain ⟨came, past⟩ := Prod.mk.inj seen
  refine ⟨pool, ran, ?_, ?_⟩
  · rw [came]
    decide +kernel
  · rw [past]
    decide +kernel

end Auth

end RideHailing
