import RideHailing.CallMonitors
import RideHailing.DecimalText
import RideHailing.SurgeSupply

/-!
# The surge cache

`SurgeCache` and `PricingService.get_surge_multiplier` of `pricing.py`, down to the strings
that Redis holds.  Any number of calls may be under way at once, and time passes between their
steps.  A key disappears half a minute after it has last been set, and reading it does not
change that.
-/

namespace RideHailing

open Service

/-- The commands of the surge cache. -/
inductive RedisCall where
  | get (key : String)
  | set (key value : String) (ex : Nat)

@[reducible]
def RedisValue : RedisCall → Type
  | .get _ => Option String
  | .set _ _ _ => Unit

/-- A string key and the moment at which it disappears. -/
structure RedisEntry where
  key : String
  value : String
  expiresAt : Nat
deriving DecidableEq, Repr

/-- The string keys of Redis and its clock, in milliseconds. -/
structure Redis where
  entries : KeyedTable RedisEntry.key
  clock : Nat

namespace Redis

/-- The value of a key that has not yet expired. -/
def live (redis : Redis) (key : String) : Option String :=
  (redis.entries.find key).bind fun entry =>
    if redis.clock < entry.expiresAt then some entry.value else none

def perform : (call : RedisCall) → Redis → Option (Except Fault (RedisValue call) × Redis)
  | .get key, redis => some (.ok (redis.live key), redis)
  | .set key value ex, redis =>
      some (.ok (), { redis with
        entries := redis.entries.save ⟨key, value, redis.clock + 1000 * ex⟩ })

end Redis

abbrev CacheService : Type → Type :=
  Action RedisCall RedisValue Fault Failure

/-! ## `SurgeCache` and the service over it -/

namespace SurgeCache

/-- `get_redis_client().get(key)` and the like. -/
def command (call : RedisCall) : CacheService (RedisValue call) :=
  Action.perform Failure.fault call

/-- A decimal computation; without a result it raises. -/
def decimal : Option Decimal → CacheService Decimal
  | some value => pure value
  | none => Action.raise (.exception "InvalidOperation")

def get (key : String) : CacheService (Option Decimal) := do
  match ← command (.get key) with
  | none => return none
  | some cached => return some (← decimal (Decimal.ofText cached))

def set (key : String) (value : Decimal) (ttlSeconds : Nat) : CacheService Unit :=
  command (.set key value.toText ttlSeconds)

/-- The arguments of one call of `get_surge_multiplier`. -/
structure Query where
  lat : Float64
  lng : Float64
  pendingRides : Nat
  availableDrivers : Nat
deriving DecidableEq, Repr

/-- `surge_grid_key` of the pickup. -/
def Query.key (query : Query) : String :=
  Pricing.surgeGridKey query.lat query.lng

/-- `compute_surge_multiplier` of the counts. -/
def Query.computed (query : Query) : Option Decimal :=
  Pricing.computeSurgeMultiplier query.pendingRides query.availableDrivers

def getSurgeMultiplier (query : Query) : CacheService Decimal := do
  match ← get query.key with
  | some cached => return cached
  | none =>
      let multiplier ← decimal query.computed
      set query.key multiplier Pricing.surgeTtlSeconds
      return multiplier

/-- Concurrent calls over one Redis. -/
def pricing : Machine RedisValue Fault Redis Query (Except Failure Decimal) Unit Nat where
  program := getSurgeMultiplier
  perform := fun _ => Redis.perform
  breakable := fun _ fault => decide (fault = .outage)
  draws := fun _ => []
  unused := fun _ _ => true
  ambient := fun elapsed redis => { redis with clock := redis.clock + elapsed }

abbrev CachePool := Pool RedisValue Fault Redis Query (Except Failure Decimal)

abbrev CacheEvent := Event Fault Query Nat

/-- An empty cache and no calls yet. -/
def opened (clock : Nat) : CachePool :=
  Pool.start ⟨KeyedTable.empty, clock⟩

/-- At this step of the run the call of this query has set its key to its own multiplier. -/
def SetAt (clock : Nat) (events : List CacheEvent) (query : Query) (multiplier : Decimal)
    (moment : Nat) : Prop :=
  ∃ earlier event later pid pool next, events = earlier ++ event :: later ∧
    pricing.run (opened clock) earlier = some pool ∧ pricing.next pool event = some next ∧
      next.world.log = ⟨pid, query,
        .set query.key multiplier.toText Pricing.surgeTtlSeconds, .ok ()⟩ :: pool.world.log ∧
        query.computed = some multiplier ∧ pool.world.state.clock = moment

/-! ## What one call does -/

/-- How far a call has come. -/
inductive CacheNote where
  | asking
  | missed
  | served (text : String)
  | stored
  | failed

/-- A call reads its key, and if nothing is cached it sets the key to its own multiplier. -/
def caching (query : Query) : CallMonitor RedisValue Fault CacheNote where
  start := .asking
  allows
    | .asking, call => call = .get query.key
    | .missed, call => ∃ multiplier, query.computed = some multiplier ∧
        call = .set query.key multiplier.toText Pricing.surgeTtlSeconds
    | _, _ => False
  answers := fun _ _ => True
  after
    | _, .get _, .ok (some text) => .served text
    | _, .get _, .ok none => .missed
    | _, .set _ _ _, .ok _ => .stored
    | _, _, .error _ => .failed

/-- What a call returns is what it read or what it has stored. -/
def Returns (query : Query) : Except Failure Decimal → CacheNote → Prop
  | .ok multiplier, .served text => Decimal.ofText text = some multiplier
  | .ok multiplier, .stored => query.computed = some multiplier
  | .ok _, _ => False
  | .error _, _ => True

theorem exists_computed (query : Query) : ∃ multiplier, query.computed = some multiplier := by
  obtain ⟨multiplier, _, computed, _⟩ :=
    Pricing.computeSurgeMultiplier_bounds query.pendingRides query.availableDrivers
  exact ⟨multiplier, computed⟩

theorem caching_getSurgeMultiplier (query : Query) :
    (caching query).Watches (getSurgeMultiplier query) (Returns query) .asking := by
  refine ⟨rfl, fun reply _ => ?_⟩
  cases reply with
  | error fault => trivial
  | ok found =>
      cases found with
      | none =>
          obtain ⟨multiplier, computed⟩ := exists_computed query
          simp only [computed]
          refine ⟨⟨multiplier, computed, rfl⟩, fun reply _ => ?_⟩
          cases reply with
          | error fault => trivial
          | ok _ => exact computed
      | some text =>
          cases read : Decimal.ofText text with
          | none =>
              simp only [AwaitProgram.bind, Action.andThen_ok, read]
              trivial
          | some multiplier =>
              simp only [AwaitProgram.bind, Action.andThen_ok, read]
              exact read

theorem caching_of_run {clock : Nat} {events : List CacheEvent} {pool : CachePool} (query : Query)
    (ran : pricing.run (opened clock) events = some pool) :
    (caching query).Followed (· = query) Returns pool :=
  CallMonitor.followed_of_run (fun _ => trivial)
    (by
      rintro query rfl
      exact caching_getSurgeMultiplier query) ran

/-! ## What a step does to the cache -/

variable {clock : Nat} {events : List CacheEvent} {pool next : CachePool}

/-- The entry that a query makes at this moment. -/
def Query.entry (query : Query) (multiplier : Decimal) (moment : Nat) : RedisEntry :=
  ⟨query.key, multiplier.toText, moment + 1000 * Pricing.surgeTtlSeconds⟩

/-- A call reads its key, or its command breaks, or it sets its key to its own multiplier. -/
inductive CacheStep (pid : Nat) (query : Query) (world : World RedisValue Fault Redis Query) :
    World RedisValue Fault Redis Query → Prop where
  | read : CacheStep pid query world ⟨world.state,
      ⟨pid, query, .get query.key, .ok (world.state.live query.key)⟩ :: world.log⟩
  | broken (call : RedisCall) (fault : Fault) : CacheStep pid query world ⟨world.state,
      ⟨pid, query, call, .error fault⟩ :: world.log⟩
  | stored (multiplier : Decimal) (computed : query.computed = some multiplier) :
      CacheStep pid query world ⟨{ world.state with
          entries := world.state.entries.save (query.entry multiplier world.state.clock) },
        ⟨pid, query, .set query.key multiplier.toText Pricing.surgeTtlSeconds, .ok ()⟩ ::
          world.log⟩

theorem advance_cases {pid : Nat} {broken : Option Fault}
    (ran : pricing.run (opened clock) events = some pool)
    (advanced : pricing.advance pool pid broken = some next) :
    ∃ query, next.requests[pid]? = some query ∧ CacheStep pid query pool.world next.world := by
  have same := pricing.requests_advance advanced
  obtain ⟨query, call, resume, reply, redis, found, answered, rfl⟩ :=
    pricing.advance_eq_some advanced
  have request : pool.requests[pid]? = some query := pool.request_of_task found
  refine ⟨query, by rw [same, request], ?_⟩
  cases broken with
  | some fault =>
      obtain ⟨_, rfl, rfl⟩ := Machine.answer_broken answered
      exact .broken call fault
  | none =>
      have allowed := (caching_of_run query ran).allows found rfl
      cases call with
      | get key =>
          have key_eq : key = query.key := by
            cases note : (caching query).noteOf pid pool.world.log <;>
              simp_all [caching]
          subst key_eq
          cases answered
          exact .read
      | set key value ex =>
          obtain ⟨multiplier, computed, rfl, rfl, rfl⟩ : ∃ multiplier,
              query.computed = some multiplier ∧ key = query.key ∧ value = multiplier.toText ∧
                ex = Pricing.surgeTtlSeconds := by
            cases note : (caching query).noteOf pid pool.world.log <;>
              simp_all [caching]
          cases answered
          exact .stored multiplier computed

/-! ## Where the entries come from -/

theorem SetAt.computed {query : Query} {multiplier : Decimal} {moment : Nat}
    (set : SetAt clock events query multiplier moment) : query.computed = some multiplier := by
  obtain ⟨_, _, _, _, _, _, _, _, _, _, computed, _⟩ := set
  exact computed

theorem SetAt.snoc {query : Query} {multiplier : Decimal} {moment : Nat}
    (set : SetAt clock events query multiplier moment) (event : CacheEvent) :
    SetAt clock (events ++ [event]) query multiplier moment := by
  obtain ⟨earlier, setting, later, pid, pool, next, rfl, rest⟩ := set
  refine ⟨earlier, setting, later ++ [event], pid, pool, next, ?_, rest⟩
  rw [List.append_assoc, List.cons_append]

/-- Every entry has been made by a call of its cell, from the counts of that call. -/
def Traced (clock : Nat) (events : List CacheEvent) (pool : CachePool) : Prop :=
  ∀ entry ∈ pool.world.state.entries.rows, ∃ query multiplier moment,
    SetAt clock events query multiplier moment ∧ moment ≤ pool.world.state.clock ∧
      entry = query.entry multiplier moment

theorem Traced.mono {event : CacheEvent} (traced : Traced clock events pool)
    (entries : next.world.state.entries = pool.world.state.entries)
    (later : pool.world.state.clock ≤ next.world.state.clock) :
    Traced clock (events ++ [event]) next := by
  intro entry inside
  rw [entries] at inside
  obtain ⟨query, multiplier, moment, set, past, rfl⟩ := traced entry inside
  exact ⟨query, multiplier, moment, set.snoc event, past.trans later, rfl⟩

theorem Traced.advance {pid : Nat} {broken : Option Fault} {event : CacheEvent}
    (traced : Traced clock events pool) (ran : pricing.run (opened clock) events = some pool)
    (moved : pricing.next pool event = some next)
    (advanced : pricing.advance pool pid broken = some next) :
    Traced clock (events ++ [event]) next := by
  obtain ⟨query, _, cacheStep⟩ := advance_cases ran advanced
  generalize world : next.world = after at cacheStep
  cases cacheStep with
  | read => exact traced.mono (by rw [world]) (by rw [world])
  | broken call fault => exact traced.mono (by rw [world]) (by rw [world])
  | stored multiplier computed =>
      intro entry inside
      rw [world] at inside ⊢
      rcases KeyedTable.mem_rows_save.mp inside with rfl | ⟨older, _⟩
      · exact ⟨query, multiplier, pool.world.state.clock,
          ⟨events, event, [], pid, pool, next, rfl, ran, moved, by rw [world], computed, rfl⟩,
          le_rfl, rfl⟩
      · obtain ⟨setter, earlier, moment, set, past, rfl⟩ := traced entry older
        exact ⟨setter, earlier, moment, set.snoc event, past, rfl⟩

theorem traced_of_run (ran : pricing.run (opened clock) events = some pool) :
    Traced clock events pool := by
  apply runSteps_along ?_ ?_ ran
  · intro entry inside
    cases inside
  · intro before middle event next ranBefore moved traced
    rcases pricing.next_cases moved with
      ⟨_, _, rfl⟩ | ⟨pid, broken, advanced⟩ | ⟨elapsed, _, rfl⟩
    · exact traced.mono rfl le_rfl
    · exact traced.advance ranBefore moved advanced
    · exact traced.mono rfl (Nat.le_add_right _ elapsed)

/-! ## What is served -/

/-- A value that is live has been set less than half a minute before by a call of the cell. -/
theorem setAt_of_live {key text : String} (traced : Traced clock events pool)
    (live : pool.world.state.live key = some text) :
    ∃ query multiplier moment, query.key = key ∧ multiplier.toText = text ∧
      SetAt clock events query multiplier moment ∧ moment ≤ pool.world.state.clock ∧
        pool.world.state.clock < moment + 1000 * Pricing.surgeTtlSeconds := by
  rw [Redis.live, Option.bind_eq_some_iff] at live
  obtain ⟨entry, found, unexpired⟩ := live
  split at unexpired
  · rename_i early
    cases unexpired
    have sameKey : entry.key = key := KeyedTable.key_of_find found
    have inside := KeyedTable.mem_rows_iff_find.mpr (sameKey.symm ▸ found)
    obtain ⟨query, multiplier, moment, set, past, rfl⟩ := traced entry inside
    exact ⟨query, multiplier, moment, sameKey, rfl, set, past, early⟩
  · cases unexpired

/-- What a call returns at a step is what it read at that step, or its own multiplier, which it
has set at that step. -/
theorem returned_cases {event : CacheEvent} {pid : Nat} {query : Query} {multiplier : Decimal}
    (ran : pricing.run (opened clock) events = some pool)
    (moved : pricing.next pool event = some next) (running : pool.ended? pid = none)
    (returned : next.ended? pid = some (query, .ok multiplier)) :
    SetAt clock (events ++ [event]) query multiplier pool.world.state.clock ∨
      (next.world.state = pool.world.state ∧ ∃ text,
        pool.world.state.live query.key = some text ∧ Decimal.ofText text = some multiplier) := by
  have ranNext : pricing.run (opened clock) (events ++ [event]) = some next := by
    rw [Machine.run, runSteps_append, Option.bind_eq_some_iff]
    refine ⟨pool, ran, ?_⟩
    rw [runSteps_cons, moved]
    rfl
  obtain ⟨broken, advanced⟩ : ∃ broken, pricing.advance pool pid broken = some next :=
    (Machine.ends_by_advance moved running returned).resolve_right fun done => by cases done
  obtain ⟨requested, request, cacheStep⟩ := advance_cases ran advanced
  obtain rfl : requested = query :=
    Option.some.inj (request.symm.trans (next.request_of_task (Pool.ended?_eq_some returned)))
  have returns := (caching_of_run requested ranNext).ended returned rfl
  generalize world : next.world = after at cacheStep returns
  cases cacheStep with
  | read =>
      rw [CallMonitor.noteOf, if_pos rfl] at returns
      cases live : pool.world.state.live requested.key with
      | none =>
          rw [live] at returns
          cases returns
      | some text =>
          rw [live] at returns
          exact Or.inr ⟨rfl, text, rfl, returns⟩
  | broken call fault =>
      rw [CallMonitor.noteOf, if_pos rfl] at returns
      cases call <;> cases returns
  | stored own computed =>
      rw [CallMonitor.noteOf, if_pos rfl] at returns
      have stored : requested.computed = some multiplier := returns
      obtain rfl : own = multiplier := Option.some.inj (computed.symm.trans stored)
      exact Or.inl ⟨events, event, [], pid, pool, next, rfl, ran, moved, by rw [world],
        computed, rfl⟩

/-- Every multiplier that a call returns, whatever other calls are under way, lies between one
and three.  It is computed from the counts of the call, which has just set it, or it is the very
decimal that a call of the same cell computed from its own counts and set less than half a
minute before; and serving it leaves the cache and the moments at which its keys disappear as
they are. -/
theorem multiplier_fresh {event : CacheEvent} {pid : Nat} {query : Query} {multiplier : Decimal}
    (ran : pricing.run (opened clock) events = some pool)
    (moved : pricing.next pool event = some next) (running : pool.ended? pid = none)
    (returned : next.ended? pid = some (query, .ok multiplier)) :
    (∃ value, multiplier.toRat? = some value ∧ 1 ≤ value ∧ value ≤ 3) ∧
      ((query.computed = some multiplier ∧
          SetAt clock (events ++ [event]) query multiplier pool.world.state.clock) ∨
        (next.world.state = pool.world.state ∧ ∃ earlier moment, earlier.key = query.key ∧
          earlier.computed = some multiplier ∧ SetAt clock events earlier multiplier moment ∧
            moment ≤ pool.world.state.clock ∧ pool.world.state.clock < moment + 30000)) := by
  have bounded : ∀ {source : Query}, source.computed = some multiplier →
      ∃ value, multiplier.toRat? = some value ∧ 1 ≤ value ∧ value ≤ 3 := by
    intro source computed
    obtain ⟨made, value, madeEq, valued, low, high⟩ :=
      Pricing.computeSurgeMultiplier_bounds source.pendingRides source.availableDrivers
    obtain rfl : multiplier = made := Option.some.inj (computed.symm.trans madeEq)
    exact ⟨value, valued, low, high⟩
  rcases returned_cases ran moved running returned with setNow | ⟨unchanged, text, live, read⟩
  · exact ⟨bounded setNow.computed, Or.inl ⟨setNow.computed, setNow⟩⟩
  · obtain ⟨earlier, set, moment, sameKey, rfl, setAt, past, fresh⟩ :=
      setAt_of_live (traced_of_run ran) live
    -- The string stands for one decimal only.
    obtain rfl : set = multiplier :=
      Option.some.inj ((Decimal.ofText_toText set).symm.trans read)
    exact ⟨bounded setAt.computed, Or.inr ⟨unchanged, earlier, moment, sameKey, setAt.computed,
      setAt, past, fresh⟩⟩

/-- Two drivers short in one cell; the second call is served what the first has set. -/
def crowded : Query :=
  ⟨.finite 40.71284, .finite (-74.00601), 3, 1⟩

theorem multiplier_fresh_of_hit : ∃ pool next,
    pricing.run (opened 0) [.spawn crowded, .spawn crowded, .step 0, .step 0,
      .ambient 29999] = some pool ∧
    pricing.next pool (.step 1) = some next ∧
      next.ended? 1 = some (crowded, .ok (.finite 300 (-2))) ∧
        ∃ value, (Decimal.finite 300 (-2)).toRat? = some value ∧ 1 ≤ value ∧ value ≤ 3 := by
  have served : ((pricing.run (opened 0) [.spawn crowded, .spawn crowded, .step 0, .step 0,
      .ambient 29999]).bind fun pool => (pricing.next pool (.step 1)).map fun next =>
        (pool.ended? 1, next.ended? 1)) =
          some (none, some (crowded, .ok (.finite 300 (-2)))) := by
    decide +kernel
  obtain ⟨pool, ran, rest⟩ := Option.bind_eq_some_iff.mp served
  obtain ⟨next, moved, seen⟩ := Option.map_eq_some_iff.mp rest
  obtain ⟨running, returned⟩ := Prod.mk.inj seen
  exact ⟨pool, next, ran, moved, returned, (multiplier_fresh ran moved running returned).1⟩

/-! ## A call on its own -/

section Alone

variable {redis : Redis} {query : Query} {multiplier : Decimal}

theorem finish_get {pid : Nat} {found : Option String} {key : String}
    (live : redis.live key = found) :
    pricing.finish pid (command (.get key)) redis = some (.ok found, redis) := by
  rw [command, finish_perform]
  simp only [pricing, Redis.perform, live]
  rfl

theorem finish_hit {pid : Nat} {text : String} (live : redis.live query.key = some text)
    (read : Decimal.ofText text = some multiplier) :
    pricing.finish pid (getSurgeMultiplier query) redis = some (.ok multiplier, redis) := by
  have got : pricing.finish pid (get query.key) redis = some (.ok (some multiplier), redis) := by
    rw [get, finish_of_ok (finish_get live)]
    simp only [read]
    rfl
  rw [getSurgeMultiplier, finish_of_ok got]
  rfl

theorem finish_miss {pid : Nat} (live : redis.live query.key = none)
    (computed : query.computed = some multiplier) :
    pricing.finish pid (getSurgeMultiplier query) redis =
      some (.ok multiplier, { redis with
        entries := redis.entries.save (query.entry multiplier redis.clock) }) := by
  have got : pricing.finish pid (get query.key) redis = some (.ok none, redis) := by
    rw [get, finish_of_ok (finish_get live)]
    rfl
  rw [getSurgeMultiplier, finish_of_ok got]
  simp only [computed]
  rfl

end Alone

end SurgeCache

/-! ## The cache of the application -/

/-- The string form of an entry. -/
def CacheEntry.written (entry : CacheEntry) : RedisEntry :=
  ⟨entry.key, entry.value.toText, entry.expiresAt⟩

/-- Redis holds the multipliers of the store as strings. -/
structure Redis.Holds (redis : Redis) (store : Store) : Prop where
  clock : redis.clock = store.clock
  entries : ∀ key, redis.entries.find key = (store.surge.find key).map CacheEntry.written

variable {redis : Redis} {store : Store}

theorem Redis.Holds.live (holds : redis.Holds store) (key : String) :
    redis.live key = (store.cached key).map Decimal.toText := by
  rw [Redis.live, Store.cached, holds.entries key, holds.clock]
  cases store.surge.find key with
  | none => rfl
  | some entry =>
      simp only [Option.map_some, Option.bind_some, CacheEntry.written]
      split <;> rfl

theorem Redis.Holds.set (holds : redis.Holds store) (key : String) (multiplier : Decimal) :
    Redis.Holds { redis with
        entries := redis.entries.save
          ⟨key, multiplier.toText, redis.clock + 1000 * Pricing.surgeTtlSeconds⟩ }
      (store.withMultiplier key multiplier) := by
  refine ⟨holds.clock, fun sought => ?_⟩
  simp only [Store.withMultiplier, KeyedTable.find_save, holds.entries, holds.clock]
  split <;> rfl

/-- Over strings a call returns what it returns in the application, and Redis holds the
multipliers of the application again. -/
theorem Redis.Holds.getSurgeMultiplier (P : Platform) (pid : Nat) (holds : redis.Holds store)
    (query : SurgeCache.Query) :
    ∃ multiplier redis' store', Redis.Holds redis' store' ∧
      SurgeCache.pricing.finish pid (SurgeCache.getSurgeMultiplier query) redis =
        some (.ok multiplier, redis') ∧
      (application P).finish pid (PricingService.getSurgeMultiplier query.lat query.lng
        query.pendingRides query.availableDrivers) store = some (.ok multiplier, store') := by
  have live := holds.live query.key
  cases cached : store.cached query.key with
  | some multiplier =>
      rw [cached, Option.map_some] at live
      exact ⟨multiplier, redis, store, holds, SurgeCache.finish_hit live
        (Decimal.ofText_toText multiplier), finish_cachedMultiplier cached⟩
  | none =>
      rw [cached, Option.map_none] at live
      obtain ⟨multiplier, computed⟩ := SurgeCache.exists_computed query
      exact ⟨multiplier, _, _, holds.set query.key multiplier,
        SurgeCache.finish_miss live computed, finish_computedMultiplier cached computed⟩

end RideHailing
