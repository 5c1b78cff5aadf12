import RideHailing.RankedCuts
import RideHailing.FleetTriples
import Mathlib.Data.List.Sort

/-!
# The search for nearby drivers

Redis ranks the indexed drivers within the radius and cuts the ranking at the limit; the
service selects the available ones among those.  Drivers who are busy keep their place in
the index, so an available driver can be missed who is ranked behind the cut.
-/

namespace RideHailing

open Service

/-- The radius reaches this far. -/
def Float64.reaches : Float64 → ℚ → Bool
  | .finite radius, distance => decide (distance ≤ radius)
  | .posInf, _ => true
  | _, _ => false

/-- Redis answers a search from this centre by this ranking: it lists those within the
radius, the nearest first, whatever the limit at which it is cut, which also settles the
order of those at the same distance. -/
structure Platform.Ranks (P : Platform) (indexed : List Located) (lat lng radiusKm : Float64)
    (distanceKm : Located → ℚ) (ranked : List Located) : Prop where
  within : ranked.Perm (indexed.filter fun located => radiusKm.reaches (distanceKm located))
  ascending : ranked.Pairwise fun one other => distanceKm one ≤ distanceKm other
  answers : ∀ limit, P.geosearch indexed lat lng radiusKm limit =
    some ((ranked.take limit).map fun located =>
      (located.member, .finite (distanceKm located)))

/-- The driver at this position is in the availability set. -/
def Store.offers (store : Store) (located : Located) : Bool :=
  decide (located.member ∈ store.available)

/-- What the search returns for a driver. -/
def Located.nearby (distanceKm : Located → ℚ) (located : Located) : NearbyDriver :=
  ⟨located.member, .finite (distanceKm located)⟩

/-- The results of a search whose drivers are available. -/
def Store.selects (store : Store) (results : List (String × Float64)) : List NearbyDriver :=
  results.filterMap fun (driverId, distanceKm) =>
    if driverId ∈ store.available then some ⟨driverId, distanceKm⟩ else none

section Search

variable {P : Platform} {store : Store} {lat lng radiusKm : Float64} {pid : Nat}
variable {distanceKm : Located → ℚ} {ranked : List Located}

/-- Pairing the results with the answers of `SMISMEMBER` selects the available ones. -/
theorem selects_of_zip (results : List (String × Float64)) :
    ((results.zip ((results.map Prod.fst).map fun userId =>
        decide (userId ∈ store.available))).filterMap
      fun ((driverId, distanceKm), isAvailable) =>
        if isAvailable then some (⟨driverId, distanceKm⟩ : NearbyDriver) else none) =
      store.selects results := by
  induction results with
  | nil => rfl
  | cons result results ih =>
      simp only [List.map_cons, List.zip_cons_cons, List.filterMap_cons, ih, Store.selects,
        decide_eq_true_eq]

/-- A search that Redis answers changes nothing and returns the available drivers. -/
theorem finish_search {results : List (String × Float64)}
    (searched : P.geosearch store.locations.rows lat lng radiusKm maxResults = some results) :
    (application P).finish pid (findNearbyAvailableDrivers lat lng radiusKm) store =
      some (.ok (store.selects results), store) := by
  have performed : P.perform pid (.geosearch lat lng radiusKm maxResults) store =
      ok results store := by
    simp only [Platform.perform, searched]
  unfold findNearbyAvailableDrivers
  rw [finish_of_ok (finish_call performed)]
  cases results with
  | nil => rfl
  | cons result results =>
      simp only [List.isEmpty_cons, Bool.false_eq_true, if_false]
      rw [finish_of_ok (finish_call rfl)]
      change some _ = some _
      rw [selects_of_zip]

theorem finish_refusedSearch
    (refused : P.geosearch store.locations.rows lat lng radiusKm maxResults = none) :
    (application P).finish pid (findNearbyAvailableDrivers lat lng radiusKm) store =
      some (.error (.fault .rejected), store) := by
  have performed : P.perform pid (.geosearch lat lng radiusKm maxResults) store =
      some (.error .rejected, store) := by
    simp only [Platform.perform, refused]
    rfl
  unfold findNearbyAvailableDrivers
  rw [finish_of_error (finish_refusedCall performed)]

theorem mem_selects {results : List (String × Float64)} {nearby : NearbyDriver}
    (selected : nearby ∈ store.selects results) : nearby.driverId ∈ store.available := by
  obtain ⟨⟨driverId, distanceKm⟩, -, shown⟩ := List.mem_filterMap.mp selected
  obtain ⟨listed, same⟩ := Option.ite_none_right_eq_some.mp shown
  cases same
  exact listed

/-- Selecting from the ranked drivers is filtering them. -/
theorem selects_of_ranked (candidates : List Located) :
    store.selects (candidates.map fun located =>
        (located.member, .finite (distanceKm located))) =
      (candidates.filter store.offers).map (Located.nearby distanceKm) := by
  induction candidates with
  | nil => rfl
  | cons located candidates ih =>
      simp only [Store.selects, List.map_cons, List.filterMap_cons] at ih ⊢
      rw [ih]
      by_cases listed : located.member ∈ store.available
      · simp [Store.offers, listed, Located.nearby]
      · simp [Store.offers, listed]

/-- The search returns the available ones among the first of the ranking. -/
theorem finish_findNearby (ranks : P.Ranks store.locations.rows lat lng radiusKm distanceKm ranked)
    (pid : Nat) :
    (application P).finish pid (findNearbyAvailableDrivers lat lng radiusKm) store =
      some (.ok ((Ranking.cutThenSelect store.offers maxResults ranked).map
        (Located.nearby distanceKm)), store) := by
  rw [finish_search (ranks.answers maxResults), selects_of_ranked]
  rfl

/-- Drivers at finite distances, one of them no further than the other. -/
def NearbyDriver.NoFurther (one other : NearbyDriver) : Prop :=
  ∃ near far : ℚ, one.distanceKm = .finite near ∧ other.distanceKm = .finite far ∧ near ≤ far

/-- The search, when it runs without interruption, changes nothing and returns exactly
those of the first drivers of the ranking that are available, the nearest first and each
once.  These are the nearest available drivers if and only if the first drivers of the
ranking are all available or none behind them is. -/
theorem nearbyDrivers_complete_iff
    (ranks : P.Ranks store.locations.rows lat lng radiusKm distanceKm ranked) (pid : Nat) :
    ∃ found : List NearbyDriver,
      (application P).finish pid (findNearbyAvailableDrivers lat lng radiusKm) store =
          some (.ok found, store) ∧
        found = (Ranking.cutThenSelect store.offers maxResults ranked).map
          (Located.nearby distanceKm) ∧
        found.Pairwise NearbyDriver.NoFurther ∧ (found.map NearbyDriver.driverId).Nodup ∧
        (found = (Ranking.selectThenCut store.offers maxResults ranked).map
            (Located.nearby distanceKm) ↔
          (∀ located ∈ ranked.take maxResults, store.offers located = true) ∨
            ∀ located ∈ ranked.drop maxResults, store.offers located = false) := by
  refine ⟨_, finish_findNearby ranks pid, rfl, ?_, ?_, ?_⟩
  · rw [List.pairwise_map]
    apply (ranks.ascending.sublist Ranking.cutThenSelect_sublist).imp
    intro one other ascending
    exact ⟨distanceKm one, distanceKm other, rfl, rfl, ascending⟩
  · have members : ((store.locations.rows.map Located.member)).Nodup := store.locations.distinct
    have rankedMembers : (ranked.map Located.member).Nodup := by
      rw [(ranks.within.map Located.member).nodup_iff]
      exact members.sublist (List.filter_sublist.map Located.member)
    rw [List.map_map]
    exact rankedMembers.sublist (Ranking.cutThenSelect_sublist.map Located.member)
  · rw [← Ranking.cutThenSelect_eq_iff]
    constructor
    · intro same
      apply Ranking.cutThenSelect_prefix.eq_of_length
      have lengths := congrArg List.length same
      rwa [List.length_map, List.length_map] at lengths
    · intro same
      rw [same]

end Search

namespace SmallCity

/-- On the sphere of Redis a degree of latitude is 111.2263 kilometres long; a distance has
four places. -/
def latitudeKm (lat : Float64) (located : Located) : ℚ :=
  match lat, located.lat with
  | .finite one, .finite other =>
      Binary.nearest 53 (-1074) (round (|one - other| * 1112263) / 10 ^ 4)
  | _, _ => 0

/-- The located drivers within the radius, the nearest first. -/
def byLatitude (indexed : List Located) (lat radiusKm : Float64) : List Located :=
  (indexed.filter fun located => radiusKm.reaches (latitudeKm lat located)).insertionSort
    fun one other => latitudeKm lat one ≤ latitudeKm lat other

/-- A platform that measures distances along the meridian. -/
def meridian : Platform :=
  { platform with
    geosearch := fun indexed lat _ radiusKm limit =>
      some (((byLatitude indexed lat radiusKm).take limit).map fun located =>
        (located.member, .finite (latitudeKm lat located))) }

theorem meridian_ranks (indexed : List Located) (lat lng radiusKm : Float64) :
    meridian.Ranks indexed lat lng radiusKm (latitudeKm lat)
      (byLatitude indexed lat radiusKm) := by
  constructor
  · exact List.perm_insertionSort _ _
  · have total : Std.Total fun one other : Located => latitudeKm lat one ≤ latitudeKm lat other :=
      ⟨fun one other => le_total (latitudeKm lat one) (latitudeKm lat other)⟩
    have transitive : IsTrans Located fun one other => latitudeKm lat one ≤ latitudeKm lat other :=
      ⟨fun _ _ _ => le_trans⟩
    exact List.pairwise_insertionSort _ _
  · intro limit
    rfl

/-- So many drivers half a kilometre apart, some of them available. -/
def quarter (count : Nat) (available : Finset String) : Store :=
  { store with
    locations := (List.range count).foldl (fun table number =>
      table.save ⟨"d" ++ toString number, .ofRat (number * 9 / 2000), centre⟩) KeyedTable.empty
    available := available }

/-- The twenty nearest drivers are busy, and the available one behind them is not
found. -/
theorem busyQuarter_misses :
    ∃ ranked : List Located,
      meridian.Ranks (quarter 21 {"d20"}).locations.rows centre centre (.finite 15)
        (latitudeKm centre) ranked ∧
      ((application meridian).finish 0 (findNearbyAvailableDrivers centre centre (.finite 15))
        (quarter 21 {"d20"})).map Prod.fst = some (.ok []) ∧
      (Ranking.selectThenCut (quarter 21 {"d20"}).offers maxResults ranked).map
        (Located.nearby (latitudeKm centre)) = [⟨"d20", .ofRat (100104 / 10000)⟩] := by
  refine ⟨_, meridian_ranks _ _ _ _, ?_, ?_⟩
  · decide +kernel
  · decide +kernel

/-- Among a few drivers the available ones are all found. -/
theorem quietQuarter_complete :
    ∃ found : List NearbyDriver,
      (application meridian).finish 0 (findNearbyAvailableDrivers centre centre (.finite 15))
          (quarter 3 {"d0", "d2"}) = some (.ok found, quarter 3 {"d0", "d2"}) ∧
        found.map NearbyDriver.driverId = ["d0", "d2"] := by
  obtain ⟨found, finished, foundEq, -, -, complete⟩ :=
    nearbyDrivers_complete_iff (meridian_ranks (quarter 3 {"d0", "d2"}).locations.rows
      centre centre (.finite 15)) 0
  have fewDrivers : found = _ := complete.mpr (Or.inr (by decide +kernel))
  refine ⟨found, finished, ?_⟩
  rw [fewDrivers]
  decide +kernel

end SmallCity

end RideHailing
