import RideHailing.EventFrames
import RideHailing.JsonText
import RideHailing.TruthfulStreams

/-!
# What a client reads off a stream

The events of a stream are sent as frames of JSON texts.  The texts are ASCII on one line,
so the frames can be told apart, and a JSON text tells its document.  Whatever events a client
makes out in what it has received are the first of those that were emitted on the key since
its stream opened.
-/

namespace RideHailing

open JsonText

/-! ## JSON documents -/

def digitLetters : List Char :=
  "0123456789".toList

/-- The letters of finite doubles. -/
def floatLetters : List Char :=
  "0123456789.e+-".toList

/-- What `float.__repr__` writes for a finite double. -/
structure FloatFormat where
  repr : ℚ → List Char
  repr_injective : Function.Injective repr
  repr_subset : ∀ value, repr value ⊆ floatLetters

/-- The digits of an integer after its sign. -/
def intText (number : Int) : List Char :=
  (if number < 0 then ['-'] else []) ++ Nat.toDigits 10 number.natAbs

def FloatFormat.letters (F : FloatFormat) : Float64 → List Char
  | .finite value => F.repr value
  | .posInf => "Infinity".toList
  | .negInf => "-Infinity".toList
  | .nan => "NaN".toList

/-- The letters of numbers, of the special doubles and of `null`. -/
def numeralLetters : List Char :=
  "0123456789.e+-InfityNaul".toList

theorem forall_mem_of_all {letters : List Char} {property : Char → Prop}
    [DecidablePred property]
    (all : letters.all (fun letter => decide (property letter)) = true) :
    ∀ letter ∈ letters, property letter :=
  fun letter mem => of_decide_eq_true (List.all_eq_true.mp all letter mem)

theorem numeralLetters_printable : ∀ letter ∈ numeralLetters, Printable letter :=
  forall_mem_of_all (by decide)

theorem numeralLetters_bare : ∀ letter ∈ numeralLetters, letter ∉ ['"', ',', '}'] :=
  forall_mem_of_all (by decide)

/-- A literal made of these letters. -/
def toNumeral (letters : List Char) (inside : letters ⊆ numeralLetters) : Numeral where
  letters := letters
  printable letter mem := numeralLetters_printable letter (inside mem)
  bare letter mem := numeralLetters_bare letter (inside mem)

theorem letters_subset (F : FloatFormat) (number : Float64) :
    F.letters number ⊆ numeralLetters := by
  cases number with
  | finite value =>
      exact List.Subset.trans (F.repr_subset value) (by decide : floatLetters ⊆ numeralLetters)
  | posInf => exact (by decide : "Infinity".toList ⊆ numeralLetters)
  | negInf => exact (by decide : "-Infinity".toList ⊆ numeralLetters)
  | nan => exact (by decide : "NaN".toList ⊆ numeralLetters)

theorem digit_mem {number : Nat} {letter : Char} (mem : letter ∈ Nat.toDigits 10 number) :
    letter ∈ digitLetters := by
  have isDigit := Decimal.isDigit_toDigits mem
  simp only [Char.isDigit, Bool.and_eq_true, decide_eq_true_eq, ge_iff_le,
    UInt32.le_iff_toNat_le] at isDigit
  have decimal : ∀ code < 58, 48 ≤ code → Char.ofNat code ∈ digitLetters := by decide
  rw [← Char.ofNat_toNat letter]
  exact decimal letter.toNat (Nat.lt_succ_of_le isDigit.2) isDigit.1

theorem intText_subset (number : Int) : intText number ⊆ '-' :: digitLetters := by
  intro letter mem
  rcases List.mem_append.mp mem with sign | digit
  · split at sign
    · obtain rfl := List.mem_singleton.mp sign
      exact List.mem_cons_self
    · cases sign
  · exact List.mem_cons_of_mem '-' (digit_mem digit)

/-- The special doubles, and `null`, have other letters than the finite doubles. -/
theorem repr_ne {F : FloatFormat} {value : ℚ} {letters : List Char}
    (other : ¬ letters ⊆ floatLetters) : F.repr value ≠ letters := by
  rintro rfl
  exact other (F.repr_subset value)

/-- The doubles that are no numbers, and their texts. -/
def specialDoubles : List (Float64 × List Char) :=
  [(.posInf, "Infinity".toList), (.negInf, "-Infinity".toList), (.nan, "NaN".toList)]

theorem finite_or_special (F : FloatFormat) (number : Float64) :
    (∃ value, number = .finite value) ∨ (number, F.letters number) ∈ specialDoubles := by
  cases number with
  | finite value => exact Or.inl ⟨value, rfl⟩
  | posInf => exact Or.inr List.mem_cons_self
  | negInf => exact Or.inr (List.mem_cons_of_mem _ List.mem_cons_self)
  | nan => exact Or.inr (List.mem_cons_of_mem _ (List.mem_cons_of_mem _ List.mem_cons_self))

theorem special_letters : ∀ special ∈ specialDoubles, ¬ special.2 ⊆ floatLetters := by
  decide

theorem letters_injective (F : FloatFormat) : Function.Injective F.letters := by
  intro number number' same
  have unlike : ∀ (value : ℚ) (other : Float64), (other, F.letters other) ∈ specialDoubles →
      F.repr value ≠ F.letters other :=
    fun value other special => repr_ne (special_letters (other, F.letters other) special)
  rcases finite_or_special F number with ⟨value, rfl⟩ | special
  · rcases finite_or_special F number' with ⟨value', rfl⟩ | special'
    · rw [F.repr_injective same]
    · exact absurd same (unlike value number' special')
  · rcases finite_or_special F number' with ⟨value', rfl⟩ | special'
    · exact absurd same.symm (unlike value' number special)
    · have apart : ∀ one ∈ specialDoubles, ∀ other ∈ specialDoubles,
          one.2 = other.2 → one.1 = other.1 := by decide
      exact apart _ special _ special' same

theorem letters_ne_null (F : FloatFormat) (number : Float64) :
    F.letters number ≠ "null".toList := by
  rcases finite_or_special F number with ⟨value, rfl⟩ | special
  · exact repr_ne (by decide)
  · have other : ∀ one ∈ specialDoubles, one.2 ≠ "null".toList := by decide
    exact other _ special

theorem readInt_intText (number : Int) : Decimal.readInt (intText number) = some number := by
  have read : Decimal.readDigits (Nat.toDigits 10 number.natAbs) = some number.natAbs := by
    rw [Decimal.readDigits_eq_some Nat.toDigits_ne_nil fun letter => Decimal.isDigit_toDigits,
      Nat.ofDigitChars_ten_toDigits]
  by_cases negative : number < 0
  · simp only [intText, if_pos negative, List.singleton_append, Decimal.readInt,
      Decimal.readSign, read, Option.map_some, Decimal.withMinus, if_true, Option.some.injEq]
    omega
  · cases digits : Nat.toDigits 10 number.natAbs with
    | nil => exact absurd digits Nat.toDigits_ne_nil
    | cons first others =>
        have isDigit : first.isDigit = true :=
          Decimal.isDigit_toDigits (digits ▸ List.mem_cons_self)
        rw [digits] at read
        simp only [intText, if_neg negative, List.nil_append, digits, Decimal.readInt,
          Decimal.readSign_of_digit isDigit, read, Option.map_some, Decimal.withMinus,
          Bool.false_eq_true, if_false, Option.some.injEq]
        omega

theorem intText_injective : Function.Injective intText := by
  intro number number' same
  have read := readInt_intText number
  rw [same, readInt_intText] at read
  exact (Option.some.inj read).symm

/-- A double, as `json.dumps` writes it. -/
def FloatFormat.value (F : FloatFormat) (number : Float64) : JsonText.Value :=
  .numeral (toNumeral (F.letters number) (letters_subset F number))

def intValue (number : Int) : JsonText.Value :=
  .numeral (toNumeral (intText number)
    (List.Subset.trans (intText_subset number) (by decide)))

def nullValue : JsonText.Value :=
  .numeral (toNumeral "null".toList (by decide))

/-- The dictionary that a document is made from. -/
def Payload.items (F : FloatFormat) : Payload → List (String × JsonText.Value)
  | .driverLocation lat lng eta =>
      [("lat", F.value lat), ("lng", F.value lng), ("etaMinutes", intValue eta)]
  | .driverEtaToPickup eta => [("etaMinutes", intValue eta)]
  | .rideOffer rideId pickupLat pickupLng dropoffLat dropoffLng estimatedFare eta =>
      [("rideId", .text rideId), ("pickupLat", F.value pickupLat),
        ("pickupLng", F.value pickupLng), ("dropoffLat", F.value dropoffLat),
        ("dropoffLng", F.value dropoffLng),
        ("estimatedFare", (estimatedFare.map F.value).getD nullValue),
        ("etaMinutes", intValue eta)]
  | .offerCancelled rideId => [("rideId", .text rideId)]

/-- `json.dumps` of a document. -/
def Payload.json (F : FloatFormat) (payload : Payload) : String :=
  dumps (payload.items F)

theorem value_injective (F : FloatFormat) : Function.Injective F.value := by
  intro number number' same
  apply letters_injective F
  exact congrArg JsonText.Value.dumps same

theorem intValue_injective : Function.Injective intValue := by
  intro number number' same
  apply intText_injective
  exact congrArg JsonText.Value.dumps same

theorem fare_injective (F : FloatFormat) :
    Function.Injective fun fare : Option Float64 => (fare.map F.value).getD nullValue := by
  intro fare fare' same
  cases fare with
  | none =>
      cases fare' with
      | none => rfl
      | some number' =>
          have letters := congrArg JsonText.Value.dumps same
          exact absurd letters.symm (letters_ne_null F number')
  | some number =>
      cases fare' with
      | none =>
          have letters := congrArg JsonText.Value.dumps same
          exact absurd letters (letters_ne_null F number)
      | some number' => rw [value_injective F same]

/-- Documents of different kinds have different keys. -/
theorem items_injective (F : FloatFormat) : Function.Injective (Payload.items F) := by
  intro payload payload' same
  have value := @value_injective F
  have fare := fare_injective F
  cases payload <;> cases payload' <;>
    simp [Payload.items, value.eq_iff, intValue_injective.eq_iff, fare.eq_iff] at same ⊢
  all_goals exact same

theorem json_injective (F : FloatFormat) : Function.Injective (Payload.json F) :=
  fun _ _ same => items_injective F (dumps_inj same)

theorem oneLine_of_printable {text : String}
    (printable : ∀ letter ∈ text.toList, Printable letter) : OneLine text := by
  constructor
  · intro mem
    exact absurd (printable _ mem) (by decide)
  · intro mem
    exact absurd (printable _ mem) (by decide)

theorem json_oneLine (F : FloatFormat) (payload : Payload) : OneLine (payload.json F) :=
  oneLine_of_printable fun _ mem => printable_dumps mem

theorem event_oneLine (payload : Payload) : OneLine payload.event := by
  have names : ∀ name ∈ ["driver_location", "driver_eta_to_pickup", "ride_offer",
      "offer_cancelled"], OneLine name := by decide
  apply names
  cases payload <;> simp [Payload.event]

/-! ## The text of a stream -/

/-- The event with its document written out. -/
def wired (F : FloatFormat) (event : String × Payload) : String × String :=
  (event.1, event.2.json F)

/-- What a stream that has yielded these events has sent. -/
def wireText (F : FloatFormat) (events : List (String × Payload)) : String :=
  frames (events.map (wired F))

theorem wired_injective (F : FloatFormat) : Function.Injective (wired F) := by
  rintro ⟨name, payload⟩ ⟨name', payload'⟩ same
  obtain ⟨names, texts⟩ := Prod.mk.inj same
  exact Prod.ext names (json_injective F texts)

/-- Events with names on one line are read off any prefix of their text. -/
theorem prefix_of_wireText (F : FloatFormat) {first second : List (String × Payload)}
    (firstNames : ∀ event ∈ first, OneLine event.1)
    (secondNames : ∀ event ∈ second, OneLine event.1)
    (received : (wireText F first).toList <+: (wireText F second).toList) : first <+: second := by
  have lines : ∀ {events : List (String × Payload)}, (∀ event ∈ events, OneLine event.1) →
      ∀ event ∈ events.map (wired F), OneLine event.1 ∧ OneLine event.2 := by
    intro events names event mem
    obtain ⟨unwired, inside, rfl⟩ := List.mem_map.mp mem
    exact ⟨names unwired inside, json_oneLine F unwired.2⟩
  have texts := prefix_of_frames (lines firstNames) (lines secondNames) received
  exact (List.prefix_map_iff_of_injective (wired_injective F)).mp texts

section Process

open EventStreams

variable {P : Platform} {W : Wiring} {start : Deployment}
variable {events : List DeploymentEvent} {pool : DeploymentPool}

/-- However floats are written, a client reads the truth: whatever events with names on one
line account for a part of the text that a stream has sent, from its beginning on, these are
the first events that the stream has yielded, and the first that were emitted on its key since
it opened. -/
theorem streams_readable (F : FloatFormat) (fresh : start.board = EventStreams.empty)
    (vacant : ∀ rideId driverId, ¬ start.Lists rideId driverId) (quiet : start.offers = [])
    (ran : Deployment.run P W (Pool.start start) events = some pool) {index : Nat}
    {stream : EventStream Payload}
    (found : pool.world.state.board.streams[index]? = some stream) :
    ∃ before after opened,
      Deployment.streamMoves P W (Pool.start start) events =
          before ++ .opens stream.key :: after ∧
        runSteps EventStreams.step EventStreams.empty before = some opened ∧
        opened.streams.length = index ∧
        ∀ read : List (String × Payload), (∀ event ∈ read, OneLine event.1) →
          (wireText F read).toList <+: (wireText F stream.delivered).toList →
            read <+: stream.delivered ∧
              read <+: after.filterMap (StreamStep.emission stream.key) := by
  obtain ⟨before, after, opened, split, ranBefore, sameIndex, yielded, first, _⟩ :=
    (streams_in_order fresh ran).1 index stream found
  refine ⟨before, after, opened, split, ranBefore, sameIndex, fun read names received => ?_⟩
  have labels : ∀ event ∈ stream.delivered, OneLine event.1 := by
    rintro ⟨name, payload⟩ mem
    have truths := streams_truthful fresh vacant quiet ran
    obtain ⟨rfl, _⟩ := truths.streams index stream found name payload (yielded.subset mem)
    exact event_oneLine payload
  have delivered := prefix_of_wireText F names labels received
  exact ⟨delivered, (delivered.trans yielded).trans first⟩

end Process

namespace SmallCity

/-- What stands behind the numerator. -/
def fractionTail (value : ℚ) : Char × List Char :=
  if value.den = 1 then ('.', ['0']) else ('e', Nat.toDigits 10 value.den)

/-- Whole numbers are written as Python writes them, which is all that the city needs. -/
def floats : FloatFormat where
  repr value := intText value.num ++ (fractionTail value).1 :: (fractionTail value).2
  repr_injective value value' same := by
    have unmarked : ∀ number, ∀ letter ∈ intText number, letter ∉ ['.', 'e'] := by
      have digits : ∀ letter ∈ '-' :: digitLetters, letter ∉ ['.', 'e'] :=
        forall_mem_of_all (by decide)
      exact fun number letter mem => digits letter (intText_subset number mem)
    have marks : ∀ value, (fractionTail value).1 ∈ ['.', 'e'] := by
      intro value
      unfold fractionTail
      split <;> simp
    obtain ⟨numerators, tails⟩ := eq_of_marked (unmarked _) (unmarked _) (marks _) (marks _) same
    apply Rat.ext (intText_injective numerators)
    unfold fractionTail at tails
    split at tails <;> split at tails <;> simp_all
    have digits := congrArg (fun letters => Nat.ofDigitChars 10 letters 0) tails
    simpa [Nat.ofDigitChars_ten_toDigits] using digits
  repr_subset value := by
    apply List.append_subset.mpr
    constructor
    · exact List.Subset.trans (intText_subset _) (by decide)
    · unfold fractionTail
      split
      · exact (by decide : ['.', '0'] ⊆ floatLetters)
      · apply List.cons_subset.mpr
        refine ⟨(by decide : 'e' ∈ floatLetters), fun letter digit => ?_⟩
        exact (by decide : digitLetters ⊆ floatLetters) (digit_mem digit)

/-- Ann's first window shows the position that it has received. -/
def annReads : List DeploymentEvent :=
  annTracksAgain ++ [.ambient (.take 0)]

/-- The event that her client reads is the one that was emitted. -/
theorem annReads_position :
    ∃ pool stream, playAll annReads = some pool ∧
      pool.world.state.board.streams[0]? = some stream ∧
      wireText floats stream.delivered =
        "event: driver_location\ndata: \x7b\"lat\": 0.0, \"lng\": 0.0, \"etaMinutes\": 2\x7d\n\n" ∧
      ∃ after : List (StreamStep Payload),
        [("driver_location", .driverLocation centre centre 2)] <+:
          after.filterMap (StreamStep.emission stream.key) := by
  obtain ⟨pool, played, checked⟩ := Option.map_eq_some_iff.mp
    (by decide +kernel : (playAll annReads).map (fun pool =>
      decide (pool.world.state.board.streams[0]?.map EventStream.delivered =
        some [("driver_location", .driverLocation centre centre 2)])) = some true)
  obtain ⟨stream, found, delivered⟩ := Option.map_eq_some_iff.mp (of_decide_eq_true checked)
  have empty : ∀ rideId driverId, ¬ (Deployment.opening store).Lists rideId driverId := by
    rintro rideId driverId ⟨listed, there, _⟩
    cases there
  have names : ∀ event ∈ stream.delivered, OneLine event.1 := by
    rw [delivered]
    decide +kernel
  obtain ⟨before, after, opened, _, _, _, reads⟩ :=
    streams_readable floats rfl empty rfl played found
  refine ⟨pool, stream, played, found, ?_, after, ?_⟩
  · rw [delivered]
    decide +kernel
  · have read := (reads stream.delivered names List.prefix_rfl).2
    rwa [delivered] at read

end SmallCity

end RideHailing
