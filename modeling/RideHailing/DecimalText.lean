import RideHailing.DecimalArithmetic
import Mathlib.Data.List.TakeWhile
import Mathlib.Tactic.Ring

/-!
# Decimals as text

The text that `str` writes for a decimal: plain digits while the number is not too small for
them, and scientific notation otherwise.  Read again it is the same decimal, with the same
digits and the same exponent.
-/

namespace RideHailing

namespace Decimal

/-! ## Writing -/

/-- The digits of a number after its sign. -/
def signedText (number : Int) : List Char :=
  (if number < 0 then '-' else '+') :: Nat.toDigits 10 number.natAbs

/-- The digits before and behind the point, when so many of them stand before it. -/
def pointed (digits : List Char) (dotPlace : Int) : List Char × List Char :=
  if dotPlace ≤ 0 then (['0'], List.replicate (-dotPlace).toNat '0' ++ digits)
  else (digits.take dotPlace.toNat ++ List.replicate (dotPlace.toNat - digits.length) '0',
    digits.drop dotPlace.toNat)

/-- `str(number)`. -/
def toText : Decimal → String
  | .nan => "NaN"
  | .finite coefficient exponent =>
      let digits := Nat.toDigits 10 coefficient.natAbs
      let leftDigits : Int := exponent + digits.length
      let dotPlace := if exponent ≤ 0 ∧ -6 < leftDigits then leftDigits else 1
      let (whole, fraction) := pointed digits dotPlace
      String.ofList ((if coefficient < 0 then ['-'] else []) ++ whole ++
        (if fraction = [] then [] else '.' :: fraction) ++
          (if leftDigits = dotPlace then [] else 'E' :: signedText (leftDigits - dotPlace)))

/-! ## Reading -/

def readDigits (letters : List Char) : Option Nat :=
  if letters ≠ [] ∧ letters.all Char.isDigit = true then
    some (Nat.ofDigitChars 10 letters 0)
  else none

/-- Whether the text begins with a minus sign, and what comes after the sign. -/
def readSign : List Char → Bool × List Char
  | '-' :: letters => (true, letters)
  | '+' :: letters => (false, letters)
  | letters => (false, letters)

def withMinus (negative : Bool) (magnitude : Nat) : Int :=
  if negative then -(magnitude : Int) else magnitude

def readInt (letters : List Char) : Option Int :=
  (readDigits (readSign letters).2).map (withMinus (readSign letters).1)

/-- The letter is before the exponent of a numeral. -/
def inMantissa (letter : Char) : Bool :=
  letter != 'E' && letter != 'e'

/-- `Decimal(text)`, for numerals without spaces and underscores and for the text of NaN. -/
def ofText (text : String) : Option Decimal :=
  if text = "NaN" then some .nan
  else
    let (negative, unsigned) := readSign text.toList
    let mantissa := unsigned.takeWhile inMantissa
    let power := unsigned.dropWhile inMantissa
    let whole := mantissa.takeWhile (· != '.')
    let fraction := (mantissa.dropWhile (· != '.')).drop 1
    match readDigits (whole ++ fraction), if power = [] then some 0 else readInt (power.drop 1) with
    | some magnitude, some exponent =>
        some (.finite (withMinus negative magnitude) (exponent - fraction.length))
    | _, _ => none

example : (Decimal.finite 150 (-2)).toText = "1.50" ∧ ofText "1.50" = some (.finite 150 (-2)) := by
  decide +kernel

/-! ## The round trip -/

theorem isDigit_toDigits {letter : Char} {number : Nat}
    (inside : letter ∈ Nat.toDigits 10 number) : letter.isDigit = true :=
  Nat.isDigit_of_mem_toDigits (by decide) (by decide) inside

theorem readDigits_eq_some {letters : List Char} (nonempty : letters ≠ [])
    (digits : ∀ letter ∈ letters, letter.isDigit) :
    readDigits letters = some (Nat.ofDigitChars 10 letters 0) :=
  if_pos ⟨nonempty, List.all_eq_true.mpr digits⟩

theorem readInt_signedText (number : Int) : readInt (signedText number) = some number := by
  have read : readDigits (Nat.toDigits 10 number.natAbs) = some number.natAbs := by
    rw [readDigits_eq_some Nat.toDigits_ne_nil fun letter => isDigit_toDigits,
      Nat.ofDigitChars_ten_toDigits]
  by_cases negative : number < 0
  · simp only [signedText, if_pos negative, readInt, readSign, read, Option.map_some, withMinus,
      if_true, Option.some.injEq]
    omega
  · simp only [signedText, if_neg negative, readInt, readSign, read, Option.map_some, withMinus,
      Bool.false_eq_true, if_false, Option.some.injEq]
    omega

/-- A text that begins with a digit has no sign. -/
theorem readSign_of_digit {first : Char} (digit : first.isDigit = true) (letters : List Char) :
    readSign (first :: letters) = (false, first :: letters) := by
  have notMinus : first ≠ '-' := by
    rintro rfl
    cases digit
  have notPlus : first ≠ '+' := by
    rintro rfl
    cases digit
  unfold readSign
  split <;> simp_all

/-- The fraction of a numeral, with the point if there is one. -/
def dotted (fraction : List Char) : List Char :=
  if fraction = [] then [] else '.' :: fraction

theorem takeWhile_mantissa {whole fraction power : List Char}
    (digits : ∀ letter ∈ whole ++ fraction, letter.isDigit)
    (scale : power = [] ∨ ∃ letters, power = 'E' :: letters) :
    (whole ++ dotted fraction ++ power).takeWhile inMantissa = whole ++ dotted fraction ∧
      (whole ++ dotted fraction ++ power).dropWhile inMantissa = power := by
  have before : ∀ letter ∈ whole ++ dotted fraction, inMantissa letter = true := by
    intro letter inside
    have digitOrDot : letter.isDigit = true ∨ letter = '.' := by
      rw [List.mem_append] at inside
      rcases inside with inWhole | inFraction
      · exact Or.inl (digits letter (List.mem_append_left _ inWhole))
      · rw [dotted] at inFraction
        split at inFraction
        · cases inFraction
        · rcases List.mem_cons.mp inFraction with dot | inDigits
          · exact Or.inr dot
          · exact Or.inl (digits letter (List.mem_append_right _ inDigits))
    rcases digitOrDot with digit | rfl
    · rw [inMantissa, Bool.and_eq_true, bne_iff_ne, bne_iff_ne]
      constructor <;> rintro rfl <;> cases digit
    · rfl
  rw [List.takeWhile_append_of_pos before, List.dropWhile_append_of_pos before]
  rcases scale with rfl | ⟨letters, rfl⟩
  · simp
  · simp [inMantissa]

theorem takeWhile_whole {whole fraction : List Char}
    (digits : ∀ letter ∈ whole ++ fraction, letter.isDigit) :
    (whole ++ dotted fraction).takeWhile (· != '.') = whole ∧
      ((whole ++ dotted fraction).dropWhile (· != '.')).drop 1 = fraction := by
  have before : ∀ letter ∈ whole, (letter != '.') = true := by
    intro letter inside
    have digit := digits letter (List.mem_append_left _ inside)
    rw [bne_iff_ne]
    rintro rfl
    cases digit
  rw [List.takeWhile_append_of_pos before, List.dropWhile_append_of_pos before, dotted]
  split
  · rename_i empty
    simp [empty]
  · simp

/-- A numeral is read as its digits, scaled by its exponent and the length of its fraction. -/
theorem ofText_numeral (negative : Bool) {whole fraction power : List Char} {scale : Int}
    (nonempty : whole ≠ []) (digits : ∀ letter ∈ whole ++ fraction, letter.isDigit)
    (scaled : (power = [] ∧ scale = 0) ∨ power = 'E' :: signedText scale) :
    ofText (String.ofList ((if negative then ['-'] else []) ++ whole ++ dotted fraction ++ power)) =
      some (.finite (withMinus negative (Nat.ofDigitChars 10 (whole ++ fraction) 0))
        (scale - fraction.length)) := by
  obtain ⟨first, others, rfl⟩ := List.exists_cons_of_ne_nil nonempty
  have digit : first.isDigit = true := digits first (by simp)
  have signed : readSign ((if negative then ['-'] else []) ++ (first :: others) ++
      dotted fraction ++ power) = (negative, first :: others ++ dotted fraction ++ power) := by
    cases negative with
    | true => rfl
    | false => exact readSign_of_digit digit _
  have numeral : String.ofList ((if negative then ['-'] else []) ++ (first :: others) ++
      dotted fraction ++ power) ≠ "NaN" := by
    intro same
    have letters := congrArg (fun text => (readSign text.toList).2.head?) same
    simp only [String.toList_ofList, signed] at letters
    have firstEq : first = 'N' := by simpa [readSign] using letters
    subst firstEq
    cases digit
  have tail : power = [] ∨ ∃ letters, power = 'E' :: letters :=
    scaled.imp And.left fun written => ⟨_, written⟩
  have mantissa := takeWhile_mantissa digits tail
  have parts := takeWhile_whole digits
  have exponent : (if power = [] then some 0 else readInt (power.drop 1)) = some scale := by
    rcases scaled with ⟨rfl, rfl⟩ | rfl
    · rfl
    · rw [if_neg (by simp), List.drop_one, List.tail_cons, readInt_signedText]
  have read := readDigits_eq_some (List.append_ne_nil_of_left_ne_nil nonempty fraction) digits
  simp only [ofText, if_neg numeral, String.toList_ofList, signed, mantissa.1, mantissa.2, parts.1,
    parts.2, read, exponent]

/-- Placing the point keeps the digits and what they mean. -/
theorem pointed_spec {digits : List Char} {dotPlace : Int} (nonempty : digits ≠ [])
    (allDigits : ∀ letter ∈ digits, letter.isDigit) (fits : dotPlace ≤ digits.length) :
    (pointed digits dotPlace).1 ≠ [] ∧
      (∀ letter ∈ (pointed digits dotPlace).1 ++ (pointed digits dotPlace).2, letter.isDigit) ∧
      Nat.ofDigitChars 10 ((pointed digits dotPlace).1 ++ (pointed digits dotPlace).2) 0 =
        Nat.ofDigitChars 10 digits 0 ∧
      ((pointed digits dotPlace).2.length : Int) = digits.length - dotPlace := by
  rcases le_or_gt dotPlace 0 with before | inside
  · simp only [pointed, if_pos before]
    refine ⟨by simp, ?_, ?_, ?_⟩
    · intro letter among
      simp only [List.singleton_append, List.mem_cons, List.mem_append, List.mem_replicate] at among
      rcases among with rfl | ⟨_, rfl⟩ | digit
      · rfl
      · rfl
      · exact allDigits letter digit
    · rw [List.singleton_append, Nat.ofDigitChars_cons, Nat.ofDigitChars_append,
        Nat.ofDigitChars_replicate_zero]
      rfl
    · rw [List.length_append, List.length_replicate]
      omega
  · obtain ⟨place, rfl⟩ := Int.eq_ofNat_of_zero_le inside.le
    have short : place - digits.length = 0 := by omega
    have joined : digits.take place ++ digits.drop place = digits := List.take_append_drop _ _
    simp only [pointed, if_neg (not_le.mpr inside), Int.toNat_natCast, short, List.replicate_zero,
      List.append_nil, joined]
    refine ⟨?_, allDigits, trivial, ?_⟩
    · rw [Ne, List.take_eq_nil_iff, not_or]
      exact ⟨by omega, nonempty⟩
    · rw [List.length_drop]
      omega

/-- Every decimal is read from its text as it was. -/
theorem ofText_toText (number : Decimal) : ofText number.toText = some number := by
  cases number with
  | nan => rfl
  | finite coefficient exponent =>
      let digits := Nat.toDigits 10 coefficient.natAbs
      let leftDigits : Int := exponent + digits.length
      let dotPlace := if exponent ≤ 0 ∧ -6 < leftDigits then leftDigits else 1
      have nonempty : digits ≠ [] := Nat.toDigits_ne_nil
      have counted : 0 < digits.length := List.length_pos_iff.mpr nonempty
      have fits : dotPlace ≤ digits.length := by
        simp only [dotPlace]
        split
        · rename_i plain
          simp only [leftDigits]
          omega
        · omega
      obtain ⟨wholeNonempty, allDigits, value, length⟩ :=
        pointed_spec nonempty (fun letter => isDigit_toDigits) fits
      have scaled : ((if leftDigits = dotPlace then [] else
          'E' :: signedText (leftDigits - dotPlace)) = [] ∧ leftDigits - dotPlace = 0) ∨
            (if leftDigits = dotPlace then [] else 'E' :: signedText (leftDigits - dotPlace)) =
              'E' :: signedText (leftDigits - dotPlace) := by
        split
        · left
          exact ⟨rfl, by omega⟩
        · right
          rfl
      have read := ofText_numeral (decide (coefficient < 0)) wholeNonempty allDigits scaled
      have sign : withMinus (decide (coefficient < 0)) coefficient.natAbs = coefficient := by
        simp only [withMinus, decide_eq_true_eq]
        split <;> omega
      rw [value, Nat.ofDigitChars_ten_toDigits, length, sign] at read
      have restored : leftDigits - dotPlace - (digits.length - dotPlace) = exponent := by
        simp only [leftDigits]
        ring
      rw [restored] at read
      rw [← read]
      simp only [toText, decide_eq_true_eq, dotted]
      rfl

end Decimal

end RideHailing
