import RideHailing.DecimalText
import RideHailing.DelimitedText

/-!
# Flat JSON objects as text

The text that `json.dumps` writes for a dictionary of strings and numbers: plain ASCII on one
line, with everything else in string literals escaped by UTF-16 code units.  The literals can
be read back, and an object can be told from every other one.
-/

namespace RideHailing

namespace JsonText

/-! ## String literals -/

/-- The UTF-16 code units of a character. -/
def utf16 (letter : Char) : List Nat :=
  if letter.toNat < 0x10000 then [letter.toNat]
  else [0xd800 + (letter.toNat - 0x10000) / 0x400, 0xdc00 + (letter.toNat - 0x10000) % 0x400]

/-- `ESCAPE_DCT`: the units that have a short escape, and its letter. -/
def shortEscapes : List (Nat × Char) :=
  [(34, '"'), (92, '\\'), (8, 'b'), (12, 'f'), (10, 'n'), (13, 'r'), (9, 't')]

def hexadecimal (unit : Nat) : List Char :=
  [Nat.digitChar (unit / 4096 % 16), Nat.digitChar (unit / 256 % 16),
    Nat.digitChar (unit / 16 % 16), Nat.digitChar (unit % 16)]

/-- A unit inside a literal. -/
def escapeUnit (unit : Nat) : List Char :=
  match shortEscapes.lookup unit with
  | some letter => ['\\', letter]
  | none =>
      if 32 ≤ unit ∧ unit ≤ 126 then [Char.ofNat unit]
      else '\\' :: 'u' :: hexadecimal unit

/-- The literal of a text. -/
def quote (text : String) : List Char :=
  '"' :: (text.toList.flatMap utf16).flatMap escapeUnit ++ ['"']

/-! ## Reading a literal -/

def hexValue (letter : Char) : Nat :=
  if letter.isDigit then letter.toNat - 48 else letter.toNat - 87

/-- The units of a literal up to its closing quote, and the text behind it. -/
def readUnits : List Char → Option (List Nat × List Char)
  | [] => none
  | '"' :: rest => some ([], rest)
  | '\\' :: 'u' :: a :: b :: c :: d :: rest =>
      (readUnits rest).map fun (units, behind) =>
        ((4096 * hexValue a + 256 * hexValue b + 16 * hexValue c + hexValue d) :: units, behind)
  | '\\' :: short :: rest =>
      match shortEscapes.find? fun (_, letter) => letter == short with
      | none => none
      | some (unit, _) => (readUnits rest).map fun (units, behind) => (unit :: units, behind)
  | letter :: rest =>
      (readUnits rest).map fun (units, behind) => (letter.toNat :: units, behind)

/-- The text of these units; a high unit followed by a low one is one character. -/
def ofUnits : List Nat → List Char
  | [] => []
  | [unit] => [Char.ofNat unit]
  | high :: low :: units =>
      if 0xd800 ≤ high ∧ high < 0xdc00 ∧ 0xdc00 ≤ low ∧ low < 0xe000 then
        Char.ofNat (0x10000 + (high - 0xd800) * 0x400 + (low - 0xdc00)) :: ofUnits units
      else Char.ofNat high :: ofUnits (low :: units)

/-- The text of a literal, and what comes behind it. -/
def unquote : List Char → Option (String × List Char)
  | '"' :: rest => (readUnits rest).map fun (units, behind) =>
      (String.ofList (ofUnits units), behind)
  | _ => none

example : String.ofList (quote "é \"😀\"\n") = "\"\\u00e9 \\\"\\ud83d\\ude00\\\"\\n\"" ∧
    unquote (quote "é \"😀\"\n") = some ("é \"😀\"\n", []) := by
  decide +kernel

/-! ## The round trip -/

/-- A character is no surrogate. -/
theorem toNat_valid (letter : Char) :
    letter.toNat < 0xd800 ∨ 0xdfff < letter.toNat ∧ letter.toNat < 0x110000 :=
  letter.valid

theorem utf16_lt {letter : Char} {unit : Nat} (mem : unit ∈ utf16 letter) : unit < 0x10000 := by
  have valid := toNat_valid letter
  unfold utf16 at mem
  split at mem
  · simp at mem
    omega
  · simp at mem
    omega

/-- The units of a character are not mistaken for those of two, nor of another one. -/
theorem ofUnits_utf16 (letter : Char) (units : List Nat) :
    ofUnits (utf16 letter ++ units) = letter :: ofUnits units := by
  have valid := toNat_valid letter
  unfold utf16
  split
  · rename_i basic
    cases units with
    | nil => simp [ofUnits]
    | cons unit units =>
        simp only [List.singleton_append, ofUnits]
        rw [if_neg (by omega)]
        simp
  · rename_i wide
    simp only [List.cons_append, List.nil_append, ofUnits]
    rw [if_pos (by omega)]
    have value : 0x10000 + (0xd800 + (letter.toNat - 0x10000) / 0x400 - 0xd800) * 0x400 +
        (0xdc00 + (letter.toNat - 0x10000) % 0x400 - 0xdc00) = letter.toNat := by
      omega
    rw [value, Char.ofNat_toNat]

theorem ofUnits_flatMap (letters : List Char) : ofUnits (letters.flatMap utf16) = letters := by
  induction letters with
  | nil => rfl
  | cons letter letters ih => rw [List.flatMap_cons, ofUnits_utf16, ih]

theorem hexValue_digitChar : ∀ digit < 16, hexValue (Nat.digitChar digit) = digit := by
  decide

theorem toNat_ofNat : ∀ unit < 127, (Char.ofNat unit).toNat = unit := by
  decide

/-- A unit is read back from its escape. -/
theorem readUnits_escapeUnit {unit : Nat} (bound : unit < 0x10000) (rest : List Char) :
    readUnits (escapeUnit unit ++ rest) =
      (readUnits rest).map fun (units, behind) => (unit :: units, behind) := by
  unfold escapeUnit
  cases escape : shortEscapes.lookup unit with
  | some short =>
      have listed : ∀ pair ∈ shortEscapes, readUnits ('\\' :: pair.2 :: rest) =
          (readUnits rest).map fun (units, behind) => (pair.1 :: units, behind) := by
        intro pair mem
        simp only [shortEscapes, List.mem_cons, List.not_mem_nil, or_false] at mem
        rcases mem with rfl | rfl | rfl | rfl | rfl | rfl | rfl <;> simp [readUnits, shortEscapes]
      obtain ⟨before, after, split, _⟩ := List.lookup_eq_some_iff.mp escape
      exact listed (unit, short) (by simp [split])
  | none =>
      simp only
      split
      · rename_i printable
        have value := toNat_ofNat unit (by omega)
        have unescaped := List.lookup_eq_none_iff.mp escape
        have notQuote : Char.ofNat unit ≠ '"' := by
          intro same
          rw [same] at value
          simp [shortEscapes, ← value] at unescaped
        have notEscape : Char.ofNat unit ≠ '\\' := by
          intro same
          rw [same] at value
          simp [shortEscapes, ← value] at unescaped
        rw [List.singleton_append, readUnits.eq_def]
        split <;> simp_all
      · simp only [hexadecimal, List.cons_append, List.nil_append, readUnits]
        have value : 4096 * hexValue (Nat.digitChar (unit / 4096 % 16)) +
            256 * hexValue (Nat.digitChar (unit / 256 % 16)) +
            16 * hexValue (Nat.digitChar (unit / 16 % 16)) +
            hexValue (Nat.digitChar (unit % 16)) = unit := by
          rw [hexValue_digitChar _ (by omega), hexValue_digitChar _ (by omega),
            hexValue_digitChar _ (by omega), hexValue_digitChar _ (by omega)]
          omega
        rw [value]

theorem readUnits_flatMap {units : List Nat} (bounds : ∀ unit ∈ units, unit < 0x10000)
    (rest : List Char) :
    readUnits (units.flatMap escapeUnit ++ '"' :: rest) = some (units, rest) := by
  induction units with
  | nil => simp [readUnits]
  | cons unit units ih =>
      rw [List.flatMap_cons, List.append_assoc, readUnits_escapeUnit (bounds unit (by simp)),
        ih fun other mem => bounds other (List.mem_cons_of_mem unit mem)]
      rfl

/-- A literal is read back as the text that it was written for. -/
theorem unquote_quote (text : String) (rest : List Char) :
    unquote (quote text ++ rest) = some (text, rest) := by
  have bounds : ∀ unit ∈ text.toList.flatMap utf16, unit < 0x10000 := by
    intro unit mem
    obtain ⟨letter, _, inside⟩ := List.mem_flatMap.mp mem
    exact utf16_lt inside
  simp [quote, unquote, readUnits_flatMap bounds, ofUnits_flatMap]

theorem quote_inj {text text' : String} {rest rest' : List Char}
    (same : quote text ++ rest = quote text' ++ rest') : text = text' ∧ rest = rest' := by
  have read := unquote_quote text rest
  rw [same, unquote_quote] at read
  cases read
  exact ⟨rfl, rfl⟩

/-! ## ASCII on one line -/

/-- The letter is a space or can be seen. -/
def Printable (letter : Char) : Prop :=
  32 ≤ letter.toNat ∧ letter.toNat ≤ 126

instance (letter : Char) : Decidable (Printable letter) := by
  unfold Printable
  infer_instance

theorem printable_digitChar : ∀ digit < 16, Printable (Nat.digitChar digit) := by
  decide

theorem printable_escapeUnit {unit : Nat} {letter : Char} (mem : letter ∈ escapeUnit unit) :
    Printable letter := by
  unfold escapeUnit at mem
  split at mem
  · rename_i short escape
    obtain ⟨before, after, split, _⟩ := List.lookup_eq_some_iff.mp escape
    have visible : ∀ pair ∈ shortEscapes, Printable pair.2 := by decide
    simp only [List.mem_cons, List.not_mem_nil, or_false] at mem
    rcases mem with rfl | rfl
    · decide
    · exact visible (unit, letter) (by simp [split])
  · split at mem
    · rename_i printable
      obtain rfl := List.mem_singleton.mp mem
      rw [Printable, toNat_ofNat unit (by omega)]
      exact printable
    · simp only [hexadecimal, List.mem_cons, List.not_mem_nil, or_false] at mem
      rcases mem with rfl | rfl | rfl | rfl | rfl | rfl
      · decide
      · decide
      all_goals exact printable_digitChar _ (by omega)

theorem printable_quote {text : String} {letter : Char} (mem : letter ∈ quote text) :
    Printable letter := by
  simp only [quote, List.cons_append, List.mem_cons, List.mem_append, List.mem_flatMap,
    List.not_mem_nil, or_false] at mem
  rcases mem with rfl | ⟨unit, _, inside⟩ | rfl
  · decide
  · exact printable_escapeUnit inside
  · decide

/-! ## Objects -/

/-- A literal without quotes: a number, `null`, `NaN` or an infinity. -/
structure Numeral where
  letters : List Char
  printable : ∀ letter ∈ letters, Printable letter
  bare : ∀ letter ∈ letters, letter ∉ ['"', ',', '}']

inductive Value where
  | text (text : String)
  | numeral (numeral : Numeral)

def Value.dumps : Value → List Char
  | .text string => quote string
  | .numeral number => number.letters

/-- A key with its value. -/
def member (field : String × Value) : List Char :=
  quote field.1 ++ ':' :: ' ' :: field.2.dumps

/-- What comes behind a member: the other members and the closing brace. -/
def behind : List (String × Value) → List Char
  | [] => ['}']
  | field :: fields => ',' :: ' ' :: (member field ++ behind fields)

/-- `json.dumps` of a dictionary with these items. -/
def dumps : List (String × Value) → String
  | [] => String.ofList ['{', '}']
  | field :: fields => String.ofList ('{' :: (member field ++ behind fields))

/-! ## Telling objects apart -/

theorem printable_member {field : String × Value} {letter : Char} (mem : letter ∈ member field) :
    Printable letter := by
  obtain ⟨name, value⟩ := field
  simp only [member, List.mem_append, List.mem_cons] at mem
  rcases mem with inside | rfl | rfl | inside
  · exact printable_quote inside
  · decide
  · decide
  · cases value with
    | text string => exact printable_quote inside
    | numeral number => exact number.printable letter inside

theorem printable_behind {fields : List (String × Value)} {letter : Char}
    (mem : letter ∈ behind fields) : Printable letter := by
  induction fields with
  | nil =>
      obtain rfl := List.mem_singleton.mp mem
      decide
  | cons field fields ih =>
      simp only [behind, List.mem_cons, List.mem_append] at mem
      rcases mem with rfl | rfl | inside | later
      · decide
      · decide
      · exact printable_member inside
      · exact ih later

theorem printable_dumps {fields : List (String × Value)} {letter : Char}
    (mem : letter ∈ (dumps fields).toList) : Printable letter := by
  cases fields with
  | nil =>
      simp only [dumps, String.toList_ofList, List.mem_cons, List.not_mem_nil, or_false] at mem
      rcases mem with rfl | rfl <;> decide
  | cons field fields =>
      simp only [dumps, String.toList_ofList, List.mem_cons, List.mem_append] at mem
      rcases mem with rfl | inside | later
      · decide
      · exact printable_member inside
      · exact printable_behind later

/-- The parts before the first marks, of whatever kind these are. -/
theorem eq_of_marked {marks part part' rest rest' : List Char} {mark mark' : Char}
    (free : ∀ letter ∈ part, letter ∉ marks) (free' : ∀ letter ∈ part', letter ∉ marks)
    (isMark : mark ∈ marks) (isMark' : mark' ∈ marks)
    (same : part ++ mark :: rest = part' ++ mark' :: rest') :
    part = part' ∧ mark :: rest = mark' :: rest' := by
  induction part generalizing part' with
  | nil =>
      cases part' with
      | nil => exact ⟨rfl, same⟩
      | cons letter part' =>
          obtain ⟨rfl, _⟩ := List.cons.inj same
          exact absurd isMark (free' mark (by simp))
  | cons letter part ih =>
      cases part' with
      | nil =>
          obtain ⟨rfl, _⟩ := List.cons.inj same
          exact absurd isMark' (free letter (by simp))
      | cons letter' part' =>
          obtain ⟨rfl, others⟩ := List.cons.inj same
          obtain ⟨rfl, later⟩ := ih (fun other mem => free other (List.mem_cons_of_mem _ mem))
            (fun other mem => free' other (List.mem_cons_of_mem _ mem)) others
          exact ⟨rfl, later⟩

/-- What comes behind a member begins with a mark that is no quote. -/
theorem behind_head (fields : List (String × Value)) :
    ∃ mark rest, behind fields = mark :: rest ∧ mark ∈ ['"', ',', '}'] ∧ mark ≠ '"' := by
  cases fields with
  | nil => exact ⟨_, _, rfl, by simp, by decide⟩
  | cons field fields => exact ⟨_, _, rfl, by simp, by decide⟩

/-- A bare literal is not taken for a quoted one. -/
theorem quote_ne_bare {text : String} {number : Numeral} {fields : List (String × Value)}
    {rest : List Char} (same : quote text ++ rest = number.letters ++ behind fields) : False := by
  obtain ⟨mark, others, isBehind, _, notQuote⟩ := behind_head fields
  rw [isBehind] at same
  cases letters : number.letters with
  | nil =>
      rw [letters] at same
      obtain ⟨isQuote, _⟩ := List.cons.inj same
      exact notQuote isQuote.symm
  | cons letter more =>
      rw [letters] at same
      obtain ⟨rfl, _⟩ := List.cons.inj same
      exact number.bare '"' (by simp [letters]) (by simp)

theorem value_inj {value value' : Value} {fields fields' : List (String × Value)}
    (same : value.dumps ++ behind fields = value'.dumps ++ behind fields') :
    value = value' ∧ behind fields = behind fields' := by
  cases value with
  | text string =>
      cases value' with
      | text string' =>
          obtain ⟨rfl, later⟩ := quote_inj same
          exact ⟨rfl, later⟩
      | numeral number' => exact (quote_ne_bare same).elim
  | numeral number =>
      cases value' with
      | text string' => exact (quote_ne_bare same.symm).elim
      | numeral number' =>
          obtain ⟨mark, rest, isBehind, isMark, _⟩ := behind_head fields
          obtain ⟨mark', rest', isBehind', isMark', _⟩ := behind_head fields'
          rw [isBehind, isBehind'] at same ⊢
          obtain ⟨lettersEq, later⟩ :=
            eq_of_marked number.bare number'.bare isMark isMark' same
          obtain ⟨letters, _, _⟩ := number
          obtain ⟨letters', _, _⟩ := number'
          obtain rfl : letters = letters' := lettersEq
          exact ⟨rfl, later⟩

theorem member_inj {field field' : String × Value} {fields fields' : List (String × Value)}
    (same : member field ++ behind fields = member field' ++ behind fields') :
    field = field' ∧ behind fields = behind fields' := by
  obtain ⟨name, value⟩ := field
  obtain ⟨name', value'⟩ := field'
  simp only [member, List.append_assoc, List.cons_append] at same
  obtain ⟨rfl, values⟩ := quote_inj same
  obtain ⟨rfl, later⟩ := value_inj (List.cons.inj (List.cons.inj values).2).2
  exact ⟨rfl, later⟩

theorem behind_inj {fields fields' : List (String × Value)}
    (same : behind fields = behind fields') : fields = fields' := by
  induction fields generalizing fields' with
  | nil =>
      cases fields' with
      | nil => rfl
      | cons field' fields' => simp [behind] at same
  | cons field fields ih =>
      cases fields' with
      | nil => simp [behind] at same
      | cons field' fields' =>
          obtain ⟨rfl, later⟩ := member_inj (List.cons.inj (List.cons.inj same).2).2
          rw [ih later]

/-- Dictionaries with the same text have the same items in the same order. -/
theorem dumps_inj {fields fields' : List (String × Value)} (same : dumps fields = dumps fields') :
    fields = fields' := by
  have letters := congrArg String.toList same
  cases fields with
  | nil =>
      cases fields' with
      | nil => rfl
      | cons field' fields' =>
          simp [dumps, member, quote] at letters
  | cons field fields =>
      cases fields' with
      | nil => simp [dumps, member, quote] at letters
      | cons field' fields' =>
          simp only [dumps, String.toList_ofList] at letters
          obtain ⟨rfl, later⟩ := member_inj (List.cons.inj letters).2
          rw [behind_inj later]

end JsonText

end RideHailing
