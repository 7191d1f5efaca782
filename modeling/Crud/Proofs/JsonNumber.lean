import Crud.Json.Printer
import Crud.Json.Reader
import Crud.Proofs.Lists

/-!
# Numbers in JSON texts

A number that has been written is read back before any text that does not continue it, as no comma
and no closing bracket does. Of an integer all parts are known. Of a double only its characters are
known and that it is read back by itself, so the reader is shown to take the same number off a
longer text.
-/

namespace Crud.Json

/-- The character can follow a digit within a number. -/
def continuesNumber (char : Char) : Bool :=
  Text.isDigit char || char == '.' || char == 'e' || char == 'E'

/-- What follows a number does not continue it. -/
def EndsNumber (rest : List Char) : Prop := ∀ char ∈ rest.head?, continuesNumber char = false

/-- A number can end with the text. -/
theorem endsNumber_nil : EndsNumber [] := nofun

/-- A number can end before a character that does not continue it. -/
theorem endsNumber_cons {char : Char} (ends : continuesNumber char = false) (rest : List Char) :
    EndsNumber (char :: rest) := by
  intro first isFirst
  obtain rfl := Option.mem_some.mp isFirst
  exact ends

namespace EndsNumber

variable {rest : List Char} {char : Char}

/-- What ends a number begins with no digit, no point and no mark of a power. -/
theorem of_cons (ends : EndsNumber (char :: rest)) :
    Text.isDigit char = false ∧ char ≠ '.' ∧ char ≠ 'e' ∧ char ≠ 'E' := by
  have stops := ends char rfl
  simpa only [continuesNumber, Bool.or_eq_false_iff, beq_eq_false_iff_ne, and_assoc] using stops

/-- No digits are taken off what ends a number. -/
theorem takeDigits (ends : EndsNumber rest) : takeDigits rest = ([], rest) := by
  cases rest with
  | nil => rfl
  | cons char rest => simp [Crud.takeDigits, ends.of_cons.1]

/-- No fraction is taken off what ends a number. -/
theorem takeFraction (ends : EndsNumber rest) : takeFraction rest = some (none, rest) := by
  unfold Json.takeFraction
  split
  · exact absurd rfl ends.of_cons.2.1
  · rfl

/-- No power is taken off what ends a number. -/
theorem takePower (ends : EndsNumber rest) : takePower rest = some (none, rest) := by
  cases rest with
  | nil => rfl
  | cons char rest =>
    have noMark : ¬(char = 'e' ∨ char = 'E') := not_or.mpr ends.of_cons.2.2
    rw [Json.takePower, if_neg noMark]

end EndsNumber

/-- The same digits are taken off a text that is followed by what ends a number. -/
theorem takeDigits_append {rest : List Char} (ends : EndsNumber rest) (chars : List Char) :
    takeDigits (chars ++ rest) = ((takeDigits chars).1, (takeDigits chars).2 ++ rest) := by
  induction chars with
  | nil => exact ends.takeDigits
  | cons char chars ih =>
    simp only [takeDigits, Prod.mk.injEq] at ih
    by_cases digit : Text.isDigit char = true
    · simp [takeDigits, digit, ih]
    · simp [takeDigits, digit]

/-- Behind digits there are only characters of the text. -/
theorem takeDigits_subset (chars : List Char) : (takeDigits chars).2 ⊆ chars :=
  (List.dropWhile_suffix _).subset

/-- The reader takes the value off the front of the text, and it still does so when something
follows the text that does not continue a number. -/
structure Takes {α : Type} (take : List Char → Option (α × List Char)) (chars : List Char)
    (value : α) (after : List Char) : Prop where
  /-- What is left has only characters of the text. -/
  subset : after ⊆ chars
  /-- The same value is taken off a longer text. -/
  append : ∀ rest, EndsNumber rest → take (chars ++ rest) = some (value, after ++ rest)

/-- A fraction is taken in the same way off a longer text. -/
theorem takeFraction_takes {chars after : List Char} {fraction : Option (List Char)}
    (taken : takeFraction chars = some (fraction, after)) :
    Takes takeFraction chars fraction after := by
  unfold takeFraction at taken
  split at taken
  next rest =>
    by_cases none : (takeDigits rest).1.isEmpty = true
    · simp [none] at taken
    · simp only [none, Bool.false_eq_true, ↓reduceIte, Option.some.injEq, Prod.mk.injEq] at taken
      obtain ⟨rfl, rfl⟩ := taken
      refine ⟨List.subset_cons_of_subset _ (takeDigits_subset rest), fun more ends => ?_⟩
      simp [takeFraction, takeDigits_append ends, none]
  next noPoint =>
    cases taken
    refine ⟨List.Subset.refl _, fun more ends => ?_⟩
    cases chars with
    | nil => exact ends.takeFraction
    | cons char chars =>
      rw [List.cons_append, takeFraction]
      intro rest same
      exact noPoint chars (by rw [(List.cons.inj same).1])

/-- The sign is in front of a text that is not empty, whatever follows the text. -/
theorem takeSign_append {chars : List Char} (some : chars ≠ []) (rest : List Char) :
    takeSign (chars ++ rest) = ((takeSign chars).1, (takeSign chars).2 ++ rest) := by
  cases chars with
  | nil => contradiction
  | cons char chars =>
    by_cases plus : char = '+'
    · subst plus
      rfl
    by_cases minus : char = '-'
    · subst minus
      rfl
    · simp [takeSign, plus, minus]

/-- Behind a sign there are only characters of the text. -/
theorem takeSign_subset (chars : List Char) : (takeSign chars).2 ⊆ chars := by
  unfold takeSign
  split
  · exact List.subset_cons_self _ _
  · exact List.subset_cons_self _ _
  · exact List.Subset.refl _

/-- A power is taken in the same way off a longer text. -/
theorem takePower_takes {chars after : List Char} {power : Option Int}
    (taken : takePower chars = some (power, after)) : Takes takePower chars power after := by
  cases chars with
  | nil =>
    cases taken
    exact ⟨List.Subset.refl _, fun rest ends => ends.takePower⟩
  | cons mark chars =>
    rw [takePower] at taken
    by_cases isMark : mark = 'e' ∨ mark = 'E'
    · rw [if_pos isMark] at taken
      by_cases none : (takeDigits (takeSign chars).2).1.isEmpty = true
      · simp [none] at taken
      · simp only [none, Bool.false_eq_true, ↓reduceIte, Option.some.injEq, Prod.mk.injEq] at taken
        obtain ⟨rfl, rfl⟩ := taken
        -- The mark alone is no power, so the sign is not taken from what follows.
        have some : chars ≠ [] := by
          rintro rfl
          exact none rfl
        refine ⟨?_, fun rest ends => ?_⟩
        · have digits := takeDigits_subset (takeSign chars).2
          exact List.subset_cons_of_subset _ (List.Subset.trans digits (takeSign_subset chars))
        · rw [List.cons_append, takePower, if_pos isMark, takeSign_append some]
          simp [takeDigits_append ends, none]
    · rw [if_neg isMark] at taken
      cases taken
      refine ⟨List.Subset.refl _, fun rest ends => ?_⟩
      rw [List.cons_append, takePower, if_neg isMark]

/-- A number without its sign. -/
def takeMagnitude (negative : Bool) (chars : List Char) : Option (NumberText × List Char) :=
  let whole := (takeDigits chars).1
  if whole.isEmpty ∨ (whole.head? = some '0' ∧ 1 < whole.length) then none
  else do
    let (fraction, rest) ← takeFraction (takeDigits chars).2
    let (power, rest) ← takePower rest
    some (⟨negative, whole, fraction, power⟩, rest)

/-- Behind a minus stands the magnitude of a negative number. -/
theorem takeNumber_minus (chars : List Char) :
    takeNumber ('-' :: chars) = takeMagnitude true chars := rfl

/-- Without a minus there is the magnitude of a number that is not negative. -/
theorem takeNumber_plain {chars : List Char} (plain : ∀ rest, chars ≠ '-' :: rest) :
    takeNumber chars = takeMagnitude false chars := by
  unfold takeNumber
  split
  next negative rest found =>
    split at found
    · exact absurd rfl (plain _)
    · cases found
      rfl

/-- A magnitude is taken in the same way off a longer text. -/
theorem takeMagnitude_takes {negative : Bool} {chars after : List Char} {number : NumberText}
    (taken : takeMagnitude negative chars = some (number, after)) :
    Takes (takeMagnitude negative) chars number after := by
  simp only [takeMagnitude] at taken
  by_cases none : (takeDigits chars).1.isEmpty = true ∨
      ((takeDigits chars).1.head? = some '0' ∧ 1 < (takeDigits chars).1.length)
  · rw [if_pos none] at taken
    cases taken
  · rw [if_neg none] at taken
    simp only [Option.bind_eq_bind, Option.bind_eq_some_iff, Prod.exists, Option.some.injEq,
      Prod.mk.injEq] at taken
    obtain ⟨fraction, afterFraction, fractionTaken, power, afterPower, powerTaken, rfl, rfl⟩ :=
      taken
    have takesFraction := takeFraction_takes fractionTaken
    have takesPower := takePower_takes powerTaken
    refine ⟨?_, fun rest ends => ?_⟩
    · have inFraction := List.Subset.trans takesPower.subset takesFraction.subset
      exact List.Subset.trans inFraction (takeDigits_subset chars)
    · simp only [takeMagnitude]
      rw [takeDigits_append ends, if_neg none, takesFraction.append rest ends]
      simp only [Option.bind_eq_bind, Option.bind_some, takesPower.append rest ends]

/-- A number is taken in the same way off a longer text. -/
theorem takeNumber_takes {chars after : List Char} {number : NumberText}
    (taken : takeNumber chars = some (number, after)) : Takes takeNumber chars number after := by
  by_cases minus : ∃ rest, chars = '-' :: rest
  · obtain ⟨digits, rfl⟩ := minus
    have takes := takeMagnitude_takes taken
    exact ⟨List.subset_cons_of_subset _ takes.subset, takes.append⟩
  · have plain : ∀ rest, chars ≠ '-' :: rest := fun rest same => minus ⟨rest, same⟩
    rw [takeNumber_plain plain] at taken
    have takes := takeMagnitude_takes taken
    refine ⟨takes.subset, fun rest ends => ?_⟩
    rw [takeNumber_plain, takes.append rest ends]
    intro more same
    cases chars with
    | nil => cases taken
    | cons char chars => exact plain chars (by rw [(List.cons.inj same).1])

/-- The digits of a natural number have it as their value. -/
theorem digitsValue_toDigits (n : Nat) : digitsValue (Nat.toDigits 10 n) = n :=
  Nat.ofDigitChars_ten_toDigits

/-- A natural number is written with digits. -/
theorem isDigit_of_mem_toDigits {n : Nat} {char : Char} (listed : char ∈ Nat.toDigits 10 n) :
    Text.isDigit char = true := by
  have digit := Nat.isDigit_of_mem_toDigits (by decide) (by decide) listed
  simpa [Text.isDigit, Char.isDigit, Char.le_def] using digit

/-- The digits of a natural number are a magnitude without fraction and power. -/
theorem takeMagnitude_toDigits (negative : Bool) (n : Nat) {rest : List Char}
    (ends : EndsNumber rest) :
    takeMagnitude negative (Nat.toDigits 10 n ++ rest) =
      some (⟨negative, Nat.toDigits 10 n, none, none⟩, rest) := by
  have digits : takeDigits (Nat.toDigits 10 n ++ rest) = (Nat.toDigits 10 n, rest) := by
    have whole : ∀ char ∈ Nat.toDigits 10 n, Text.isDigit char = true :=
      fun _ listed => isDigit_of_mem_toDigits listed
    have nothing := Prod.mk.inj ends.takeDigits
    rw [takeDigits, List.takeWhile_append_of_pos whole, List.dropWhile_append_of_pos whole,
      nothing.1, nothing.2, List.append_nil]
  have wellFormed : ¬((Nat.toDigits 10 n).isEmpty = true ∨
      (Nat.toDigits 10 n).head? = some '0' ∧ 1 < (Nat.toDigits 10 n).length) := by
    rintro (none | ⟨leading, long⟩)
    · exact Nat.toDigits_ne_nil (List.isEmpty_iff.mp none)
    · obtain rfl := Nat.eq_zero_of_head?_toDigits leading
      contradiction
  simp only [takeMagnitude, digits]
  rw [if_neg wellFormed, ends.takeFraction]
  simp only [Option.bind_eq_bind, Option.bind_some, ends.takePower]

/-- The digits of a natural number are a number without a sign. -/
theorem takeNumber_toDigits (n : Nat) {rest : List Char} (ends : EndsNumber rest) :
    takeNumber (Nat.toDigits 10 n ++ rest) =
      some (⟨false, Nat.toDigits 10 n, none, none⟩, rest) := by
  rw [takeNumber_plain, takeMagnitude_toDigits false n ends]
  intro more same
  have minus : (Nat.toDigits 10 n ++ rest).head? = some '-' := by rw [same, List.head?_cons]
  rw [List.head?_append_of_ne_nil _ Nat.toDigits_ne_nil] at minus
  exact absurd (isDigit_of_mem_toDigits (List.mem_of_mem_head? minus)) (by decide)

/-- An integer that a number can denote: it fits into 64 bits, with or without a sign. -/
def IntegerFits (value : Int) : Prop := Int64.minValue.toInt ≤ value ∧ value < UInt64.size

/-- A natural number below two to the power of 64 fits. -/
theorem integerFits_of_natural {n : Nat} (small : n < UInt64.size) : IntegerFits n := by
  refine ⟨Int.le_trans ?_ (Int.natCast_nonneg n), by omega⟩
  decide

/-- An integer that has been written is read back. -/
theorem takeNumber_integer {value : Int} (fits : IntegerFits value) {rest : List Char}
    (ends : EndsNumber rest) :
    ∃ number, takeNumber ((toString value).toList ++ rest) = some (number, rest) ∧
      number.toJson = .integer value := by
  rw [Int.toString_eq_repr, Int.repr_eq_if]
  by_cases natural : 0 ≤ value
  · refine ⟨⟨false, Nat.toDigits 10 value.toNat, none, none⟩, ?_, ?_⟩
    · rw [if_pos natural, Nat.toList_repr, takeNumber_toDigits _ ends]
    · have magnitude : (value.toNat : Int) = value := Int.toNat_of_nonneg natural
      have small : value.toNat < UInt64.size := by
        have bound := fits.2
        omega
      simp only [NumberText.toJson, digitsValue_toDigits, Option.isSome_none, Bool.or_self,
        Bool.false_eq_true, ↓reduceIte, magnitude]
      rw [if_pos small]
  · refine ⟨⟨true, Nat.toDigits 10 (-value).toNat, none, none⟩, ?_, ?_⟩
    · rw [if_neg natural, String.toList_append, Nat.toList_repr]
      exact (takeNumber_minus _).trans (takeMagnitude_toDigits true _ ends)
    · have magnitude : -((-value).toNat : Int) = value := by omega
      have notZero : (-value).toNat ≠ 0 := by omega
      simp only [NumberText.toJson, digitsValue_toDigits, Option.isSome_none, Bool.or_self,
        Bool.false_eq_true, ↓reduceIte, magnitude]
      rw [if_pos ⟨notZero, fits.1⟩]

/-- The character can stand in a number. -/
def isNumberChar (char : Char) : Bool := continuesNumber char || char == '-' || char == '+'

/-- Every character can stand in a number. -/
def Numeric (chars : List Char) : Prop := ∀ char ∈ chars, isNumberChar char = true

instance (chars : List Char) : Decidable (Numeric chars) :=
  List.decidableBAll (isNumberChar · = true) chars

namespace Numeric

variable {first second : List Char}

/-- Two texts of characters of numbers can stand one behind the other. -/
theorem append (front : Numeric first) (back : Numeric second) : Numeric (first ++ second) :=
  List.forall_mem_append.mpr ⟨front, back⟩

/-- A part of a text of characters of numbers is one. -/
theorem subset (whole : Numeric second) (part : first ⊆ second) : Numeric first :=
  fun char listed => whole char (part listed)

/-- Digits are characters of numbers. -/
theorem toDigits (n : Nat) : Numeric (Nat.toDigits 10 n) := by
  intro char listed
  simp [isNumberChar, continuesNumber, isDigit_of_mem_toDigits listed]

/-- An integer is written with characters of numbers. -/
theorem toString_int (n : Int) : Numeric (toString n).toList := by
  rw [Int.toString_eq_repr, Int.repr_eq_if]
  split
  · rw [Nat.toList_repr]
    exact toDigits _
  · rw [String.toList_append, Nat.toList_repr]
    exact append (by decide) (toDigits _)

/-- Zeros are characters of numbers. -/
theorem zeros (count : Int) : Numeric (NumberStyle.zeros count).toList := by
  intro char listed
  rw [NumberStyle.zeros, String.toList_ofList] at listed
  rw [List.eq_of_mem_replicate listed]
  rfl

end Numeric

/-- Digits with a point are written with characters of numbers. -/
theorem numeric_writePositional (style : NumberStyle) {digits : String}
    (numeric : Numeric digits.toList) (place : Int) :
    Numeric (style.writePositional digits place).toList := by
  unfold NumberStyle.writePositional
  split
  · simp only [String.toList_append]
    exact (Numeric.append (by decide) (.zeros _)).append numeric
  split
  · simp only [String.toList_append]
    refine (numeric.append (.zeros _)).append ?_
    split <;> decide
  · simp only [String.toList_append, String.toList_ofList]
    refine Numeric.append (.append ?_ (by decide)) ?_
    · exact numeric.subset (List.take_subset _ _)
    · exact numeric.subset (List.drop_subset _ _)

/-- Digits with a power are written with characters of numbers. -/
theorem numeric_writeScientific {digits : String} (numeric : Numeric digits.toList)
    (place : Int) : Numeric (NumberStyle.writeScientific digits place).toList := by
  simp only [NumberStyle.writeScientific, String.toList_append, String.toList_ofList]
  refine Numeric.append (.append ?_ ?_) ?_
  · exact numeric.subset (List.take_subset _ _)
  · split
    · decide
    · simp only [String.toList_append, String.toList_ofList]
      exact .append (by decide) (numeric.subset (List.drop_subset _ _))
  · split
    · rw [String.toList_append]
      exact .append (by decide) (.toString_int _)
    · rw [String.toList_append]
      exact .append (by decide) (.toString_int _)

/-- A double is written with characters of numbers. -/
theorem numeric_write (style : NumberStyle) (x : Double) : Numeric (style.write x).toList := by
  have digits (n : Nat) : Numeric (toString n).toList := by
    rw [show toString n = n.repr from rfl, Nat.toList_repr]
    exact .toDigits n
  simp only [NumberStyle.write, String.toList_append]
  refine Numeric.append ?_ ?_
  · split <;> decide
  split
  · split <;> decide
  split
  · exact numeric_writePositional style (digits _) _
  · exact numeric_writeScientific (digits _) _

/-- The character is skipped between tokens. -/
def isBlank (char : Char) : Bool := char = ' ' || char = '\t' || char = '\n' || char = '\r'

/-- No blank is skipped in front of another character. -/
theorem skipBlanks_cons {char : Char} (solid : isBlank char = false) (rest : List Char) :
    skipBlanks (char :: rest) = char :: rest := by
  rw [skipBlanks, List.dropWhile_cons_of_neg]
  rw [Bool.not_eq_true]
  exact solid

/-- A character of a number is no blank. -/
theorem isBlank_eq_false_of_isNumberChar {char : Char} (numeric : isNumberChar char = true) :
    isBlank char = false := by
  rw [← Bool.not_eq_true]
  intro blank
  simp only [isBlank, Bool.or_eq_true, decide_eq_true_eq] at blank
  rcases blank with ((rfl | rfl) | rfl) | rfl <;> contradiction

/-- A value that begins with a character of a number is a number. -/
theorem takeValue_of_isNumberChar {char : Char} (numeric : isNumberChar char = true)
    (rest : List Char) (steps : Nat) :
    takeValue (steps + 1) (char :: rest) =
      (takeNumber (char :: rest)).map fun (number, rest) => (number.toJson, rest) := by
  unfold takeValue
  rw [skipBlanks_cons (isBlank_eq_false_of_isNumberChar numeric)]
  split
  case h_7 => rfl
  all_goals
    next same =>
      rw [(List.cons.inj same).1] at numeric
      contradiction

/-- A double that is read back by itself is read back before other text. -/
theorem takeNumber_double {x : Double} (finite : x.isFinite = true)
    (readBack : ofText? (text (.double x)) = some (.double x)) {rest : List Char}
    (ends : EndsNumber rest) :
    ∃ number, takeNumber (writeDouble x ++ rest) = some (number, rest) ∧
      number.toJson = .double x := by
  have numeric : Numeric (writeDouble x) := by
    rw [writeDouble, if_pos finite]
    exact numeric_write numberStyle x
  simp only [ofText?, text, write, String.toList_ofList] at readBack
  generalize writeDouble x = written at numeric readBack
  cases written with
  | nil => contradiction
  | cons char chars =>
    have isNumber := numeric char List.mem_cons_self
    rw [takeValue_of_isNumberChar isNumber] at readBack
    cases taken : takeNumber (char :: chars) with
    | none =>
      rw [taken] at readBack
      contradiction
    | some found =>
      obtain ⟨number, after⟩ := found
      have takes := takeNumber_takes taken
      simp only [taken, Option.map_some, Option.bind_eq_bind, Option.bind_some,
        Option.ite_none_right_eq_some, Option.some.injEq] at readBack
      -- Only blanks are left, and there is none in a number.
      have nothing : after = [] := by
        cases after with
        | nil => rfl
        | cons first more =>
          have solid := isBlank_eq_false_of_isNumberChar
            (numeric.subset takes.subset first List.mem_cons_self)
          rw [skipBlanks_cons solid] at readBack
          exact absurd readBack.1 nofun
      subst nothing
      exact ⟨number, takes.append rest ends, readBack.2⟩

end Crud.Json
