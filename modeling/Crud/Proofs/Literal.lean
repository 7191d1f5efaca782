import Crud.Proofs.Lists
import Crud.Value

/-!
# Laws of literals

A literal always has characters, so a value written into a text is never lost from sight.
-/

namespace Crud

/-- A positional number has characters when its digits have. -/
theorem NumberStyle.writePositional_ne_empty (style : NumberStyle) {digits : String}
    (visible : digits ≠ "") (place : Int) : style.writePositional digits place ≠ "" := by
  unfold writePositional
  split
  · simp [String.append_eq_empty_iff]
  · split
    · simp [String.append_eq_empty_iff, visible]
    · simp [String.append_eq_empty_iff]

/-- A number with a power of ten has characters. -/
theorem NumberStyle.writeScientific_ne_empty (digits : String) (place : Int) :
    writeScientific digits place ≠ "" := by
  simp only [writeScientific, ne_eq, String.append_eq_empty_iff, not_and]
  intro _
  split <;> simp [String.append_eq_empty_iff]

/-- A number has characters in every style. -/
theorem NumberStyle.write_ne_empty (style : NumberStyle) (x : Double) : style.write x ≠ "" := by
  unfold write
  simp only [ne_eq, String.append_eq_empty_iff, not_and]
  intro _
  split
  · split <;> decide
  split
  · exact style.writePositional_ne_empty Nat.repr_ne_empty _
  · exact writeScientific_ne_empty _ _

namespace Value

/-- The literal of a number has characters. -/
theorem realLiteral_ne_empty (value : Double) : realLiteral value ≠ "" := by
  unfold realLiteral
  split
  · decide
  · split
    · exact numberStyle.write_ne_empty value
    · split <;> decide

/-- Every literal has characters. -/
theorem literal_ne_empty (value : Value) : value.literal ≠ "" := by
  cases value with
  | null => decide
  | bool value => cases value <;> decide
  | int value => exact Int.repr_ne_empty value.toInt
  | real value => exact realLiteral_ne_empty value
  | text value => simp [literal, quoteText, String.append_eq_empty_iff]
  | bytes value => simp [literal, String.append_eq_empty_iff]

end Value

end Crud
