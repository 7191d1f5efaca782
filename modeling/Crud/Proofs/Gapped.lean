import Crud.Proofs.Literal

/-!
# Texts with gaps

Two texts are compared that are the same except in their gaps: one has a placeholder in every gap,
the other the literal of a value. `Gapped` relates such texts to the list of values that fill the
gaps, first gap first. `weave` says what this means without a relation: there is one list of texts
between the gaps, from which both come.
-/

namespace Crud

/-- Texts with fillings between them: a text, a filling, the next text and so on. -/
def weave : List String → List String → String
  | text :: texts, filling :: fillings => text ++ filling ++ weave texts fillings
  | text :: _, [] => text
  | [], _ => ""

/-- The two texts differ only in their gaps: the first has a placeholder in each, the second the
literals of the values in order. -/
inductive Gapped (placeholder : String) : String → String → List Value → Prop where
  /-- A text without gaps. -/
  | text (same : String) : Gapped placeholder same same []
  /-- A gap after a text, and what follows. -/
  | gap (before : String) (value : Value) {masked inline : String} {values : List Value}
      (after : Gapped placeholder masked inline values) :
      Gapped placeholder (before ++ placeholder ++ masked) (before ++ value.literal ++ inline)
        (value :: values)

namespace Gapped

variable {placeholder masked inline : String} {values : List Value}

/-- One gap with nothing around it. -/
theorem value (value : Value) : Gapped placeholder placeholder value.literal [value] := by
  have single : Gapped placeholder _ _ _ := gap "" value (text "")
  rwa [String.empty_append, String.append_empty, String.empty_append, String.append_empty]
    at single

/-- A text before. -/
theorem prepend (before : String) (gapped : Gapped placeholder masked inline values) :
    Gapped placeholder (before ++ masked) (before ++ inline) values := by
  cases gapped with
  | text => exact text (before ++ masked)
  | gap between value after =>
    have longer := gap (before ++ between) value after
    simpa only [String.append_assoc] using longer

/-- Gaps after gaps. -/
theorem append {masked' inline' : String} {values' : List Value}
    (before : Gapped placeholder masked inline values)
    (after : Gapped placeholder masked' inline' values') :
    Gapped placeholder (masked ++ masked') (inline ++ inline') (values ++ values') := by
  induction before with
  | text same => exact after.prepend same
  | gap between value _ ih =>
    have longer := gap between value ih
    simpa only [String.append_assoc, List.cons_append] using longer

/-- A text after. -/
theorem followed (gapped : Gapped placeholder masked inline values) (after : String) :
    Gapped placeholder (masked ++ after) (inline ++ after) values := by
  have longer := gapped.append (text after)
  rwa [List.append_nil] at longer

/-- Two values with a text between them. -/
theorem pair (lower upper : Value) (between : String) :
    Gapped placeholder (placeholder ++ between ++ placeholder)
      (lower.literal ++ between ++ upper.literal) [lower, upper] := by
  have first : Gapped placeholder (placeholder ++ between) (lower.literal ++ between) [lower] :=
    (value lower).followed between
  exact first.append (value upper)

/-- Both texts are woven from the same texts, of which there is one more than there are values. -/
theorem exists_weave (gapped : Gapped placeholder masked inline values) :
    ∃ texts : List String, texts.length = values.length + 1 ∧
      masked = weave texts (List.replicate values.length placeholder) ∧
      inline = weave texts (values.map Value.literal) := by
  induction gapped with
  | text same => exact ⟨[same], rfl, rfl, rfl⟩
  | gap before value _ ih =>
    obtain ⟨texts, length, rfl, rfl⟩ := ih
    exact ⟨before :: texts, congrArg (· + 1) length, rfl, rfl⟩

/-- With a placeholder that has characters, a text without characters has no gap. -/
theorem values_eq_nil (visible : placeholder ≠ "")
    (gapped : Gapped placeholder masked inline values) (empty : masked = "") : values = [] := by
  cases gapped with
  | text => rfl
  | gap before value _ =>
    simp only [String.append_eq_empty_iff] at empty
    exact absurd empty.1.2 visible

/-- With a placeholder that has characters, either both texts have characters or neither has. -/
theorem eq_empty_iff (visible : placeholder ≠ "")
    (gapped : Gapped placeholder masked inline values) : masked = "" ↔ inline = "" := by
  cases gapped with
  | text => exact Iff.rfl
  | gap before value _ => simp [String.append_eq_empty_iff, visible, value.literal_ne_empty]

end Gapped

end Crud
