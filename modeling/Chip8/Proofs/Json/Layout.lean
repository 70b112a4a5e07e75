import Chip8.Proofs.Json.Values
import Mathlib.Data.List.DropRight

namespace Chip8.Json

/-!
# White space and commas

What stands between the values of a text.  Blanks change nothing of what is
found behind them, and a value ends at the blanks, the comma or the bracket that
follow it.
-/

/-! ## Blanks -/

/-- White space in front makes no difference to what is found behind it. -/
theorem skipBlanks_blanks
    (blanks : Blanks)
    (text : List Char) :
    skipBlanks (blanks.text ++ text) = skipBlanks text := by
  exact List.dropWhile_append_of_pos blanks.areBlank

/-- Behind a token nothing changes what is skipped before it. -/
theorem skipBlanks_append_of_start
    {text rest : List Char}
    {c : Char}
    (start : skipBlanks text = c :: rest)
    (more : List Char) :
    skipBlanks (text ++ more) = c :: (rest ++ more) := by
  unfold skipBlanks at start ⊢
  rw [List.dropWhile_append, start]
  rfl

/-- Where white space was passed over none is left. -/
theorem skipBlanks_skipBlanks
    (text : List Char) :
    skipBlanks (skipBlanks text) = skipBlanks text := by
  exact List.dropWhile_idempotent _ _

/-- Blanks between a value and what ends it end it already. -/
theorem EndsValue.behind_blanks
    {rest : List Char}
    (ends : EndsValue rest)
    (blanks : Blanks) :
    EndsValue (blanks.text ++ rest) := by
  obtain ⟨text, areBlank⟩ := blanks
  cases text with
  | nil =>
      exact ends
  | cons c text =>
      intro first isFirst
      cases isFirst
      have blank : isBlank c = true :=
        areBlank c List.mem_cons_self
      simp only [isBlank, Bool.or_eq_true, beq_iff_eq] at blank
      obtain ((rfl | rfl) | rfl) | rfl := blank <;> decide

/-! ## Commas -/

/-- Texts in front of an ending, with a comma before each but the first. -/
def separated
    (ending : List Char)
    (first : Bool) :
    List (List Char) → List Char
  | [] => ending
  | text :: rest => (if first then [] else [',']) ++ (text ++ separated ending false rest)

/-- A list of texts with commas between them goes on with the text behind it. -/
theorem intercalate_append
    (texts : List (List Char))
    (ending : List Char) :
    List.intercalate [','] texts ++ ending = separated ending true texts := by
  cases texts with
  | nil =>
      rfl
  | cons text texts =>
      induction texts generalizing text with
      | nil =>
          simp [separated]
      | cons second rest inductionHypothesis =>
          have later := inductionHypothesis second
          rw [List.intercalate_cons_of_ne_nil (by simp), List.append_assoc, List.append_assoc,
            later]
          rfl

/-- A comma ends a value. -/
theorem endsValue_comma
    (rest : List Char) :
    EndsValue (',' :: rest) := by
  intro c first
  cases first
  decide

/-- What goes on with a comma, or ends, ends a value. -/
theorem EndsValue.separated
    {ending : List Char}
    (ends : EndsValue ending)
    (texts : List (List Char)) :
    EndsValue (separated ending false texts) := by
  cases texts with
  | nil => exact ends
  | cons => exact endsValue_comma _

/-- A closing bracket ends a value. -/
theorem endsValue_closing
    (bracket : Bracket)
    (rest : List Char) :
    EndsValue (bracket.closing :: rest) := by
  intro c first
  cases first
  cases bracket <;> decide

end Chip8.Json
