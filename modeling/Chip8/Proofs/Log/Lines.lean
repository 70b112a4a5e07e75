import Chip8.Log.Event
import Chip8.Log.Journal
import Chip8.Proofs.Instruction.Assembly

namespace Chip8

/-!
# Messages as lines

The message of every event is a single line, whatever numbers and instructions
it tells of.  A text that was written line by line can therefore be taken apart
again at its line ends.
-/

/-- A text without a line end. -/
def OneLine (text : String) : Prop :=
  '\n' ∉ text.toList

instance
    (text : String) :
    Decidable (OneLine text) :=
  inferInstanceAs (Decidable (¬ '\n' ∈ text.toList))

namespace OneLine

/-- Texts put together are one line exactly when each of them is. -/
@[simp] theorem append_iff
    {first second : String} :
    OneLine (first ++ second) ↔ OneLine first ∧ OneLine second := by
  simp [OneLine]

/-- A text inside an interpolated one stands there as it is. -/
@[simp] theorem toString_iff
    {text : String} :
    OneLine (toString text) ↔ OneLine text :=
  Iff.rfl

/-- A hexadecimal numeral is one line. -/
@[simp] theorem hexadecimal
    (width n : Nat) :
    OneLine (Hex.numeral width n) := by
  intro lineEnd
  have digit : (Hex.digitValue? '\n').isSome :=
    Hex.isDigit_of_mem_numeral lineEnd
  exact absurd digit (by decide)

/-- A decimal numeral is one line. -/
@[simp] theorem decimal
    (n : Nat) :
    OneLine n.repr := by
  intro lineEnd
  rw [Nat.toList_repr] at lineEnd
  have digit : '\n'.isDigit = true :=
    Nat.isDigit_of_mem_toDigits (by decide) (by decide) lineEnd
  exact absurd digit (by decide)

end OneLine

/-- The text of a fault is one line. -/
theorem Fault.message_oneLine
    (fault : Fault) :
    OneLine fault.message := by
  cases fault
  case stackUnderflow =>
    decide
  all_goals
    dsimp only [message]
    simp [-String.reduceAppend]
    decide

/-- The text of a refusal to load is one line. -/
theorem LoadError.message_oneLine
    (error : LoadError) :
    OneLine error.message := by
  cases error
  case empty =>
    decide
  case tooLarge =>
    dsimp only [message]
    simp [-String.reduceAppend]
    decide

/-- A word is one line. -/
theorem IsWord.oneLine
    {text : String}
    (isWord : IsWord text) :
    OneLine text :=
  fun lineEnd => (isWord '\n' lineEnd).2.2 rfl

/-- A line of words is one line. -/
theorem InstructionOver.line_oneLine
    {mnemonic : String}
    {operands : List String}
    (named : IsWord mnemonic)
    (operated : ∀ operand ∈ operands, IsWord operand) :
    OneLine (line mnemonic operands) := by
  have rest_oneLine
      {rest : List String}
      (areWords : ∀ operand ∈ rest, IsWord operand) :
      OneLine (String.join (rest.map (", " ++ ·))) := by
    induction rest with
    | nil =>
        decide
    | cons first rest inductionHypothesis =>
        obtain ⟨firstIsWord, restAreWords⟩ := List.forall_mem_cons.mp areWords
        have separator : OneLine ", " := by decide
        rw [List.map_cons, String.join_cons]
        simp only [OneLine.append_iff]
        exact ⟨⟨separator, firstIsWord.oneLine⟩, inductionHypothesis restAreWords⟩
  rcases operands with _ | ⟨first, rest⟩
  · exact named.oneLine
  · obtain ⟨firstIsWord, restAreWords⟩ := List.forall_mem_cons.mp operated
    have blank : OneLine " " := by decide
    simp only [line, OneLine.append_iff]
    exact ⟨⟨⟨named.oneLine, blank⟩, firstIsWord.oneLine⟩, rest_oneLine restAreWords⟩

/-- The text of an instruction is one line. -/
theorem Instruction.text_oneLine
    (instruction : Instruction) :
    OneLine instruction.text :=
  InstructionOver.line_oneLine instruction.mnemonic_isWord (instruction.operands_areWords Fin.val)

/-- The message of an event is one line. -/
theorem Event.message_oneLine
    (event : Event) :
    OneLine event.message := by
  cases event
  all_goals
    dsimp only [message, wordText]
    simp [Fault.message_oneLine, LoadError.message_oneLine, Instruction.text_oneLine,
      -String.reduceAppend]
    decide

namespace Journal

/-- The lines of a text in which every line has its end. -/
def linesOf (text : String) : List String :=
  ((text.toList.splitOn '\n').dropLast).map String.ofList

/-- Lines that were written one after the other are found again in the text. -/
theorem linesOf_join
    {lines : List String}
    (oneLine : ∀ line ∈ lines, OneLine line) :
    linesOf (String.join (lines.map (· ++ "\n"))) = lines := by
  have joined :
      (String.join (lines.map (· ++ "\n"))).toList =
        List.intercalate ['\n'] (lines.map String.toList ++ [[]]) := by
    clear oneLine
    induction lines with
    | nil =>
        rfl
    | cons line rest inductionHypothesis =>
        rw [List.map_cons, String.join_cons, String.toList_append, inductionHypothesis,
          List.map_cons, List.cons_append, List.intercalate_cons_of_ne_nil (by simp)]
        simp
  have split :
      (String.join (lines.map (· ++ "\n"))).toList.splitOn '\n' =
        lines.map String.toList ++ [[]] := by
    rw [joined]
    refine List.splitOn_intercalate _ ?_ (by simp)
    intro piece member
    rcases List.mem_append.mp member with written | last
    · obtain ⟨line, among, rfl⟩ := List.mem_map.mp written
      exact oneLine line among
    · simp [List.mem_singleton.mp last]
  rw [linesOf, split, List.dropLast_concat, List.map_map]
  exact List.map_id'' (fun line => String.ofList_toList) lines

end Journal

end Chip8
