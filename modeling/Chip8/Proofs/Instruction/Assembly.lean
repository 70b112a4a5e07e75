import Chip8.Instruction.Mnemonic
import Chip8.Proofs.Text.Hexadecimal

namespace Chip8

/-!
# Assembly text read back

The parts of a line of assembly text hold no blanks and no commas, so a line
falls into its mnemonic and its operands again.  Together these name one
operation with all its operands: the text of an operation determines it,
whatever numbers its registers have.
-/

/-- A text that is a part of a line: it holds no blank, no comma and no line end. -/
def IsWord (text : String) : Prop :=
  ∀ c ∈ text.toList, c ≠ ' ' ∧ c ≠ ',' ∧ c ≠ '\n'

instance
    (text : String) :
    Decidable (IsWord text) :=
  List.decidableBAll (fun c => c ≠ ' ' ∧ c ≠ ',' ∧ c ≠ '\n') text.toList

namespace IsWord

/-- Words that are put together are a word. -/
theorem append
    {first second : String}
    (firstIsWord : IsWord first)
    (secondIsWord : IsWord second) :
    IsWord (first ++ second) := by
  intro c member
  rw [String.toList_append] at member
  rcases List.mem_append.mp member with inFirst | inSecond
  · exact firstIsWord c inFirst
  · exact secondIsWord c inSecond

/-- A hexadecimal numeral is a word. -/
theorem numeral
    (width n : Nat) :
    IsWord (Hex.numeral width n) := by
  intro c member
  have digit : (Hex.digitValue? c).isSome := Hex.isDigit_of_mem_numeral member
  refine ⟨?_, ?_, ?_⟩
  all_goals
    rintro rfl
    exact absurd digit (by decide)

end IsWord

namespace InstructionOver

variable {R : Type} (number : R → Nat)

/-- The name of a register is a word. -/
theorem registerText_isWord
    (register : R) :
    IsWord (registerText number register) :=
  IsWord.append (by decide) (IsWord.numeral 1 _)

/-- A mnemonic is a word. -/
theorem mnemonic_isWord
    (operation : InstructionOver R) :
    IsWord operation.mnemonic := by
  cases operation <;> simp only [mnemonic] <;> decide

/-- The operands of an operation are words. -/
theorem operands_areWords
    (operation : InstructionOver R) :
    ∀ operand ∈ operation.operands number, IsWord operand := by
  have literals :
      IsWord "I" ∧ IsWord "V0" ∧ IsWord "DT" ∧ IsWord "K" ∧ IsWord "ST" ∧ IsWord "F" ∧ IsWord "B" ∧
        IsWord "[I]" := by
    decide
  cases operation <;>
    simp only [operands, byteText, rowsText, addressText, List.forall_mem_cons, List.not_mem_nil,
      IsWord.numeral, registerText_isWord number, literals, and_true, false_implies,
      implies_true]

end InstructionOver

namespace Assembly

/-- A text without its commas. -/
def withoutCommas (text : String) : List Char :=
  text.toList.filter (· != ',')

/-- The words of a line: its mnemonic and its operands, without the commas behind these. -/
def words (line : String) : List String :=
  ((withoutCommas line).splitOn ' ').map String.ofList

/-- Commas can be taken out of the parts of a text one by one. -/
theorem withoutCommas_append
    (first second : String) :
    withoutCommas (first ++ second) = withoutCommas first ++ withoutCommas second := by
  rw [withoutCommas, String.toList_append, List.filter_append]
  rfl

/-- A word has no commas to take out. -/
theorem withoutCommas_word
    {word : String}
    (isWord : IsWord word) :
    withoutCommas word = word.toList := by
  apply List.filter_eq_self.mpr
  intro c member
  exact bne_iff_ne.mpr (isWord c member).2.1

/-- Operands behind a first one are words with blanks before them, but for the commas. -/
theorem withoutCommas_rest
    {rest : List String}
    (areWords : ∀ operand ∈ rest, IsWord operand) :
    withoutCommas (String.join (rest.map (", " ++ ·))) =
      rest.flatMap fun operand => ' ' :: operand.toList := by
  induction rest with
  | nil =>
      rfl
  | cons first rest inductionHypothesis =>
      have firstIsWord := areWords first List.mem_cons_self
      have later := inductionHypothesis fun operand member =>
        areWords operand (List.mem_cons_of_mem first member)
      rw [List.map_cons, String.join_cons, withoutCommas_append, withoutCommas_append, later,
        withoutCommas_word firstIsWord, List.flatMap_cons]
      rfl

/-- Words with a blank between them are found again by cutting at the blanks. -/
theorem splitOn_words
    {first : String}
    {rest : List String}
    (areWords : ∀ operand ∈ first :: rest, IsWord operand) :
    (first.toList ++ rest.flatMap fun operand => ' ' :: operand.toList).splitOn ' ' =
      (first :: rest).map String.toList := by
  have noBlank : ' ' ∉ first.toList := fun member =>
    (areWords first List.mem_cons_self ' ' member).1 rfl
  induction rest generalizing first with
  | nil =>
      rw [List.flatMap_nil, List.append_nil, List.splitOn_eq_singleton noBlank]
      rfl
  | cons second rest inductionHypothesis =>
      have behind := fun operand member => areWords operand (List.mem_cons_of_mem first member)
      have secondNoBlank : ' ' ∉ second.toList := fun member =>
        (behind second List.mem_cons_self ' ' member).1 rfl
      rw [List.flatMap_cons, List.cons_append,
        List.splitOn_append_cons_self_of_not_mem noBlank,
        inductionHypothesis behind secondNoBlank]
      rfl

/-- A line of words falls into these words. -/
theorem words_line
    {mnemonic : String}
    {operands : List String}
    (named : IsWord mnemonic)
    (operated : ∀ operand ∈ operands, IsWord operand) :
    words (InstructionOver.line mnemonic operands) = mnemonic :: operands := by
  have areWords : ∀ word ∈ mnemonic :: operands, IsWord word :=
    List.forall_mem_cons.mpr ⟨named, operated⟩
  have separated :
      withoutCommas (InstructionOver.line mnemonic operands) =
        mnemonic.toList ++ operands.flatMap fun operand => ' ' :: operand.toList := by
    rcases operands with _ | ⟨first, rest⟩
    · rw [InstructionOver.line, withoutCommas_word named, List.flatMap_nil, List.append_nil]
    · have firstIsWord := operated first List.mem_cons_self
      have others := withoutCommas_rest fun operand member =>
        operated operand (List.mem_cons_of_mem first member)
      rw [InstructionOver.line, withoutCommas_append, withoutCommas_append, withoutCommas_append,
        others, withoutCommas_word named, withoutCommas_word firstIsWord, List.append_assoc,
        List.append_assoc]
      rfl
  rw [words, separated, splitOn_words areWords, List.map_map]
  exact List.map_id'' (fun word => String.ofList_toList) _

/-- An operand as it is read: a register, or a word that names none. -/
inductive Operand (R : Type) where
  | register (register : R)
  | other (word : String)

variable {R : Type} (named : Nat → R)

/-- Read a `V` and a numeral as the register with that number. -/
def Operand.ofWord (word : String) : Operand R :=
  match word.toList with
  | 'V' :: digits =>
      match Hex.value? digits with
      | some number => .register (named number)
      | none => .other word
  | _ => .other word

/-- The byte that a word names. -/
def byte? (word : String) : Option UInt8 :=
  (Hex.value? word.toList).map UInt8.ofNat

/-- The address that a word names. -/
def address? (word : String) : Option UInt16 :=
  (Hex.value? word.toList).map UInt16.ofNat

/-- The operations without operands. -/
def bare : List (String × InstructionOver R) :=
  [("CLS", .clearScreen), ("RET", .returnFromCall)]

/-- The operations on an address alone. -/
def onAddress : List (String × (UInt16 → InstructionOver R)) :=
  [("JP", .jump), ("CALL", .call)]

/-- The operations on one register. -/
def onRegister : List (String × (R → InstructionOver R)) :=
  [("SHR", .shiftRight), ("SHL", .shiftLeft), ("SKP", .skipIfKeyDown), ("SKNP", .skipIfKeyUp)]

/-- The operations on two registers. -/
def onRegisters : List (String × (R → R → InstructionOver R)) :=
  [("SE", .skipIfEqual), ("SNE", .skipIfUnequal), ("LD", .copy), ("OR", .or), ("AND", .and),
    ("XOR", .xor), ("ADD", .add), ("SUB", .subtract), ("SUBN", .subtractFrom)]

/-- The operations on a register and a byte. -/
def onByte : List (String × (R → UInt8 → InstructionOver R)) :=
  [("SE", .skipIfEqualByte), ("SNE", .skipIfUnequalByte), ("LD", .loadByte), ("ADD", .addByte),
    ("RND", .random)]

/-- The operations on a register and a named operand behind it. -/
def fromNamed : List ((String × String) × (R → InstructionOver R)) :=
  [(("LD", "DT"), .readDelay), (("LD", "K"), .waitForKey), (("LD", "[I]"), .loadRegisters)]

/-- The operations on a named operand and a register behind it. -/
def intoNamed : List ((String × String) × (R → InstructionOver R)) :=
  [(("LD", "DT"), .setDelay), (("LD", "ST"), .setSound), (("ADD", "I"), .addToIndex),
    (("LD", "F"), .glyphAddress), (("LD", "B"), .storeDigits), (("LD", "[I]"), .storeRegisters)]

/-- The operation that a mnemonic and its operands name. -/
def assemble? (mnemonic : String) : List (Operand R) → Option (InstructionOver R)
  | [] => bare.lookup mnemonic
  | [.other word] => onAddress.lookup mnemonic <*> address? word
  | [.register x] => (onRegister.lookup mnemonic).map (· x)
  | [.register x, .register y] => (onRegisters.lookup mnemonic).map (· x y)
  | [.register x, .other word] =>
      -- A jump is written with no base but `V0`, so the register says nothing.
      if mnemonic = "JP" then
        (address? word).map .jumpOffset
      else
        match byte? word with
        | some byte => (onByte.lookup mnemonic).map (· x byte)
        | none => (fromNamed.lookup (mnemonic, word)).map (· x)
  | [.other word, .register x] => (intoNamed.lookup (mnemonic, word)).map (· x)
  | [.other target, .other word] =>
      if mnemonic = "LD" ∧ target = "I" then
        (address? word).map .loadIndex
      else
        none
  | [.register x, .register y, .other word] =>
      if mnemonic = "DRW" then
        (byte? word).map (.draw x y)
      else
        none
  | _ => none

/-- Read a line of assembly text. -/
def read? (line : String) : Option (InstructionOver R) :=
  match words line with
  | mnemonic :: operands => assemble? mnemonic (operands.map (Operand.ofWord named))
  | [] => none

/-- The name of a register is read back as the register. -/
theorem Operand.ofWord_registerText
    {number : R → Nat}
    (inverse : ∀ register, named (number register) = register)
    (register : R) :
    Operand.ofWord named (InstructionOver.registerText number register) = .register register := by
  have letters :
      (InstructionOver.registerText number register).toList =
        'V' :: (Hex.numeral 1 (number register)).toList := by
    rw [InstructionOver.registerText, String.toList_append]
    rfl
  simp only [ofWord, letters, Hex.value?_numeral, inverse]

/-- A numeral is an operand that names no register. -/
theorem Operand.ofWord_numeral
    (width n : Nat) :
    Operand.ofWord named (Hex.numeral width n) = .other (Hex.numeral width n) := by
  unfold ofWord
  split
  next digits letters =>
    have digit : (Hex.digitValue? 'V').isSome :=
      Hex.isDigit_of_mem_numeral (letters ▸ List.mem_cons_self)
    exact absurd digit (by decide)
  next =>
    rfl

/-- A byte is read back from its numeral. -/
theorem byte?_numeral
    (width : Nat)
    (byte : UInt8) :
    byte? (Hex.numeral width byte.toNat) = some byte := by
  rw [byte?, Hex.value?_numeral, Option.map_some, UInt8.ofNat_toNat]

/-- An address is read back from its numeral. -/
theorem address?_numeral
    (width : Nat)
    (address : UInt16) :
    address? (Hex.numeral width address.toNat) = some address := by
  rw [address?, Hex.value?_numeral, Option.map_some, UInt16.ofNat_toNat]

/-- The parts of an operation name it. -/
theorem assemble?_parts
    {number : R → Nat}
    (inverse : ∀ register, named (number register) = register)
    (operation : InstructionOver R) :
    assemble? operation.mnemonic ((operation.operands number).map (Operand.ofWord named)) =
      some operation := by
  have registers := Operand.ofWord_registerText named inverse
  have numerals := Operand.ofWord_numeral named
  cases operation
  all_goals
    simp only [InstructionOver.mnemonic, InstructionOver.operands, List.map_cons, List.map_nil,
      registers, numerals, InstructionOver.byteText, InstructionOver.rowsText,
      InstructionOver.addressText]
  case jump | call =>
    rw [assemble?, address?_numeral]
    rfl
  case skipIfEqualByte | skipIfUnequalByte | loadByte | addByte | random =>
    rw [assemble?, if_neg (by decide), byte?_numeral]
    rfl
  case loadIndex =>
    have target : Operand.ofWord named "I" = .other "I" := rfl
    rw [target, assemble?, if_pos ⟨rfl, rfl⟩, address?_numeral]
    rfl
  case jumpOffset =>
    have base : Operand.ofWord named "V0" = .register (named 0) := rfl
    rw [base, assemble?, if_pos rfl, address?_numeral]
    rfl
  case draw =>
    rw [assemble?, if_pos rfl, byte?_numeral]
    rfl
  -- The others have no numeral among their operands and are found in a table as they stand.
  all_goals
    rfl

/-- The text of an operation is read back as the operation. -/
theorem read?_text
    {number : R → Nat}
    (inverse : ∀ register, named (number register) = register)
    (operation : InstructionOver R) :
    read? named (operation.text number) = some operation := by
  have parts :
      words (operation.text number) = operation.mnemonic :: operation.operands number :=
    words_line operation.mnemonic_isWord (operation.operands_areWords number)
  rw [read?, parts]
  exact assemble?_parts named inverse operation

end Assembly

/-- Operations with one text are one operation, when registers with one number are one register. -/
theorem InstructionOver.text_inj
    {R : Type}
    {number : R → Nat}
    {named : Nat → R}
    (inverse : ∀ register, named (number register) = register)
    {first second : InstructionOver R} :
    first.text number = second.text number ↔ first = second := by
  refine ⟨fun texts => Option.some.inj ?_, congrArg _⟩
  rw [← Assembly.read?_text named inverse first, texts, Assembly.read?_text named inverse second]

/-- Instructions with one text are one instruction. -/
theorem Instruction.text_inj
    {first second : Instruction} :
    first.text = second.text ↔ first = second :=
  InstructionOver.text_inj Fin.ofNat_val_eq_self

end Chip8
