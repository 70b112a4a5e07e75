import Chip8.Proofs.Log.Lines
import Chip8.Proofs.Log.Selection
import Chip8.Proofs.Machine.Announcements

namespace Chip8

/-!
# Traces

With the processor at `trace` and everything else off the log is a trace of the
machine: a line for every instruction that was executed, and a line for the
fault that ended the run.  The places and words of the instructions can be read
back from it.
-/

namespace Trace

/-- The line for an instruction: its place, its word and its assembly text. -/
def executionLine
    (address word : UInt16)
    (instruction : Instruction) :
    String :=
  "CPU: " ++ Hex.numeral 4 address.toNat ++ "  " ++ Hex.numeral 4 word.toNat ++ "  " ++
    instruction.text

/-- The line for a fault of an instruction. -/
def faultLine
    (address word : UInt16)
    (cause : Fault) :
    String :=
  "CPU: " ++ cause.message ++ " at PC=" ++ Hex.numeral 4 address.toNat ++ " (" ++
    Hex.numeral 4 word.toNat ++ ")"

/-- The line for a fault while a word was fetched. -/
def fetchFaultLine
    (address : UInt16)
    (cause : Fault) :
    String :=
  "CPU: fetch fault at PC=" ++ Hex.numeral 4 address.toNat ++ ": " ++ cause.message

/-- The text that a list of lines makes. -/
def text (lines : List String) : String :=
  String.join (lines.map (· ++ "\n"))

/-- The place and the word in a line of a trace, if the line is for an instruction. -/
def pairOfLine? (line : String) : Option (UInt16 × UInt16) := do
  let address ← Hex.value? ((line.toList.drop 5).take 4)
  let word ← Hex.value? ((line.toList.drop 11).take 4)
  return (UInt16.ofNat address, UInt16.ofNat word)

/-- The places and words of the instructions in a trace. -/
def read (text : String) : List (UInt16 × UInt16) :=
  (Journal.linesOf text).filterMap pairOfLine?

/-- The line for an instruction gives its place and its word. -/
theorem pairOfLine?_executionLine
    (address word : UInt16)
    (instruction : Instruction) :
    pairOfLine? (executionLine address word instruction) = some (address, word) := by
  have width
      (number : UInt16) :
      (Hex.numeral 4 number.toNat).toList.length = 4 :=
    Hex.numeral_length (Hex.digits_length_le number)
  have line :
      (executionLine address word instruction).toList =
        "CPU: ".toList ++ ((Hex.numeral 4 address.toNat).toList ++ ("  ".toList ++
          ((Hex.numeral 4 word.toNat).toList ++ ("  " ++ instruction.text).toList))) := by
    simp [executionLine]
  have first :
      ((executionLine address word instruction).toList.drop 5).take 4 =
        (Hex.numeral 4 address.toNat).toList := by
    rw [line, List.drop_left' (by decide), List.take_left' (width address)]
  have second :
      ((executionLine address word instruction).toList.drop 11).take 4 =
        (Hex.numeral 4 word.toNat).toList := by
    rw [line, ← List.append_assoc, ← List.append_assoc, List.drop_left' (by simp [width]),
      List.take_left' (width word)]
  simp [pairOfLine?, first, second, Hex.value?_numeral]

/-- The texts of faults start with letters that are no digits. -/
theorem message_letter
    (cause : Fault) :
    ∃ letter ∈ ['S', 'M', 'K'], cause.message.toList.head? = some letter := by
  have starts
      {start rest : String}
      {letter : Char}
      (first : start.toList.head? = some letter) :
      (start ++ rest).toList.head? = some letter := by
    rw [String.toList_append, List.head?_append, first, Option.some_or]
  cases cause with
  | stackOverflow | stackUnderflow =>
      exact ⟨'S', by decide, by decide⟩
  | memoryOutOfRange =>
      exact ⟨'M', by decide, starts (by decide)⟩
  | keyOutOfRange =>
      exact ⟨'K', by decide, starts (by decide)⟩

/-- The line for a fault gives no pair: behind its mark stands a letter that is no digit. -/
theorem pairOfLine?_faultLine
    (address word : UInt16)
    (cause : Fault) :
    pairOfLine? (faultLine address word cause) = none := by
  have noDigits : ∀ letter ∈ ['S', 'M', 'K'], Hex.digitValue? letter = none := by
    simp [Hex.digitValue?]
  obtain ⟨letter, among, starts⟩ := message_letter cause
  obtain ⟨behind, message⟩ := List.head?_eq_some_iff.mp starts
  have letters :
      ∃ rest, ((faultLine address word cause).toList.drop 5).take 4 = letter :: rest := by
    simp only [faultLine, String.append_assoc]
    rw [String.toList_append, List.drop_left' (by decide), String.toList_append, message]
    exact ⟨_, rfl⟩
  obtain ⟨rest, letters⟩ := letters
  simp [pairOfLine?, letters, Hex.value?, Hex.valueFrom?, noDigits letter among]

/-- A line whose start gives no number gives no pair, whatever follows. -/
theorem pairOfLine?_append
    {start : String}
    (long : 9 ≤ start.toList.length)
    (noNumber : Hex.value? ((start.toList.drop 5).take 4) = none)
    (rest : String) :
    pairOfLine? (start ++ rest) = none := by
  have letters : ((start ++ rest).toList.drop 5).take 4 = (start.toList.drop 5).take 4 := by
    rw [String.toList_append, List.drop_append_of_le_length (by omega),
      List.take_append_of_le_length (by rw [List.length_drop]; omega)]
  rw [pairOfLine?, letters, noNumber]
  rfl

/-- The line for a fault while a word was fetched gives no pair. -/
theorem pairOfLine?_fetchFaultLine
    (address : UInt16)
    (cause : Fault) :
    pairOfLine? (fetchFaultLine address cause) = none := by
  unfold fetchFaultLine
  rw [String.append_assoc, String.append_assoc]
  exact pairOfLine?_append (by decide) (by decide) _

end Trace

namespace Machine

/-- The lines that trace a step. -/
def stepLines (machine : Machine) : List String :=
  match machine.memory.readWord machine.pc.toNat with
  | .error (.fault cause) => [Trace.fetchFaultLine machine.pc cause]
  | .error .crash => []
  | .ok word =>
      match Instruction.decode? word with
      | none => []
      | some instruction =>
          Trace.executionLine machine.pc word instruction ::
            match machine.step.result with
            | .error (.fault cause) => [Trace.faultLine machine.pc word cause]
            | _ => []

/-- The lines that trace a run. -/
def traceLines
    (machine : Machine)
    (cycles : Nat) :
    List String :=
  (machine.stepped cycles).flatMap stepLines

/-- The place and the word of the instruction that a step executes, if it executes one. -/
def executedPair? (machine : Machine) : Option (UInt16 × UInt16) :=
  match machine.memory.readWord machine.pc.toNat with
  | .error _ => none
  | .ok word => (Instruction.decode? word).map fun _ => (machine.pc, word)

/-- The places and words of the instructions that a run executes. -/
def executedPairs
    (machine : Machine)
    (cycles : Nat) :
    List (UInt16 × UInt16) :=
  (machine.stepped cycles).filterMap executedPair?

/-- What a step announces about the processor is what traces it. -/
theorem step_cpuMessages
    (machine : Machine) :
    (machine.step.events.filter fun event => event.category = .cpu).map Event.message =
      machine.stepLines := by
  rw [step_cpuEvents, stepLines]
  cases machine.memory.readWord machine.pc.toNat with
  | error stop =>
      cases stop <;> rfl
  | ok word =>
      dsimp only
      cases Instruction.decode? word with
      | none =>
          rfl
      | some instruction =>
          rcases machine.step.result with (cause | _) | _ <;> rfl

/-- What a run announces about the processor is what traces it. -/
theorem run_cpuMessages
    (machine : Machine)
    (cycles : Nat) :
    ((machine.run cycles).events.filter fun event => event.category = .cpu).map Event.message =
      machine.traceLines cycles := by
  rw [run_events, List.filter_flatMap, List.map_flatMap, traceLines]
  simp only [step_cpuMessages]

/-- The lines that trace a run are single lines. -/
theorem traceLines_oneLine
    (machine : Machine)
    (cycles : Nat) :
    ∀ line ∈ machine.traceLines cycles, OneLine line := by
  intro line member
  rw [← run_cpuMessages] at member
  obtain ⟨event, _, rfl⟩ := List.mem_map.mp member
  exact event.message_oneLine

/-- The lines that trace a step give the pair that it executes, if there is one. -/
theorem stepLines_pairs
    (machine : Machine) :
    machine.stepLines.filterMap Trace.pairOfLine? = machine.executedPair?.toList := by
  rw [stepLines, executedPair?]
  cases machine.memory.readWord machine.pc.toNat with
  | error stop =>
      cases stop with
      | fault cause =>
          simp [Trace.pairOfLine?_fetchFaultLine]
      | crash =>
          rfl
  | ok word =>
      dsimp only
      cases Instruction.decode? word with
      | none =>
          rfl
      | some instruction =>
          rcases machine.step.result with (cause | _) | _ <;>
            simp [Trace.pairOfLine?_executionLine, Trace.pairOfLine?_faultLine]

/-- What a run executed is read back from its trace. -/
theorem read_traceLines
    (machine : Machine)
    (cycles : Nat) :
    Trace.read (Trace.text (machine.traceLines cycles)) = machine.executedPairs cycles := by
  rw [Trace.read, Trace.text, Journal.linesOf_join (machine.traceLines_oneLine cycles), traceLines,
    executedPairs, List.filterMap_flatMap, List.filterMap_eq_flatMap_toList]
  simp only [stepLines_pairs]

/--
With the processor at `trace`, everything else off and room for the trace in a
window that saw no message yet, the log of a run is the trace of the run, and
the instructions that were executed are read back from it.
-/
theorem run_is_traced
    (machine : Machine)
    (cycles : Nat)
    (shared : SharedRecorder)
    (opened : shared.recorder.journal.Opened)
    (tracing : shared.recorder.logger.HearsOnly .cpu)
    (unused : shared.recorder.window .cpu = .empty)
    (room : (machine.traceLines cycles).length ≤ shared.recorder.logger.limit)
    (undisturbed : shared.OnlyTimePasses) :
    (∀ place,
        (shared.logAll (machine.run cycles).events).recorder.journal.text place =
          shared.recorder.journal.text place ++
            if shared.recorder.journal.chosen = place then
              Trace.text (machine.traceLines cycles)
            else
              "") ∧
      Trace.read (Trace.text (machine.traceLines cycles)) = machine.executedPairs cycles := by
  have messages := machine.run_cpuMessages cycles
  have hears :
      shared.recorder.Hears .cpu
        ((machine.run cycles).events.filter fun event => event.category = .cpu).length := by
    refine ⟨opened, tracing, ?_⟩
    rw [unused, ← List.length_map, messages]
    exact ⟨rfl, by simpa [Window.empty] using room⟩
  have adds := hears.logAll undisturbed
  rw [messages] at adds
  exact ⟨adds.text, machine.read_traceLines cycles⟩

/-- A program that loads a register, meets an undefined word and returns from nothing. -/
def returningAtOnce : Machine :=
  ((powerOn .referenceExact (.ofSeed 7)).loadProgram [0x6A, 0x05, 0x80, 0x08, 0x00, 0xEE]).state

/-- A recorder that traces the processor to a file while time passes between the messages. -/
def tracingRecorder : SharedRecorder where
  recorder :=
    Recorder.initial.performAll [.setLevel .cpu .trace, .setLimit 3, .choose "trace.log"]
  others _ :=
    [.elapse (500 * millisecond)]

/-- The trace has a line for the load, none for the undefined word, and two for the return. -/
theorem returningAtOnce_traced :
    returningAtOnce.traceLines 5 =
        [ "CPU: 0200  6A05  LD VA, 05", "CPU: 0204  00EE  RET",
          "CPU: Stack underflow: return with empty stack at PC=0204 (00EE)" ] ∧
      (tracingRecorder.logAll (returningAtOnce.run 5).events).recorder.journal.text
          (some "trace.log") =
        Trace.text (returningAtOnce.traceLines 5) ∧
      Trace.read (Trace.text (returningAtOnce.traceLines 5)) =
        [(0x200, 0x6A05), (0x204, 0x00EE)] := by
  have trace :
      returningAtOnce.traceLines 5 =
        [ "CPU: 0200  6A05  LD VA, 05", "CPU: 0204  00EE  RET",
          "CPU: Stack underflow: return with empty stack at PC=0204 (00EE)" ] := by
    decide +kernel
  have opened : tracingRecorder.recorder.journal.Opened :=
    Journal.choose_opened _ _
  have tracing : tracingRecorder.recorder.logger.HearsOnly .cpu := by
    refine ⟨rfl, fun other different => ?_, rfl⟩
    cases other with
    | cpu => exact absurd rfl different
    | _ => rfl
  have undisturbed : tracingRecorder.OnlyTimePasses :=
    fun _ operation member => ⟨_, List.mem_singleton.mp member⟩
  have room :
      (returningAtOnce.traceLines 5).length ≤ tracingRecorder.recorder.logger.limit := by
    rw [trace]
    decide
  obtain ⟨written, read⟩ :=
    run_is_traced returningAtOnce 5 tracingRecorder opened tracing rfl room undisturbed
  refine ⟨trace, ?_, ?_⟩
  · have chosen : tracingRecorder.recorder.journal.chosen = some "trace.log" :=
      rfl
    have untouched : tracingRecorder.recorder.journal.text (some "trace.log") = "" := by
      decide +kernel
    rw [written, untouched, if_pos chosen, String.empty_append]
  · rw [read]
    decide +kernel

end Machine

end Chip8
