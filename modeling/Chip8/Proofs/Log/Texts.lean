import Chip8.Log.Journal
import Mathlib.Data.List.Basic

namespace Chip8.Journal

/-!
# What a journal holds

A place is the console or a file.  Lines are only ever added, and only to the
place that is chosen; choosing another place or going back to one changes no text.
-/

/-- What a place holds: the console, or a file, which holds nothing before it was chosen. -/
def text
    (journal : Journal) :
    Option String → String
  | none => journal.console
  | some name => (journal.files.lookup name).getD ""

/-- The file that lines go to is one of the files of the journal. -/
def Opened (journal : Journal) : Prop :=
  ∀ name, journal.chosen = some name → name ∈ journal.files.map Prod.fst

variable {journal : Journal}

/-- A file is known when its name is among those of the files. -/
theorem any_known_iff
    {name : String} :
    (journal.files.any fun (known, _) => known == name) = true ↔
      name ∈ journal.files.map Prod.fst := by
  simp

/-- Choosing a file leaves every text as it is; a new file holds nothing. -/
theorem choose_text
    (journal : Journal)
    (name : String)
    (place : Option String) :
    (journal.choose name).text place = journal.text place := by
  cases place with
  | none =>
      rfl
  | some other =>
      simp only [choose, text]
      split
      next =>
        rfl
      next =>
        rw [List.lookup_append, List.lookup_singleton]
        cases journal.files.lookup other with
        | some file =>
            rfl
        | none =>
            cases other == name <;> rfl

/-- A file that is chosen is one of the files. -/
theorem choose_opened
    (journal : Journal)
    (name : String) :
    (journal.choose name).Opened := by
  intro chosen same
  obtain rfl := Option.some.inj same
  simp only [choose]
  split
  next known =>
    exact any_known_iff.mp known
  next =>
    simp

/-- Writing to a file changes the texts of the files but not their names. -/
theorem write_of_chosen
    {current : String}
    (chosen : journal.chosen = some current)
    (line : String) :
    journal.write line =
      { journal with
        files := journal.files.map fun file =>
          (file.1, if file.1 == current then file.2 ++ line ++ "\n" else file.2) } := by
  simp only [write, chosen]
  congr 1
  refine List.map_congr_left fun file _ => ?_
  split <;> rfl

/-- Changing the texts of files changes what is found under a name accordingly. -/
theorem lookup_map_texts
    (files : List (String × String))
    (change : String → String → String)
    (name : String) :
    (files.map fun file => (file.1, change file.1 file.2)).lookup name =
      (files.lookup name).map (change name) := by
  induction files with
  | nil =>
      rfl
  | cons file rest inductionHypothesis =>
      obtain ⟨known, text⟩ := file
      simp only [List.map_cons, List.lookup_cons, inductionHypothesis]
      cases here : name == known with
      | true =>
          simp [eq_of_beq here]
      | false =>
          rfl

/-- Writing a line closes no file. -/
theorem Opened.write
    (opened : journal.Opened)
    (line : String) :
    (journal.write line).Opened := by
  intro name chosen
  cases choice : journal.chosen with
  | none =>
      simp [Journal.write, choice] at chosen
  | some current =>
      rw [write_of_chosen choice] at chosen ⊢
      simpa using opened name chosen

/-- A line is added to the place that was chosen, and no other place changes. -/
theorem Opened.write_text
    (opened : journal.Opened)
    (line : String)
    (place : Option String) :
    (journal.write line).text place =
      journal.text place ++ if journal.chosen = place then line ++ "\n" else "" := by
  cases choice : journal.chosen with
  | none =>
      cases place <;> simp [Journal.write, text, choice, String.append_assoc]
  | some current =>
      rw [write_of_chosen choice]
      cases place with
      | none =>
          simp [text]
      | some name =>
          simp only [text]
          rw [lookup_map_texts _ fun known text =>
            if known == current then text ++ line ++ "\n" else text]
          by_cases same : current = name
          · subst same
            obtain ⟨text, found⟩ : ∃ text, journal.files.lookup current = some text := by
              rw [← Option.isSome_iff_exists, List.lookup_isSome_iff]
              simpa using opened current choice
            simp [found, String.append_assoc]
          · have other : name ≠ current := Ne.symm same
            simp [same, other]

/-- Writing a line does not change where lines go. -/
@[simp] theorem write_chosen
    (journal : Journal)
    (line : String) :
    (journal.write line).chosen = journal.chosen := by
  unfold write
  split
  next none =>
    rfl
  next some =>
    rfl

/-- Lines that are written leave the choice of the place as it is. -/
theorem writeAll_chosen
    (journal : Journal)
    (lines : List String) :
    (lines.foldl Journal.write journal).chosen = journal.chosen := by
  induction lines generalizing journal with
  | nil =>
      rfl
  | cons line rest inductionHypothesis =>
      exact (inductionHypothesis (journal.write line)).trans (journal.write_chosen line)

/-- Writing lines one after the other adds them to the place that was chosen, in their order. -/
theorem Opened.writeAll_text
    (opened : journal.Opened)
    (lines : List String)
    (place : Option String) :
    (lines.foldl Journal.write journal).text place =
      journal.text place ++
        if journal.chosen = place then String.join (lines.map (· ++ "\n")) else "" := by
  induction lines generalizing journal with
  | nil =>
      simp
  | cons line rest inductionHypothesis =>
      rw [List.foldl_cons, inductionHypothesis (opened.write line), opened.write_text,
        write_chosen, String.append_assoc]
      split
      next =>
        rw [List.map_cons, String.join_cons]
      next =>
        rfl

/-- Writing lines closes no file. -/
theorem Opened.writeAll
    (opened : journal.Opened)
    (lines : List String) :
    (lines.foldl Journal.write journal).Opened := by
  induction lines generalizing journal with
  | nil =>
      exact opened
  | cons line rest inductionHypothesis =>
      exact inductionHypothesis (opened.write line)

end Chip8.Journal
