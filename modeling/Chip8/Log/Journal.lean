namespace Chip8

/-!
# Journals

Where log lines go: to the console, or to a file while one is chosen.  A file
that is chosen again continues where it ended.
-/

/-- The lines written so far and the place for the next one. -/
structure Journal where
  console : String
  /-- The files chosen so far with their texts, in the order of their first choice. -/
  files : List (String × String)
  /-- The file that lines go to, or nothing while they go to the console. -/
  chosen : Option String
  deriving Repr, DecidableEq

namespace Journal

/-- A journal without lines that writes to the console. -/
def empty : Journal where
  console :=
    ""
  files :=
    []
  chosen :=
    none

/-- Send the next lines to a file. -/
def choose
    (journal : Journal)
    (name : String) :
    Journal :=
  { journal with
    files :=
      if journal.files.any fun (known, _) => known == name then
        journal.files
      else
        journal.files ++ [(name, "")]
    chosen := some name }

/-- Send the next lines to the console. -/
def close (journal : Journal) : Journal :=
  { journal with chosen := none }

/-- Write one line. -/
def write
    (journal : Journal)
    (line : String) :
    Journal :=
  match journal.chosen with
  | none =>
      { journal with console := journal.console ++ line ++ "\n" }
  | some name =>
      { journal with
        files := journal.files.map fun (known, text) =>
          if known == name then (known, text ++ line ++ "\n") else (known, text) }

end Journal

end Chip8
