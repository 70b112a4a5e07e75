import Chip8.Proofs.Json.Objects

namespace Chip8.Json

/-!
# Written objects read back

An object is written without white space or with one member a line, and both are
layouts of it.  When each member in turn fills a field of a record that is not
filled yet, the record is read back from the object.
-/

/-- The members fill fields of a record one after the other, from one state of it to another. -/
inductive Fills
    {σ : Type}
    (fields : List (Field σ)) :
    σ → List (String × Written) → σ → Prop where
  | done
      (taken : σ) :
      Fills fields taken [] taken
  | member
      {taken next final : σ}
      {name : String}
      {written : Written}
      {rest : List (String × Written)}
      {field : Field σ}
      (plain : PlainName name)
      (found : fields.find? (·.name == name) = some field)
      (fresh : field.isRead taken = false)
      (reads : (field.reader taken).ReadsBack written next)
      (later : Fills fields next rest final) :
      Fills fields taken ((name, written) :: rest) final

/-- A member with a plain name as its key. -/
def Member.ofPlain
    {name : String}
    (plain : PlainName name)
    (beforeKey beforeValue : Blanks)
    (written : Written) :
    Member where
  name :=
    name
  beforeKey :=
    beforeKey
  key :=
    name.toList
  spelled :=
    spells_self plain
  afterKey :=
    .none
  beforeValue :=
    beforeValue
  value :=
    written
  afterValue :=
    .none

variable {σ α : Type} {fields : List (Field σ)} {taken final : σ}
  {members : List (String × Written)} {shape : Shape σ α} {value : α}

/-- Written members are taken, whatever white space their form puts before keys and values. -/
theorem Fills.laidOut
    (fills : Fills fields taken members final)
    (beforeKey beforeValue : Blanks) :
    ∃ laidOut : List Member,
      Takes fields taken laidOut final ∧
        laidOut.map Member.text =
          members.map fun (name, written) =>
            beforeKey.text ++ (quotedName name ++ ':' :: (beforeValue.text ++ written)) := by
  induction fills with
  | done taken =>
      exact ⟨[], .done taken, rfl⟩
  | @member taken next final name written rest field plain found fresh reads later
      inductionHypothesis =>
      obtain ⟨laidOut, takes, texts⟩ := inductionHypothesis
      refine ⟨.ofPlain plain beforeKey beforeValue written :: laidOut,
        .fills found fresh reads takes, ?_⟩
      rw [List.map_cons, texts, List.map_cons]
      simp [Member.text, Member.behindQuote, Member.behindKey, Member.ofPlain, Blanks.none,
        quotedName]

/-- A record is read back from the members that fill it, written without white space. -/
theorem parse_compactObject
    (fills : Fills shape.fields shape.start members final)
    (finishes : shape.finish final = .ok value) :
    shape.reader.parse (String.ofList (compactObject members)) = .ok value := by
  obtain ⟨laidOut, takes, texts⟩ := fills.laidOut .none .none
  have same : compactObject members = Object.text ⟨.none, laidOut, .none, .none⟩ := by
    rw [Object.text, texts]
    rfl
  rw [same]
  exact parse_object takes finishes

/-- A line end. -/
def Blanks.lineEnd : Blanks where
  text :=
    ['\n']
  areBlank := by
    simp [isBlank]

/-- The blanks that indent a member on a line of its own. -/
def Blanks.indented : Blanks where
  text :=
    ['\n', ' ', ' ']
  areBlank := by
    simp [isBlank]

/-- The blank behind the colon of a member on a line of its own. -/
def Blanks.single : Blanks where
  text :=
    [' ']
  areBlank := by
    simp [isBlank]

/-- A line end behind each comma is one before each item. -/
theorem intercalate_lineEnd
    (item : List Char)
    (items : List (List Char)) :
    List.intercalate [','] ((item :: items).map ('\n' :: ·)) =
      '\n' :: List.intercalate [',', '\n'] (item :: items) := by
  induction items generalizing item with
  | nil =>
      rfl
  | cons second rest inductionHypothesis =>
      rw [List.map_cons, List.intercalate_cons_of_ne_nil (by simp), inductionHypothesis,
        List.intercalate_cons_of_ne_nil (List.cons_ne_nil second rest)]
      simp

/-- A record is read back from the members that fill it, written one a line. -/
theorem parse_linedObject
    (fills : Fills shape.fields shape.start members final)
    (finishes : shape.finish final = .ok value) :
    shape.reader.parse (String.ofList (linedObject members)) = .ok value := by
  obtain ⟨laidOut, takes, texts⟩ := fills.laidOut .indented .single
  have lined :
      laidOut.map Member.text = (members.map linedMember).map ('\n' :: ·) := by
    rw [texts, List.map_map]
    rfl
  obtain ⟨closing, same⟩ :
      ∃ closing : Blanks, linedObject members = Object.text ⟨.none, laidOut, closing, .none⟩ := by
    cases members with
    | nil =>
        refine ⟨⟨['\n', '\n'], by simp [isBlank]⟩, ?_⟩
        rw [Object.text, lined]
        rfl
    | cons member members =>
        refine ⟨.lineEnd, ?_⟩
        rw [Object.text, lined, List.map_cons, intercalate_lineEnd]
        rfl
  rw [same]
  exact parse_object takes finishes

end Chip8.Json
