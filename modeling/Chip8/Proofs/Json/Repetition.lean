import Chip8.Proofs.Json.Agreement
import Chip8.Proofs.Json.Objects

namespace Chip8.Json

/-!
# Repeated members are refused

A record that is read from an object keeps at most one value for each field.  An
object that gives a field twice is refused, whatever values its members have:
each member before the second one is read up to its own end, or refused already.
-/

variable {σ α : Type} {fields : List (Field σ)} {field : Field σ} {taken next : σ}
  {member : Member} {members : List Member} {rest behind ending : List Char}

/-- Fields that take values only, and of which reading one marks that field alone. -/
structure LawfulFields (fields : List (Field σ)) : Prop where
  takesValues :
    ∀ field ∈ fields, ∀ taken : σ, (field.reader taken).TakesValues
  marks :
    ∀ field ∈ fields, ∀ other ∈ fields, ∀ {taken next : σ} {text rest : List Char},
      (field.reader taken).run text = .ok (next, rest) →
      other.isRead next = (other.name == field.name || other.isRead taken)

/-- Reading a member that is well formed ends behind its value. -/
theorem LawfulFields.ends
    (lawful : LawfulFields fields)
    (isValue : IsValue member.value)
    (ends : EndsValue rest)
    (read :
      readMemberValue fields taken member.name (member.behindKey rest) = .ok (next, behind)) :
    behind = member.afterValue.text ++ rest := by
  have skips :=
    skipValue_of_isValue isValue member.beforeValue (ends.behind_blanks member.afterValue)
  have same
      (skipped :
        skipValue (member.beforeValue.text ++ (member.value ++ (member.afterValue.text ++ rest))) =
          .ok behind) :
      behind = member.afterValue.text ++ rest :=
    Except.ok.inj (skipped.symm.trans skips)
  simp only [readMemberValue, Member.behindKey, skipColon_append, Except.bind] at read
  split at read
  next =>
    rw [skips] at read
    cases read
    rfl
  next other others =>
    split at read
    next =>
      cases read
    next =>
      exact same (lawful.takesValues other (List.mem_of_find?_eq_some others) taken read)

/-- Reading a member marks the field of its name, which was not read before, and no other. -/
theorem LawfulFields.marked
    (lawful : LawfulFields fields)
    (found : fields.find? (·.name == field.name) = some field)
    {text : List Char}
    {name : String}
    (read : readMemberValue fields taken name text = .ok (next, behind)) :
    (field.isRead next).toNat =
      (field.isRead taken).toNat + (if name = field.name then 1 else 0) := by
  have listed : field ∈ fields :=
    List.mem_of_find?_eq_some found
  unfold readMemberValue at read
  split at read
  next unknown =>
    have differs : name ≠ field.name := fun same =>
      List.find?_eq_none.mp unknown field listed (by simp [same])
    rw [if_neg differs]
    split at read
    next =>
      cases read
    next =>
      cases read
      rfl
  next other others =>
    have named : other.name = name := by
      simpa using List.find?_some others
    split at read
    next =>
      cases read
    next fresh =>
      obtain ⟨text, _, inner⟩ := exists_of_bind_eq_ok read
      have marks := lawful.marks other (List.mem_of_find?_eq_some others) field listed inner
      rw [marks, named]
      by_cases same : name = field.name
      -- Both fields are the first one of this name.
      · subst same
        rw [found] at others
        cases others
        simp [fresh]
      · have differs : (field.name == name) = false := by
          simpa using Ne.symm same
        simp [same, differs]

/-- Members that give a field twice are refused, one of them perhaps given before. -/
theorem LawfulFields.refuses
    (lawful : LawfulFields fields)
    (found : fields.find? (·.name == field.name) = some field)
    (areValues : ∀ member ∈ members, IsValue member.value)
    (ends : EndsValue ending)
    (repeated :
      2 ≤ (field.isRead taken).toNat + members.countP (·.name == field.name))
    (blanks : Blanks)
    (first : Bool) :
    ∃ problem,
      readMembers fields first taken (blanks.text ++ membersText ending first members) =
        .error problem := by
  -- What counts is how often the field was read plus how often it is still to come.
  induction members generalizing taken blanks first with
  | nil =>
      have once := Bool.toNat_le (field.isRead taken)
      rw [List.countP_nil] at repeated
      omega
  | cons member members inductionHypothesis =>
      rw [readMembers_cons]
      cases read : readMemberValue fields taken member.name
          (member.behindKey (membersText ending false members)) with
      | error problem =>
          exact ⟨problem, rfl⟩
      | ok result =>
          obtain ⟨next, behind⟩ := result
          have marked := lawful.marked found read
          have shape := lawful.ends (areValues member List.mem_cons_self)
            (ends.separated _) read
          rw [shape]
          refine inductionHypothesis
            (fun other listed => areValues other (List.mem_cons_of_mem _ listed)) ?_
            member.afterValue false
          rw [List.countP_cons] at repeated
          simp only [beq_iff_eq] at repeated
          omega

/-- A record is not read from an object that gives a field twice. -/
theorem parse_repeated
    {shape : Shape σ α}
    {object : Object}
    (lawful : LawfulFields shape.fields)
    (found : shape.fields.find? (·.name == field.name) = some field)
    (areValues : ∀ member ∈ object.members, IsValue member.value)
    (repeated : 2 ≤ object.members.countP (·.name == field.name)) :
    ∃ error, shape.reader.parse (String.ofList object.text) = .error error := by
  have ends : EndsValue object.ending :=
    (endsValue_closing .object object.after.text).behind_blanks object.closing
  have least :
      2 ≤ (field.isRead shape.start).toNat + object.members.countP (·.name == field.name) :=
    Nat.le_add_left_of_le repeated
  obtain ⟨problem, members⟩ :
      ∃ problem,
        readMembers shape.fields true shape.start (membersText object.ending true object.members) =
          .error problem :=
    lawful.refuses found areValues ends least .none true
  have read : shape.read object.text = .error problem := by
    rw [shape.read_object, members]
    rfl
  exact ⟨.ofProblem object.text problem, by simp [Reader.parse, Shape.reader, read]⟩

end Chip8.Json
