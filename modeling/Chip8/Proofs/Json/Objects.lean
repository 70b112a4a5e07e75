import Chip8.Json.Record
import Chip8.Proofs.Json.Skipping

namespace Chip8.Json

/-!
# Records read from objects

An object may be laid out in any way: white space between all tokens, keys with
escapes, members in any order.  A record takes the members one after the other;
each fills a field that is not filled yet, or is passed over when no field has
its name.  Then the record is read from the object, however it is laid out.
-/

/-- A member as it stands in a text, with the name that its key spells. -/
structure Member where
  name : String
  beforeKey : Blanks
  key : List Char
  spelled : Spells key name.toList
  afterKey : Blanks
  beforeValue : Blanks
  value : List Char
  afterValue : Blanks

/-- An object as it stands in a text, with white space around it. -/
structure Object where
  before : Blanks
  members : List Member
  closing : Blanks
  after : Blanks

namespace Member

/-- What follows the key of a member, up to the given rest of the text. -/
def behindKey
    (member : Member)
    (rest : List Char) :
    List Char :=
  member.afterKey.text ++ ':' ::
    (member.beforeValue.text ++ (member.value ++ (member.afterValue.text ++ rest)))

/-- What follows the opening quote of a member's key, up to the given rest of the text. -/
def behindQuote
    (member : Member)
    (rest : List Char) :
    List Char :=
  member.key ++ '"' :: member.behindKey rest

/-- The text of a member. -/
def text (member : Member) : List Char :=
  member.beforeKey.text ++ '"' :: member.behindQuote []

/-- A member starts, behind white space, with the quote of its key. -/
theorem text_append
    (member : Member)
    (rest : List Char) :
    member.text ++ rest = member.beforeKey.text ++ '"' :: member.behindQuote rest := by
  simp [text, behindQuote, behindKey]

end Member

namespace Object

/-- What follows the last member of an object. -/
def ending (object : Object) : List Char :=
  object.closing.text ++ '\x7d' :: object.after.text

/-- The text of an object. -/
def text (object : Object) : List Char :=
  object.before.text ++ '\x7b' ::
    (List.intercalate [','] (object.members.map Member.text) ++ object.ending)

end Object

/-- Members in front of the end of an object, with a comma before each but the first. -/
def membersText
    (ending : List Char)
    (first : Bool)
    (members : List Member) :
    List Char :=
  separated ending first (members.map Member.text)

/-! ## Finding members -/

variable {first : Bool} {member : Member} {members : List Member} {text rest ending : List Char}

/-- White space in front makes no difference to where an object goes on. -/
theorem nextMember_blanks
    (blanks : Blanks) :
    nextMember first (blanks.text ++ text) = nextMember first text := by
  unfold nextMember
  rw [skipBlanks_blanks]

/-- Where the brace follows, the object is closed. -/
theorem nextMember_closed
    (closing : Blanks)
    (rest : List Char) :
    nextMember first (closing.text ++ '\x7d' :: rest) = .ok (.closed rest) := by
  rw [nextMember_blanks, nextMember, skipBlanks_cons_of_token rfl]
  rfl

/-- Where a member follows, behind a comma unless it is the first, the object goes on with it. -/
theorem nextMember_member
    (first : Bool)
    (member : Member)
    (rest : List Char) :
    nextMember first ((if first then [] else [',']) ++ (member.text ++ rest)) =
      .ok (.more (member.behindQuote rest)) := by
  have start :
      skipBlanks (member.text ++ rest) = '"' :: member.behindQuote rest := by
    rw [member.text_append, skipBlanks_blanks]
    exact skipBlanks_cons_of_token rfl _
  cases first with
  | true =>
      simp [nextMember, start]
  | false =>
      have comma : skipBlanks (',' :: (member.text ++ rest)) = ',' :: (member.text ++ rest) :=
        skipBlanks_cons_of_token rfl _
      simp [nextMember, comma, start]

/-! ## Reading members -/

variable {σ α : Type} {fields : List (Field σ)} {field : Field σ} {taken next final : σ}

/-- Members are read one by one until the object is closed. -/
theorem readMembers_eq
    (fields : List (Field σ))
    (first : Bool)
    (taken : σ)
    (text : List Char) :
    readMembers fields first taken text =
      match nextMember first text with
      | .error problem => .error problem
      | .ok (.closed rest) => .ok (taken, rest)
      | .ok (.more key) =>
          (readMember fields taken key).bind fun (next, rest) =>
            readMembers fields false next rest := by
  rw [readMembers]
  split
  next failed =>
    rw [failed]
  next closed =>
    rw [closed]
  next more =>
    rw [more]
    dsimp only
    split
    next failed =>
      rw [failed]
      rfl
    next read =>
      rw [read]
      rfl

/-- A member is read behind its key, and then the members behind it are. -/
theorem readMembers_cons
    (blanks : Blanks)
    (ending : List Char)
    (first : Bool)
    (member : Member)
    (members : List Member)
    (fields : List (Field σ))
    (taken : σ) :
    readMembers fields first taken (blanks.text ++ membersText ending first (member :: members)) =
      (readMemberValue fields taken member.name
          (member.behindKey (membersText ending false members))).bind
        fun (next, behind) => readMembers fields false next behind := by
  have more :
      nextMember first (blanks.text ++ membersText ending first (member :: members)) =
        .ok (.more (member.behindQuote (membersText ending false members))) := by
    rw [nextMember_blanks]
    exact nextMember_member first member _
  rw [readMembers_eq, more]
  dsimp only
  rw [readMember, Member.behindQuote, readString_spelled member.spelled]

/-- A member that no field asks for is passed over. -/
theorem readMemberValue_passes
    (unknown : fields.find? (·.name == member.name) = none)
    (isValue : IsValue member.value)
    (ends : EndsValue rest)
    (taken : σ) :
    readMemberValue fields taken member.name (member.behindKey rest) =
      .ok (taken, member.afterValue.text ++ rest) := by
  have skips :=
    skipValue_of_isValue isValue member.beforeValue (ends.behind_blanks member.afterValue)
  simp only [readMemberValue, unknown, Member.behindKey, skipColon_append, Except.bind, skips]

/-- A member whose field is not filled yet fills it. -/
theorem readMemberValue_fills
    (found : fields.find? (·.name == member.name) = some field)
    (fresh : field.isRead taken = false)
    (reads : (field.reader taken).ReadsBack member.value next)
    (ends : EndsValue rest) :
    readMemberValue fields taken member.name (member.behindKey rest) =
      .ok (next, member.afterValue.text ++ rest) := by
  have value :=
    reads member.beforeValue.text _ member.beforeValue.areBlank
      (ends.behind_blanks member.afterValue)
  simp only [readMemberValue, found, fresh, Member.behindKey, skipColon_append, Except.bind]
  exact value

/-- The members fill fields of a record one after the other, or are passed over. -/
inductive Takes
    (fields : List (Field σ)) :
    σ → List Member → σ → Prop where
  | done
      (taken : σ) :
      Takes fields taken [] taken
  | passes
      {taken final : σ}
      {member : Member}
      {rest : List Member}
      (unknown : fields.find? (·.name == member.name) = none)
      (isValue : IsValue member.value)
      (later : Takes fields taken rest final) :
      Takes fields taken (member :: rest) final
  | fills
      {taken next final : σ}
      {member : Member}
      {rest : List Member}
      {field : Field σ}
      (found : fields.find? (·.name == member.name) = some field)
      (fresh : field.isRead taken = false)
      (reads : (field.reader taken).ReadsBack member.value next)
      (later : Takes fields next rest final) :
      Takes fields taken (member :: rest) final

/-- The members are read up to the end of their object. -/
theorem Takes.read
    (takes : Takes fields taken members final)
    (blanks closing : Blanks)
    (first : Bool)
    (rest : List Char) :
    readMembers fields first taken
        (blanks.text ++ membersText (closing.text ++ '\x7d' :: rest) first members) =
      .ok (final, rest) := by
  have ends (members : List Member) :
      EndsValue (membersText (closing.text ++ '\x7d' :: rest) false members) :=
    ((endsValue_closing .object rest).behind_blanks closing).separated _
  induction takes generalizing blanks first with
  | done taken =>
      have closed :
          nextMember first (blanks.text ++ (closing.text ++ '\x7d' :: rest)) =
            .ok (.closed rest) := by
        rw [nextMember_blanks]
        exact nextMember_closed closing rest
      rw [readMembers_eq]
      simp only [membersText, separated, List.map_nil, closed]
  | passes unknown isValue _ inductionHypothesis =>
      rw [readMembers_cons, readMemberValue_passes unknown isValue (ends _)]
      exact inductionHypothesis _ false
  | fills found fresh reads _ inductionHypothesis =>
      rw [readMembers_cons, readMemberValue_fills found fresh reads (ends _)]
      exact inductionHypothesis _ false

/-! ## Whole objects -/

/-- What is read of an object is what its members give a record. -/
theorem Shape.read_object
    (shape : Shape σ α)
    (object : Object) :
    shape.read object.text =
      (readMembers shape.fields true shape.start
        (membersText object.ending true object.members)).bind shape.ofMembers := by
  have start :
      skipBlanks object.text = '\x7b' :: membersText object.ending true object.members := by
    rw [Object.text, skipBlanks_blanks, intercalate_append]
    exact skipBlanks_cons_of_token rfl _
  rw [Shape.read, start]
  rfl

/-- A record is read from the object whose members it takes. -/
theorem parse_object
    {shape : Shape σ α}
    {object : Object}
    {value : α}
    (takes : Takes shape.fields shape.start object.members final)
    (finishes : shape.finish final = .ok value) :
    shape.reader.parse (String.ofList object.text) = .ok value := by
  have members :
      readMembers shape.fields true shape.start (membersText object.ending true object.members) =
        .ok (final, object.after.text) :=
    takes.read .none object.closing true object.after.text
  have read : shape.read object.text = .ok (value, object.after.text) := by
    rw [shape.read_object, members]
    simp [Except.bind, Shape.ofMembers, finishes]
  have behind : skipBlanks object.after.text = [] :=
    List.dropWhile_eq_nil_iff.mpr object.after.areBlank
  simp [Reader.parse, Shape.reader, read, behind]

end Chip8.Json
