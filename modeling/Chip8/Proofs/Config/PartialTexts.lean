import Chip8.Proofs.Config.RoundTrip
import Chip8.Proofs.Json.Repetition
import Mathlib.Data.Finset.Basic

namespace Chip8

/-!
# Configurations read from partial texts

A text may give any of the settings, in any order, with any white space and
among any other members.  What it gives is kept, and everything else has its
standard value.  A text that gives a setting twice is refused.
-/

open Json

/-- The settings of a configuration. -/
inductive Setting where
  | semantics
  | cyclesPerFrame
  | timerTicksPerFrame
  | frameRate
  | seed
  deriving Repr, DecidableEq

namespace Setting

/-- The name of a setting in a text. -/
def name : Setting → String
  | .semantics => "semantics"
  | .cyclesPerFrame => "cycles_per_frame"
  | .timerTicksPerFrame => "timer_ticks_per_frame"
  | .frameRate => "frame_rate_hz"
  | .seed => "seed"

/-- Different settings have different names. -/
theorem name_injective
    {setting other : Setting}
    (same : setting.name = other.name) :
    setting = other := by
  cases setting <;> cases other <;> first | rfl | exact absurd same (by decide)

end Setting

namespace Config

/-- The configuration that keeps some settings and has the standard ones for the others. -/
def keeping
    (config : Config)
    (given : Finset Setting) :
    Config where
  semantics :=
    if .semantics ∈ given then config.semantics else standard.semantics
  cyclesPerFrame :=
    if .cyclesPerFrame ∈ given then config.cyclesPerFrame else standard.cyclesPerFrame
  timerTicksPerFrame :=
    if .timerTicksPerFrame ∈ given then config.timerTicksPerFrame else standard.timerTicksPerFrame
  frameRate :=
    if .frameRate ∈ given then config.frameRate else standard.frameRate
  seed :=
    if .seed ∈ given then config.seed else standard.seed

/-- The texts that give a setting the value that a configuration has for it. -/
inductive Gives (config : Config) : Setting → List Char → Prop where
  | semantics
      {text : List Char}
      (spells : Spells text config.semantics.name.toList) :
      Gives config .semantics ('"' :: (text ++ ['"']))
  | cyclesPerFrame :
      Gives config .cyclesPerFrame (natural config.cyclesPerFrame.toNat)
  | timerTicksPerFrame :
      Gives config .timerTicksPerFrame (natural config.timerTicksPerFrame.toNat)
  | frameRate :
      Gives config .frameRate (natural config.frameRate.toNat)
  | noSeed
      (unseeded : config.seed = none) :
      Gives config .seed null
  | seed
      {seed : UInt64}
      (seeded : config.seed = some seed) :
      Gives config .seed (natural seed.toNat)

/-- What gives a setting its value is a value of the grammar. -/
theorem Gives.isValue
    {config : Config}
    {setting : Setting}
    {text : List Char}
    (gives : config.Gives setting text) :
    IsValue text := by
  cases gives with
  | semantics spells => exact .string spells.isString
  | cyclesPerFrame => exact .number (natural_isNumber _)
  | timerTicksPerFrame => exact .number (natural_isNumber _)
  | frameRate => exact .number (natural_isNumber _)
  | noSeed => exact .word (by decide)
  | seed => exact .number (natural_isNumber _)

/-- Members that give some settings of a configuration, each of them once, among others. -/
structure Presents
    (config : Config)
    (given : Finset Setting)
    (members : List Member) : Prop where
  once :
    ∀ setting ∈ given, members.countP (·.name == setting.name) = 1
  each :
    ∀ member ∈ members,
      (∃ setting ∈ given, member.name = setting.name ∧ config.Gives setting member.value) ∨
        (∀ setting : Setting, member.name ≠ setting.name) ∧ IsValue member.value

/-! ## Giving settings -/

/-- What a text has given when it has given some settings of a configuration. -/
def giving
    (config : Config)
    (given : Finset Setting) :
    Given where
  semantics :=
    if .semantics ∈ given then some config.semantics else none
  cyclesPerFrame :=
    if .cyclesPerFrame ∈ given then some config.cyclesPerFrame else none
  timerTicksPerFrame :=
    if .timerTicksPerFrame ∈ given then some config.timerTicksPerFrame else none
  frameRate :=
    if .frameRate ∈ given then some config.frameRate else none
  seed :=
    if .seed ∈ given then some config.seed else none

/-- Settings that are not given are those of the standard configuration. -/
theorem orStandard_giving
    (config : Config)
    (given : Finset Setting) :
    (config.giving given).orStandard = config.keeping given := by
  have orElse {α : Type} (isGiven : Prop) [Decidable isGiven] (value other : α) :
      (if isGiven then some value else none).getD other = if isGiven then value else other := by
    split <;> rfl
  simp only [Given.orStandard, giving, keeping, orElse]

/-- A field keeps what a text gives for a setting. -/
structure Keeps
    (config : Config)
    (setting : Setting)
    (field : Json.Field Given) : Prop where
  found :
    fields.find? (·.name == setting.name) = some field
  fresh :
    ∀ given, setting ∉ given → field.isRead (config.giving given) = false
  reads :
    ∀ given text,
      config.Gives setting text →
      (field.reader (config.giving given)).ReadsBack text (config.giving (insert setting given))

/-- A field that takes a new value keeps the setting of its name. -/
theorem keeps_of_found
    {config : Config}
    {setting : Setting}
    {α : Type}
    {name : String}
    {get : Given → Option α}
    {set : Given → α → Given}
    {reader : Reader α}
    {value : α}
    (found :
      fields.find? (·.name == setting.name) = some (.ofOption name get set reader))
    (fresh : ∀ given, setting ∉ given → get (config.giving given) = none)
    (joins :
      ∀ given, config.giving (insert setting given) = set (config.giving given) value)
    (reads : ∀ text, config.Gives setting text → reader.ReadsBack text value) :
    config.Keeps setting (.ofOption name get set reader) := by
  refine ⟨found, ?_, ?_⟩
  · intro given absent
    simp only [Field.ofOption, fresh given absent, Option.isSome_none]
  · intro given text gives
    rw [joins]
    exact (reads text gives).map _

/-- Each setting has a field, which keeps what a text gives for it. -/
theorem exists_field
    (config : Config)
    (setting : Setting) :
    ∃ field, config.Keeps setting field := by
  cases setting with
  | semantics =>
      have reads (text : List Char) (gives : config.Gives .semantics text) :
          (Reader.choice Semantics.names).ReadsBack text config.semantics := by
        cases gives with
        | semantics spells => exact Semantics.spelled_readsBack spells
      exact ⟨_, keeps_of_found rfl (by simp [giving]) (by simp [giving]) reads⟩
  | cyclesPerFrame =>
      have reads (text : List Char) (gives : config.Gives .cyclesPerFrame text) :
          Reader.word.ReadsBack text config.cyclesPerFrame := by
        cases gives
        exact Reader.word_readsBack _
      exact ⟨_, keeps_of_found rfl (by simp [giving]) (by simp [giving]) reads⟩
  | timerTicksPerFrame =>
      have reads (text : List Char) (gives : config.Gives .timerTicksPerFrame text) :
          Reader.word.ReadsBack text config.timerTicksPerFrame := by
        cases gives
        exact Reader.word_readsBack _
      exact ⟨_, keeps_of_found rfl (by simp [giving]) (by simp [giving]) reads⟩
  | frameRate =>
      have reads (text : List Char) (gives : config.Gives .frameRate text) :
          Reader.word.ReadsBack text config.frameRate := by
        cases gives
        exact Reader.word_readsBack _
      exact ⟨_, keeps_of_found rfl (by simp [giving]) (by simp [giving]) reads⟩
  | seed =>
      have reads (text : List Char) (gives : config.Gives .seed text) :
          Reader.longWord.optional.ReadsBack text config.seed := by
        cases gives with
        | noSeed unseeded =>
            rw [unseeded]
            exact Reader.optional_readsBack Reader.longWord_readsBack none
        | seed seeded =>
            rw [seeded]
            exact Reader.optional_readsBack Reader.longWord_readsBack (some _)
      exact ⟨_, keeps_of_found rfl (by simp [giving]) (by simp [giving]) reads⟩

/-- Only the settings have fields. -/
theorem find?_eq_none_of_other
    {name : String}
    (other : ∀ setting : Setting, name ≠ setting.name) :
    fields.find? (·.name == name) = none := by
  have differs (setting : Setting) : (setting.name == name) = false := by
    simpa using Ne.symm (other setting)
  have named : ∀ field ∈ fields, ∃ setting : Setting, field.name = setting.name := by
    simp only [fields, List.forall_mem_cons]
    exact ⟨⟨.semantics, rfl⟩, ⟨.cyclesPerFrame, rfl⟩, ⟨.timerTicksPerFrame, rfl⟩,
      ⟨.frameRate, rfl⟩, ⟨.seed, rfl⟩, List.forall_mem_nil _⟩
  refine List.find?_eq_none.mpr fun field listed => ?_
  obtain ⟨setting, same⟩ := named field listed
  simp [same, differs setting]

/-! ## Members among others -/

namespace Presents

variable {config : Config} {pending given : Finset Setting} {member : Member}
  {members : List Member} {setting : Setting}

/-- When no member is left, no setting is still to come. -/
theorem empty
    (presents : config.Presents pending []) :
    pending = ∅ := by
  refine Finset.eq_empty_of_forall_notMem fun setting listed => ?_
  have once := presents.once setting listed
  rw [List.countP_nil] at once
  omega

/-- Behind a member that gives a setting, the other settings are still to be given. -/
theorem behind_given
    (presents : config.Presents pending (member :: members))
    (named : member.name = setting.name)
    (listed : setting ∈ pending) :
    config.Presents (pending.erase setting) members := by
  have used := presents.once setting listed
  rw [List.countP_cons_of_pos (by simp [named])] at used
  have unused : members.countP (·.name == setting.name) = 0 := by
    omega
  constructor
  · intro other remains
    obtain ⟨differs, otherListed⟩ := Finset.mem_erase.mp remains
    have once := presents.once other otherListed
    rw [List.countP_cons_of_neg] at once
    · exact once
    · simpa [named] using fun same => differs (Setting.name_injective same).symm
  · intro later laterListed
    obtain ⟨other, otherListed, otherNamed, gives⟩ | others :=
      presents.each later (List.mem_cons_of_mem _ laterListed)
    · refine .inl ⟨other, Finset.mem_erase.mpr ⟨?_, otherListed⟩, otherNamed, gives⟩
      rintro rfl
      have absent := List.countP_eq_zero.mp unused later laterListed
      simp [otherNamed] at absent
    · exact .inr others

/-- Behind a member with another name, all settings are still to be given. -/
theorem behind_other
    (presents : config.Presents pending (member :: members))
    (other : ∀ setting : Setting, member.name ≠ setting.name) :
    config.Presents pending members := by
  constructor
  · intro setting listed
    have once := presents.once setting listed
    rwa [List.countP_cons_of_neg (by simpa using other setting)] at once
  · intro later laterListed
    exact presents.each later (List.mem_cons_of_mem _ laterListed)

/-- Members that give what is still to be given complete what a text gives. -/
theorem takes
    (presents : config.Presents pending members)
    (within : pending ⊆ given) :
    Takes fields (config.giving (given \ pending)) members (config.giving given) := by
  induction members generalizing pending with
  | nil =>
      rw [presents.empty, Finset.sdiff_empty]
      exact .done _
  | cons member members inductionHypothesis =>
      obtain ⟨setting, listed, named, gives⟩ | ⟨other, isValue⟩ :=
        presents.each member List.mem_cons_self
      · obtain ⟨field, keeps⟩ := config.exists_field setting
        have absent : setting ∉ given \ pending := fun remains =>
          (Finset.mem_sdiff.mp remains).2 listed
        have later :=
          inductionHypothesis (presents.behind_given named listed)
            ((Finset.erase_subset setting pending).trans within)
        rw [Finset.sdiff_erase (within listed)] at later
        refine .fills ?_ (keeps.fresh _ absent) (keeps.reads _ _ gives) later
        rw [named]
        exact keeps.found
      · exact .passes (find?_eq_none_of_other other) isValue
          (inductionHypothesis (presents.behind_other other) within)

end Presents

/-! ## Settings given twice -/

/-- The field of an option writes the value that it has read, and nothing else. -/
theorem ofOption_run
    {σ α : Type}
    {name : String}
    {get : σ → Option α}
    {set : σ → α → σ}
    {reader : Reader α}
    {taken next : σ}
    {text rest : List Char}
    (read :
      ((Field.ofOption name get set reader).reader taken).run text = .ok (next, rest)) :
    ∃ value, next = set taken value := by
  simp only [Field.ofOption, Reader.map] at read
  split at read
  next value behind inner =>
    cases read
    exact ⟨value, rfl⟩
  next =>
    cases read

/-- The fields of a configuration pass over what is unknown and take each value once. -/
theorem fields_lawful : LawfulFields fields := by
  constructor
  · have word : Reader.word.TakesValues :=
      (Reader.natural_takesValues _ _).map _
    have longWord : Reader.longWord.TakesValues :=
      (Reader.natural_takesValues _ _).map _
    simp only [fields, List.forall_mem_cons]
    exact ⟨fun _ => (Reader.choice_takesValues _).map _, fun _ => word.map _, fun _ => word.map _,
      fun _ => word.map _, fun _ => longWord.optional.map _, List.forall_mem_nil _⟩
  · intro field listed other others taken next text rest read
    simp only [fields, List.mem_cons, List.not_mem_nil, or_false] at listed others
    obtain rfl | rfl | rfl | rfl | rfl := listed <;> obtain ⟨value, rfl⟩ := ofOption_run read <;>
      obtain rfl | rfl | rfl | rfl | rfl := others <;> rfl

/-- Any settings are read from an object among other members, but none is read twice. -/
theorem partial_texts_are_read :
    (∀ (config : Config) (given : Finset Setting) (object : Object),
      config.Presents given object.members →
      parse (String.ofList object.text) = .ok (config.keeping given)) ∧
    ∀ (object : Object) (setting : Setting),
      (∀ member ∈ object.members, IsValue member.value) →
      2 ≤ object.members.countP (·.name == setting.name) →
      ∃ error, parse (String.ofList object.text) = .error error := by
  constructor
  · intro config given object presents
    have takes := presents.takes (Finset.Subset.refl given)
    rw [Finset.sdiff_self] at takes
    rw [← orStandard_giving]
    exact parse_object takes rfl
  · intro object setting areValues repeated
    obtain ⟨field, keeps⟩ := standard.exists_field setting
    have found := keeps.found
    have named : field.name = setting.name := by
      simpa using List.find?_some found
    rw [← named] at found repeated
    exact parse_repeated fields_lawful found areValues repeated

/-- The member `"extra":[-1.5e+3,{"deep":"\ud800"}]`, which no configuration asks for. -/
def nestedMember : Member where
  name :=
    "extra"
  beforeKey :=
    .none
  key :=
    "extra".toList
  spelled :=
    spells_self (by decide)
  afterKey :=
    .none
  beforeValue :=
    .none
  value :=
    "[-1.5e+3,\x7b\"deep\":\"\\ud800\"\x7d]".toList
  afterValue :=
    .none

/-- The member with a nested value holds a value. -/
theorem nestedMember_isValue : IsValue nestedMember.value := by
  have number : IsNumber "-1.5e+3".toList :=
    ⟨['-'], by decide, ['1'], ['.', '5'], ['e', '+', '3'], .inr ⟨by decide, by decide⟩,
      .inr ⟨['5'], by decide, rfl⟩, .inr ⟨'e', by decide, ['+'], by decide, ['3'], by decide, rfl⟩,
      rfl⟩
  have surrogate : IsUnit ['d', '8', '0', '0'] 0xD800 :=
    ⟨rfl, [13, 8, 0, 0], by simp [Hex.digitTable], rfl⟩
  have deep : IsString "deep".toList :=
    (spells_self (by decide)).isString
  have inner :=
    Phrase.Matches.filled
      (.last (.member .none .none .none .none deep (.string (.unit surrogate .nil))))
  exact .filled
    (.further (.element .none .none (.number number)) (.last (.element .none .none inner)))

/-- The member `"s\u0065ed" : 18446744073709551615`, which gives the largest seed. -/
def largestSeed : Member where
  name :=
    "seed"
  beforeKey :=
    .none
  key :=
    "s\\u0065ed".toList
  spelled :=
    .plain (by decide) (@Spells.unit ['0', '0', '6', '5'] _ _ _
      ⟨rfl, [0, 0, 6, 5], by simp [Hex.digitTable], rfl⟩ (spells_self (by decide)))
  afterKey :=
    .single
  beforeValue :=
    .single
  value :=
    natural 18446744073709551615
  afterValue :=
    .none

/-- The member `"semantics":"corrected"` on a line of its own. -/
def correctedSemantics : Member where
  name :=
    "semantics"
  beforeKey :=
    .lineEnd
  key :=
    "semantics".toList
  spelled :=
    spells_self (by decide)
  afterKey :=
    .none
  beforeValue :=
    .none
  value :=
    quotedName "corrected"
  afterValue :=
    .lineEnd

/-- An object that gives the semantics and the seed behind a member with another name. -/
def scattered : Object where
  before :=
    .single
  members :=
    [nestedMember, largestSeed, correctedSemantics]
  closing :=
    .none
  after :=
    .lineEnd

/-- The largest seed of 64 bits is written as a value. -/
theorem largestSeed_isValue : IsValue largestSeed.value :=
  .number (natural_isNumber 18446744073709551615)

/-- The name of a reading is written as a value. -/
theorem correctedSemantics_isValue : IsValue correctedSemantics.value :=
  .string (spells_self (by decide)).isString

/-- The scattered members give the seed and the reading, and no other setting. -/
theorem scattered_presents :
    (⟨.corrected, 5, 6, 7, some 18446744073709551615⟩ : Config).Presents {.semantics, .seed}
      scattered.members := by
  constructor
  · decide
  · intro member listed
    simp only [scattered, List.mem_cons, List.not_mem_nil, or_false] at listed
    obtain rfl | rfl | rfl := listed
    · refine .inr ⟨?_, nestedMember_isValue⟩
      rintro (_ | _ | _ | _ | _) <;> decide
    · exact .inl ⟨.seed, by decide, rfl, @Gives.seed _ 18446744073709551615 rfl⟩
    · exact .inl ⟨.semantics, by decide, rfl, .semantics (spells_self (by decide))⟩

/-- Scattered members are read as the settings they give, and a repeated one is an error. -/
theorem scattered_is_read :
    String.ofList scattered.text =
        " \x7b\"extra\":[-1.5e+3,\x7b\"deep\":\"\\ud800\"\x7d]," ++
          "\"s\\u0065ed\" : 18446744073709551615,\n\"semantics\":\"corrected\"\n\x7d\n" ∧
      parse (String.ofList scattered.text) =
        .ok ⟨.corrected, 11, 1, 60, some 18446744073709551615⟩ ∧
      ∃ error,
        parse (String.ofList
          { scattered with members := largestSeed :: scattered.members }.text) = .error error := by
  refine ⟨by decide +kernel, partial_texts_are_read.1 _ _ _ scattered_presents,
    partial_texts_are_read.2 _ .seed ?_ (by decide)⟩
  simp only [scattered, List.forall_mem_cons]
  exact ⟨largestSeed_isValue, nestedMember_isValue, largestSeed_isValue,
    correctedSemantics_isValue, List.forall_mem_nil _⟩

end Config

end Chip8
