import Chip8.Config.Json
import Chip8.Proofs.Json.Members

namespace Chip8

/-!
# Configurations read back

Every configuration is read back from its own text, whatever its numbers are
and whether it has a seed or not.
-/

open Json

/-- A name of a reading is read back however its characters are spelled. -/
theorem Semantics.spelled_readsBack
    {semantics : Semantics}
    {text : List Char}
    (spells : Spells text semantics.name.toList) :
    (Reader.choice names).ReadsBack ('"' :: (text ++ ['"'])) semantics := by
  cases semantics <;> exact Reader.choice_readsBack_spelled spells rfl

/-- A name of a reading that is written as it is reads back. -/
theorem Semantics.name_readsBack
    (semantics : Semantics) :
    (Reader.choice names).ReadsBack (quotedName semantics.name) semantics := by
  cases semantics <;> exact Reader.choice_readsBack (by decide) rfl

namespace Config

/-- The settings that a whole configuration gives. -/
def given (config : Config) : Given where
  semantics :=
    some config.semantics
  cyclesPerFrame :=
    some config.cyclesPerFrame
  timerTicksPerFrame :=
    some config.timerTicksPerFrame
  frameRate :=
    some config.frameRate
  seed :=
    some config.seed

/-- The members of a configuration give its settings one after the other. -/
theorem members_fill
    (config : Config) :
    Fills fields Given.nothing config.members config.given := by
  refine .member (by decide) rfl rfl ((Semantics.name_readsBack _).map _) ?_
  refine .member (by decide) rfl rfl ((Reader.word_readsBack _).map _) ?_
  refine .member (by decide) rfl rfl ((Reader.word_readsBack _).map _) ?_
  refine .member (by decide) rfl rfl ((Reader.word_readsBack _).map _) ?_
  refine .member (by decide) rfl rfl ((Reader.optional_readsBack Reader.longWord_readsBack _).map _) ?_
  exact .done _

/-- A configuration is read back from its text. -/
theorem parse_text
    (config : Config) :
    parse config.text = .ok config :=
  parse_linedObject config.members_fill rfl

end Config

end Chip8
