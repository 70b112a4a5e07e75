import Chip8.CommandLine.Run
import Chip8.Proofs.Config.RoundTrip

namespace Chip8.CommandLine

/-!
# Written configurations

A run can write its configuration to a file.  Arguments that name this file, and
repeat some of the settings of the run or none, lead to the same configuration
again: what they say is in the file already.
-/

/-- Arguments that name a configuration file and repeat settings of others, any or none of them. -/
structure Arguments.Repeats
    (again arguments : Arguments)
    (path : String) : Prop where
  config : again.config = some path
  corrected : again.corrected = true → arguments.corrected = true
  seed : again.seed = none ∨ again.seed = arguments.seed
  cycles : again.cycles = none ∨ again.cycles = arguments.cycles

variable {arguments again : Arguments} {config : Config} {path : String}

/-- The check of the frame rate lets a configuration pass unchanged, unless its rate is zero. -/
theorem checkFrameRate_eq_ok_iff
    {result : Config} :
    checkFrameRate config = .ok result ↔ config = result ∧ config.frameRate ≠ 0 := by
  unfold checkFrameRate
  split <;> simp [*]

/-- A configuration is one that was overridden, with a frame rate above zero. -/
theorem Arguments.overridden_of_machineConfig
    {read : String → Except FileError (List UInt8)}
    (configured : arguments.machineConfig read = .ok config) :
    ∃ base, config = arguments.override base ∧ config.frameRate ≠ 0 := by
  unfold machineConfig at configured
  split at configured
  next =>
    obtain ⟨rfl, framed⟩ := checkFrameRate_eq_ok_iff.mp configured
    exact ⟨_, rfl, framed⟩
  next =>
    split at configured
    next =>
      cases configured
    next base _ =>
      obtain ⟨rfl, framed⟩ := checkFrameRate_eq_ok_iff.mp configured
      exact ⟨base, rfl, framed⟩

/-- Settings that are repeated change nothing where they were set before. -/
theorem Arguments.Repeats.override_override
    (repeats : again.Repeats arguments path)
    (base : Config) :
    again.override (arguments.override base) = arguments.override base := by
  have semantics :
      (if again.corrected then .corrected else (arguments.override base).semantics) =
        (arguments.override base).semantics := by
    by_cases asked : again.corrected = true
    · simp [override, repeats.corrected asked]
    · rw [if_neg asked]
  have cycles :
      again.cycles.getD (arguments.override base).cyclesPerFrame =
        (arguments.override base).cyclesPerFrame := by
    rcases repeats.cycles with absent | same
    · rw [absent, Option.getD_none]
    · cases given : arguments.cycles <;> simp [override, same, given]
  have seed :
      (again.seed.orElse fun _ => (arguments.override base).seed) =
        (arguments.override base).seed := by
    rcases repeats.seed with absent | same
    · rw [absent]
      rfl
    · cases given : arguments.seed <;> simp [override, same, given]
  rw [override, semantics, cycles, seed]

/-- A file with the text of a configuration holds this configuration. -/
theorem configOfFile_bytes
    (config : Config) :
    configOfFile (.ok (Text.bytes config.text)) = .ok config := by
  simp only [configOfFile, configOfBytes, Text.ofBytes?_bytes, Config.parse_text]
  rfl

/--
A configuration in a file is read back, overridden and checked like the one it
was written from.
-/
theorem Arguments.machineConfig_of_text
    {read : String → Except FileError (List UInt8)}
    (named : arguments.config = some path)
    (holds : read path = .ok (Text.bytes config.text)) :
    arguments.machineConfig read = checkFrameRate (arguments.override config) := by
  simp only [machineConfig, named, holds, configOfFile_bytes]

/--
A configuration that was written to a file is the configuration of all arguments
that name the file and repeat settings of the run that wrote it, and what they
lead to is written as the same bytes.
-/
theorem written_config_is_reproduced
    {read : String → Except FileError (List UInt8)}
    {directory written : Directory}
    (configured : arguments.machineConfig read = .ok config)
    (saved : directory.write path (Text.bytes config.text) = .ok written)
    (repeats : again.Repeats arguments path) :
    again.machineConfig written.read = .ok config ∧
      ∀ {result : Config} {target : String} {rewritten : Directory},
        again.machineConfig written.read = .ok result →
        written.write target (Text.bytes result.text) = .ok rewritten →
        rewritten.read target = written.read path := by
  obtain ⟨base, rfl, framed⟩ := Arguments.overridden_of_machineConfig configured
  have contents := Directory.read_of_write saved
  have again_configured :
      again.machineConfig written.read = .ok (arguments.override base) := by
    rw [Arguments.machineConfig_of_text repeats.config contents, repeats.override_override]
    exact checkFrameRate_eq_ok_iff.mpr ⟨rfl, framed⟩
  refine ⟨again_configured, fun configured rewrites => ?_⟩
  obtain rfl := Except.ok.inj (again_configured.symm.trans configured)
  rw [Directory.read_of_write rewrites, contents]

/-- Arguments that override the settings of a file. -/
def overriding : Arguments :=
  { Arguments.standard "game.ch8" with
    config := some "old.json"
    corrected := true
    seed := some 0xFFFFFFFFFFFFFFFF
    cycles := some 20 }

/-- What is in the file. -/
def older : Config :=
  { Config.standard with
    frameRate := 50
    seed := some 3 }

/-- Every file holds it. -/
def olderFile (_ : String) : Except FileError (List UInt8) :=
  .ok (Text.bytes older.text)

/-- The configuration that comes of both. -/
def overridden : Config :=
  overriding.override older

/-- Arguments that name the written file and one of the settings. -/
def repeating : Arguments :=
  { Arguments.standard "game.ch8" with
    config := some "new.json"
    cycles := some 20 }

/-- The largest seed is read back, and the other settings too, without being named again. -/
theorem overridden_reproduced :
    overridden = ⟨.corrected, 20, 1, 50, some 0xFFFFFFFFFFFFFFFF⟩ ∧
      ∃ written rewritten,
        Directory.write ⟨[]⟩ "new.json" (Text.bytes overridden.text) = .ok written ∧
          repeating.machineConfig written.read = .ok overridden ∧
          written.write "newer.json" (Text.bytes overridden.text) = .ok rewritten ∧
          rewritten.read "newer.json" = written.read "new.json" := by
  have named : overriding.config = some "old.json" :=
    rfl
  have holds : olderFile "old.json" = .ok (Text.bytes older.text) :=
    rfl
  have configured : overriding.machineConfig olderFile = .ok overridden := by
    rw [Arguments.machineConfig_of_text named holds]
    exact checkFrameRate_eq_ok_iff.mpr ⟨rfl, by decide⟩
  have repeats : repeating.Repeats overriding "new.json" :=
    { config := rfl, corrected := fun _ => rfl, seed := .inl rfl, cycles := .inr rfl }
  have here : Place.ofPath "new.json" = .ok (.file "new.json") := by
    rfl
  have there : Place.ofPath "newer.json" = .ok (.file "newer.json") := by
    rfl
  have saved
      (directory : Directory) :
      directory.write "new.json" (Text.bytes overridden.text) =
        .ok (directory.put "new.json" (Text.bytes overridden.text)) := by
    simp only [Directory.write, Directory.update, here]
    rfl
  have savedAgain
      (directory : Directory) :
      directory.write "newer.json" (Text.bytes overridden.text) =
        .ok (directory.put "newer.json" (Text.bytes overridden.text)) := by
    simp only [Directory.write, Directory.update, there]
    rfl
  obtain ⟨reproduced, rewritten⟩ := written_config_is_reproduced configured (saved ⟨[]⟩) repeats
  exact ⟨rfl, _, _, saved _, reproduced, savedAgain _, rewritten reproduced (savedAgain _)⟩

end Chip8.CommandLine
