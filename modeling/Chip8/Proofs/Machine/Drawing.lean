import Chip8.Proofs.Machine.Outcome
import Chip8.Proofs.Screen.Sprite

namespace Chip8

/-!
# Drawing instructions

A drawing instruction reads its rows at the index and its position from two
registers, all before it writes.  It changes the screen as the sprite does, and
of the registers only the flag.
-/

/-- A word that draws decodes to its drawing instruction. -/
theorem Instruction.decode?_of_sprite
    {word : UInt16}
    (sprite : Word.IsSprite word) :
    Instruction.decode? word =
      some (.draw (Word.x word) (Word.y word) (Word.rows word)) :=
  Instruction.decode?_eq_some_iff.mpr ⟨sprite, rfl, rfl, rfl⟩

namespace Machine

variable {machine : Machine} {word : UInt16} {bytes : List UInt8}

/-- The machine after a drawing: a new screen, and the collision in the flag. -/
def drawn
    (machine : Machine)
    (drawing : Drawing) :
    Machine :=
  { machine with
    screen := drawing.screen
    registers := machine.registers.set 15 (if drawing.collision then 1 else 0) }

/-- A drawing changes no register but the flag. -/
theorem register_drawn
    (machine : Machine)
    (drawing : Drawing)
    (register : Register) :
    (machine.drawn drawing).register register =
      if register = 15 then
        if drawing.collision then 1 else 0
      else
        machine.register register :=
  register_setRegister { machine with screen := drawing.screen } flagRegister _ register

/-- Drawing the rows that were read changes the screen and the flag. -/
theorem drawSprite_of_slice
    (machine : Machine)
    (x y : Register)
    {rows : UInt8}
    (read : machine.memory.slice machine.index.toNat rows.toNat = .ok bytes) :
    (machine.drawSprite x y rows).result = .ok () ∧
      (machine.drawSprite x y rows).state =
        machine.drawn
          (machine.screen.draw (machine.register x) (machine.register y) bytes) := by
  simp only [drawSprite, read]
  exact ⟨rfl, rfl⟩

/-- A step on a word that draws draws at the position its registers had before. -/
theorem step_of_sprite
    (fetch : machine.memory.readWord machine.pc.toNat = .ok word)
    (sprite : Word.IsSprite word)
    (read : machine.memory.slice machine.index.toNat (Word.low word).val = .ok bytes) :
    machine.step.result = .ok () ∧
      machine.step.state =
        (machine.fetched word).drawn
          (machine.screen.draw (machine.register (Word.x word)) (machine.register (Word.y word))
            bytes) := by
  rw [← Word.rows_toNat] at read
  have drawing :=
    (machine.fetched word).drawSprite_of_slice (Word.x word) (Word.y word) read
  have executed :
      ((machine.fetched word).execute (.draw (Word.x word) (Word.y word) (Word.rows word))) =
        (machine.fetched word).drawSprite (Word.x word) (Word.y word) (Word.rows word) :=
    rfl
  have decoded := Instruction.decode?_of_sprite sprite
  simp only [step, fetch, decoded, executed, drawing.1, true_and]
  exact drawing.2

/--
Drawing flips exactly the pixels that the sprite covers.  A drawing instruction
draws at the position its registers had before, also when one of them is the
flag, and then sets the flag to the collision and leaves the other registers.
-/
theorem sprite_drawing :
    (∀ (screen : Screen) (x y : UInt8) (rows : List UInt8),
      Screen.Draws x y rows screen (screen.draw x y rows)) ∧
    (∀ (machine : Machine) (word : UInt16) (bytes : List UInt8),
      machine.memory.readWord machine.pc.toNat = .ok word →
      Word.IsSprite word →
      machine.memory.slice machine.index.toNat (Word.low word).val = .ok bytes →
      let drawing :=
        machine.screen.draw (machine.register (Word.x word)) (machine.register (Word.y word)) bytes
      machine.step.result = .ok () ∧
        machine.step.state = (machine.fetched word).drawn drawing ∧
        ∀ register,
          machine.step.state.register register =
            if register = 15 then
              if drawing.collision then 1 else 0
            else
              machine.register register) := by
  refine ⟨Screen.draw_draws, ?_⟩
  intro machine word bytes fetch sprite read drawing
  obtain ⟨succeeded, state⟩ := step_of_sprite fetch sprite read
  refine ⟨succeeded, state, ?_⟩
  intro register
  rw [state]
  exact (machine.fetched word).register_drawn drawing register

/-- A machine about to draw one row at the column that the flag holds, two from the edge. -/
def drawingAtFlag : Machine :=
  { loaded .corrected [0xDF, 0x01, 0xF0] with
    registers := (Vector.replicate 16 0).set 15 62
    index := 0x202 }

/-- The flag is read before it is cleared, and half of the row lands on the next one. -/
theorem drawingAtFlag_step :
    drawingAtFlag.step.result = .ok () ∧
      drawingAtFlag.step.state.register 15 = 0 ∧
      drawingAtFlag.step.state.screen.pixel? 0 1 = some lit := by
  obtain ⟨succeeded, state, registers⟩ :=
    sprite_drawing.2 drawingAtFlag 0xDF01 [0xF0] (by decide +kernel) rfl (by decide +kernel)
  refine ⟨succeeded, ?_, ?_⟩
  · rw [registers]
    decide +kernel
  · rw [state]
    decide +kernel

end Machine

end Chip8
