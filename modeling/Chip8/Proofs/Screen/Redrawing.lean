import Chip8.Proofs.Screen.Sprite

namespace Chip8

/-!
# Sprites drawn one after another

Drawing a list of sprites flips each pixel as often as a sprite of the list
covers it.  Only whether that number is odd shows on the screen, so the order
of the sprites does not, and sprites that are all drawn a second time are gone.
-/

/-- A sprite and the position at which it is drawn. -/
structure PlacedSprite where
  x : UInt8
  y : UInt8
  rows : List UInt8

/-- The pixel numbers that a sprite flips at its position. -/
def PlacedSprite.offsets (sprite : PlacedSprite) : List Nat :=
  Sprite.offsets sprite.x sprite.y sprite.rows

namespace Screen

/-- The screen after sprites are drawn one after another. -/
def drawAll
    (screen : Screen)
    (sprites : List PlacedSprite) :
    Screen :=
  sprites.foldl
    (fun current sprite => (current.draw sprite.x sprite.y sprite.rows).screen)
    screen

/-- Flipping two lists of pixels in turn is flipping the joined list. -/
theorem flipAll_append
    (screen : Screen)
    (first second : List Nat) :
    (screen.flipAll (first ++ second)).1 = ((screen.flipAll first).1.flipAll second).1 := by
  induction first generalizing screen with
  | nil =>
      rfl
  | cons offset rest inductionHypothesis =>
      simp only [List.cons_append, flipAll_cons, inductionHypothesis]

/-- Drawing sprites flips the pixels of the first one, then those of the second, and so on. -/
theorem drawAll_eq_flipAll
    (screen : Screen)
    (sprites : List PlacedSprite) :
    screen.drawAll sprites = (screen.flipAll (sprites.flatMap PlacedSprite.offsets)).1 := by
  induction sprites generalizing screen with
  | nil =>
      rfl
  | cons sprite rest inductionHypothesis =>
      rw [List.flatMap_cons, flipAll_append]
      exact inductionHypothesis _

/-- Lists of pixels that agree in how often they name a pixel, but for even numbers, flip alike. -/
theorem flipAll_eq_of_count
    (screen : Screen)
    {first second : List Nat}
    (alike : ∀ pixel, first.count pixel % 2 = second.count pixel % 2) :
    (screen.flipAll first).1 = (screen.flipAll second).1 := by
  refine congrArg Screen.mk (Vector.ext fun pixel inside => ?_)
  rw [flipAll_pixel, flipAll_pixel, alike]

/-- The order in which sprites are drawn does not show. -/
theorem drawAll_eq_of_perm
    (screen : Screen)
    {sprites reordered : List PlacedSprite}
    (permuted : sprites.Perm reordered) :
    screen.drawAll reordered = screen.drawAll sprites := by
  rw [drawAll_eq_flipAll, drawAll_eq_flipAll]
  refine screen.flipAll_eq_of_count fun pixel => ?_
  rw [(permuted.flatMap_right PlacedSprite.offsets).count_eq pixel]

/-- Sprites that are drawn a second time, in any order, are gone. -/
theorem drawAll_drawAll_of_perm
    (screen : Screen)
    {sprites reordered : List PlacedSprite}
    (permuted : sprites.Perm reordered) :
    (screen.drawAll sprites).drawAll reordered = screen := by
  have even (offsets : List Nat) :
      ∀ pixel, (offsets ++ offsets).count pixel % 2 = ([] : List Nat).count pixel % 2 := by
    intro pixel
    rw [List.count_append, ← Nat.two_mul, Nat.mul_mod_right]
    rfl
  rw [drawAll_eq_of_perm _ permuted, drawAll_eq_flipAll, drawAll_eq_flipAll, ← flipAll_append]
  exact screen.flipAll_eq_of_count (even _)

/-- Flipping a word makes it all ones exactly when it was all zeros. -/
theorem xor_lit_eq_lit_iff
    {value : UInt32} :
    value ^^^ lit = lit ↔ value = dark := by
  show value ^^^ lit = dark ^^^ lit ↔ value = dark
  exact UInt32.xor_left_inj lit

/-- A sprite drawn once more collides with the pixels that it covered in the dark. -/
theorem redraw_collision_iff
    (screen : Screen)
    (x y : UInt8)
    (rows : List UInt8) :
    ((screen.draw x y rows).screen.draw x y rows).collision = true ↔
      ∃ pixel, ∃ inside : pixel < pixelCount,
        Sprite.Covers x y rows pixel ∧ screen.pixels[pixel] = dark := by
  rw [draw_collision_iff]
  refine exists_congr fun pixel => exists_congr fun inside => and_congr_right fun covered => ?_
  rw [draw_pixel screen x y rows inside, if_pos covered, xor_lit_eq_lit_iff]

/--
The algebra of drawing.  Sprites give the same screen in every order, and the
screen from before when all of them are drawn again in any order.  A sprite
collides where it covers a lit pixel, and drawn once more right after that
where it covered a dark one.
-/
theorem drawings_commute_and_cancel :
    (∀ (screen : Screen) (sprites reordered : List PlacedSprite),
      sprites.Perm reordered →
      screen.drawAll reordered = screen.drawAll sprites ∧
        (screen.drawAll sprites).drawAll reordered = screen) ∧
    (∀ (screen : Screen) (x y : UInt8) (rows : List UInt8),
      let first := screen.draw x y rows
      let second := first.screen.draw x y rows
      (first.collision = true ↔
        ∃ (pixel : Nat) (inside : pixel < 2048),
          Sprite.Covers x y rows pixel ∧ screen.pixels[pixel] = 0xFFFFFFFF) ∧
      (second.collision = true ↔
        ∃ (pixel : Nat) (inside : pixel < 2048),
          Sprite.Covers x y rows pixel ∧ screen.pixels[pixel] = 0)) := by
  constructor
  · intro screen sprites reordered permuted
    exact ⟨screen.drawAll_eq_of_perm permuted, screen.drawAll_drawAll_of_perm permuted⟩
  · intro screen x y rows first second
    exact ⟨screen.draw_collision_iff x y rows, screen.redraw_collision_iff x y rows⟩

/-- A screen with one pixel that is neither dark nor lit. -/
def tinted : Screen :=
  blank.set 0 0x12345678

/-- A sprite that runs past the right edge and one that runs past the last row. -/
def crossingSprites : List PlacedSprite :=
  [⟨62, 31, [0xFF, 0x81]⟩, ⟨64, 32, [0xF0]⟩, ⟨60, 31, [0xFF]⟩]

/-- Three sprites leave the same screen in another order, and vanish in a third one. -/
theorem tinted_drawn_twice :
    tinted.drawAll crossingSprites ≠ tinted ∧
      tinted.drawAll crossingSprites.reverse = tinted.drawAll crossingSprites ∧
      (tinted.drawAll crossingSprites).drawAll crossingSprites.reverse = tinted := by
  refine ⟨by decide +kernel, ?_⟩
  exact drawings_commute_and_cancel.1 tinted crossingSprites crossingSprites.reverse
    (List.reverse_perm crossingSprites).symm

end Screen

end Chip8
