import Chip8.Screen

namespace Chip8

/-!
# Sprites on the screen

Which pixels a sprite covers, and what drawing it does to each of them.  The
pixels are visited in increasing order, so none is flipped twice, and a
collision is decided on the screen as it was before the drawing.
-/

namespace Sprite

/--
A sprite drawn at `(x, y)` covers a pixel.  The pixel lies at some distance
after the start; the remainder by 64 is its column in the sprite, the quotient
its row, and the bit of that row and column is set.
-/
def Covers
    (x y : UInt8)
    (rows : List UInt8)
    (pixel : Nat) :
    Prop :=
  let start := y.toNat % 32 * 64 + x.toNat % 64
  let distance := pixel - start
  start ≤ pixel ∧
    distance % 64 < 8 ∧
    distance / 64 < rows.length ∧
    (rows.getD (distance / 64) 0).toNat.testBit (7 - distance % 64) = true

instance
    (x y : UInt8)
    (rows : List UInt8)
    (pixel : Nat) :
    Decidable (Covers x y rows pixel) :=
  inferInstanceAs (Decidable (_ ∧ _ ∧ _ ∧ _))

/-- A column is drawn where the bit is set that stands as far from the left. -/
theorem mem_columns_iff
    {bits : UInt8}
    {column : Nat} :
    column ∈ columns bits ↔ column < 8 ∧ bits.toNat.testBit (7 - column) = true := by
  simp [columns]

/-- A sprite is drawn at the bits that are set, row after row. -/
theorem mem_offsets_iff
    {x y : UInt8}
    {rows : List UInt8}
    {pixel : Nat} :
    pixel ∈ offsets x y rows ↔
      ∃ row bits column,
        rows[row]? = some bits ∧ column ∈ columns bits ∧
          pixel = origin x y + row * 64 + column := by
  unfold offsets
  rw [List.mem_flatMap]
  constructor
  · rintro ⟨⟨bits, row⟩, found, member⟩
    obtain ⟨column, set, rfl⟩ := List.mem_map.mp member
    exact ⟨row, bits, column, List.mk_mem_zipIdx_iff_getElem?.mp found, set, rfl⟩
  · rintro ⟨row, bits, column, found, set, rfl⟩
    exact ⟨(bits, row), List.mk_mem_zipIdx_iff_getElem?.mpr found,
      List.mem_map.mpr ⟨column, set, rfl⟩⟩

/-- The pixels that are flipped are the pixels that are covered. -/
theorem mem_offsets_iff_covers
    {x y : UInt8}
    {rows : List UInt8}
    {pixel : Nat} :
    pixel ∈ offsets x y rows ↔ Covers x y rows pixel := by
  rw [mem_offsets_iff]
  simp only [mem_columns_iff]
  constructor
  · rintro ⟨row, bits, column, found, ⟨small, set⟩, rfl⟩
    have distance :
        origin x y + row * 64 + column - (y.toNat % 32 * 64 + x.toNat % 64) =
          row * 64 + column := by
      simp only [origin, screenWidth, screenHeight]
      omega
    have rowOf : (row * 64 + column) / 64 = row := by
      omega
    have columnOf : (row * 64 + column) % 64 = column := by
      omega
    obtain ⟨inside, rfl⟩ := List.getElem?_eq_some_iff.mp found
    unfold Covers
    simp only [distance, rowOf, columnOf]
    refine ⟨?_, small, inside, ?_⟩
    · simp only [origin, screenWidth, screenHeight]
      omega
    · simpa [List.getD, inside] using set
  · rintro ⟨after, small, inside, set⟩
    refine ⟨_, _, _, List.getElem?_eq_getElem inside, ⟨small, ?_⟩, ?_⟩
    · simpa [List.getD, inside] using set
    · simp only [origin, screenWidth, screenHeight]
      omega

/-- A sprite is drawn from the first pixel on, so no pixel is flipped twice. -/
theorem offsets_increasing
    (x y : UInt8)
    (rows : List UInt8) :
    (offsets x y rows).Pairwise (· < ·) := by
  have columnsIncreasing (bits : UInt8) : (columns bits).Pairwise (· < ·) :=
    List.pairwise_lt_range.filter _
  have rowsIncreasing : rows.zipIdx.Pairwise (fun first second => first.2 < second.2) := by
    rw [← List.pairwise_map (f := Prod.snd), List.zipIdx_map_snd]
    exact List.pairwise_lt_range'
  unfold offsets
  rw [List.pairwise_flatMap]
  constructor
  · rintro ⟨bits, row⟩ _
    rw [List.pairwise_map]
    exact (columnsIncreasing bits).imp fun before => Nat.add_lt_add_left before _
  · apply rowsIncreasing.imp
    rintro ⟨firstBits, firstRow⟩ ⟨secondBits, secondRow⟩ before first firstMember second
      secondMember
    obtain ⟨firstColumn, firstSet, rfl⟩ := List.mem_map.mp firstMember
    obtain ⟨secondColumn, -, rfl⟩ := List.mem_map.mp secondMember
    -- A row spans eight pixels and the next one starts 64 pixels on.
    have small := (mem_columns_iff.mp firstSet).1
    simp only [screenWidth] at before ⊢
    omega

/-- A sprite flips no pixel twice. -/
theorem offsets_nodup
    (x y : UInt8)
    (rows : List UInt8) :
    (offsets x y rows).Nodup :=
  (offsets_increasing x y rows).imp Nat.ne_of_lt

end Sprite

namespace Screen

/-- Flipping a pixel changes all its bits and no other pixel. -/
theorem flip_pixel
    (screen : Screen)
    (offset : Nat)
    {pixel : Nat}
    (inside : pixel < pixelCount) :
    (screen.flip offset).pixels[pixel] =
      if pixel = offset then screen.pixels[pixel] ^^^ lit else screen.pixels[pixel] := by
  unfold flip
  by_cases same : pixel = offset
  · subst offset
    simp [inside]
  · split
    next reached =>
      simp [Ne.symm same]
    next =>
      simp

/-- Flipping a pixel does not change whether another one is lit. -/
theorem isLit_flip_of_ne
    (screen : Screen)
    {flipped offset : Nat}
    (different : offset ≠ flipped) :
    (screen.flip flipped).isLit offset = screen.isLit offset := by
  unfold isLit
  by_cases inside : offset < pixelCount
  · simp [inside, flip_pixel, different]
  · simp [inside]

/-- Whether a pixel is lit is decided by its value, and no pixel past the end is lit. -/
theorem isLit_eq_true_iff
    (screen : Screen)
    (offset : Nat) :
    screen.isLit offset = true ↔
      ∃ inside : offset < pixelCount, screen.pixels[offset] = lit := by
  by_cases inside : offset < pixelCount <;> simp [isLit, inside]

/-- A collision that was noted before stays noted and changes nothing else. -/
private theorem foldl_collision
    (offsets : List Nat)
    (current : Screen)
    (collision : Bool) :
    offsets.foldl
        (fun (current, collision) offset =>
          let hit := current.isLit offset
          (current.flip offset, collision || hit))
        (current, collision) =
      ((current.flipAll offsets).1, collision || (current.flipAll offsets).2) := by
  unfold flipAll
  induction offsets generalizing current collision with
  | nil =>
      simp
  | cons offset rest inductionHypothesis =>
      simp only [List.foldl_cons]
      rw [inductionHypothesis, inductionHypothesis _ (false || _)]
      simp [Bool.or_assoc]

/-- The first pixel is flipped before the rest, and is tested before it is flipped. -/
theorem flipAll_cons
    (screen : Screen)
    (offset : Nat)
    (rest : List Nat) :
    screen.flipAll (offset :: rest) =
      (((screen.flip offset).flipAll rest).1,
        screen.isLit offset || ((screen.flip offset).flipAll rest).2) := by
  rw [flipAll, List.foldl_cons, foldl_collision]
  simp

/-- A pixel is flipped once for each time it is listed. -/
theorem flipAll_pixel
    (screen : Screen)
    (offsets : List Nat)
    {pixel : Nat}
    (inside : pixel < pixelCount) :
    (screen.flipAll offsets).1.pixels[pixel] =
      if offsets.count pixel % 2 = 1 then
        screen.pixels[pixel] ^^^ lit
      else
        screen.pixels[pixel] := by
  induction offsets generalizing screen with
  | nil =>
      rfl
  | cons offset rest inductionHypothesis =>
      rw [flipAll_cons, inductionHypothesis, flip_pixel, List.count_cons]
      by_cases same : offset = pixel
      · subst offset
        by_cases odd : rest.count pixel % 2 = 1
        · have even : ¬(rest.count pixel + 1) % 2 = 1 := by
            omega
          simp only [odd, even, ↓reduceIte, beq_self_eq_true, UInt32.xor_assoc, UInt32.xor_self,
            UInt32.xor_zero]
        · have next : (rest.count pixel + 1) % 2 = 1 := by
            omega
          simp [odd, next]
      · simp [same, Ne.symm same]

/-- A pixel that is listed at most once is flipped exactly when it is listed. -/
theorem flipAll_pixel_of_nodup
    (screen : Screen)
    {offsets : List Nat}
    (distinct : offsets.Nodup)
    {pixel : Nat}
    (inside : pixel < pixelCount) :
    (screen.flipAll offsets).1.pixels[pixel] =
      if pixel ∈ offsets then screen.pixels[pixel] ^^^ lit else screen.pixels[pixel] := by
  rw [flipAll_pixel]
  by_cases member : pixel ∈ offsets
  · simp [member, distinct.count]
  · simp [member, List.count_eq_zero_of_not_mem member]

/-- Flipping distinct pixels meets a lit one exactly when one was lit at the start. -/
theorem flipAll_collision_of_nodup
    (screen : Screen)
    {offsets : List Nat}
    (distinct : offsets.Nodup) :
    (screen.flipAll offsets).2 = offsets.any screen.isLit := by
  induction offsets generalizing screen with
  | nil =>
      rfl
  | cons offset rest inductionHypothesis =>
      obtain ⟨fresh, restDistinct⟩ := List.nodup_cons.mp distinct
      have unchanged : rest.any (screen.flip offset).isLit = rest.any screen.isLit := by
        rw [Bool.eq_iff_iff, List.any_eq_true, List.any_eq_true]
        apply exists_congr
        intro later
        apply and_congr_right
        intro member
        rw [screen.isLit_flip_of_ne]
        rintro rfl
        exact fresh member
      rw [flipAll_cons, inductionHypothesis _ restDistinct, unchanged, List.any_cons]

/-- Pixels past the end of the screen can be left out. -/
theorem flipAll_filter
    (screen : Screen)
    (offsets : List Nat) :
    screen.flipAll (offsets.filter fun offset => decide (offset < pixelCount)) =
      screen.flipAll offsets := by
  induction offsets generalizing screen with
  | nil =>
      rfl
  | cons offset rest inductionHypothesis =>
      by_cases inside : offset < pixelCount
      · simp only [List.filter_cons, inside, decide_true, ↓reduceIte, flipAll_cons,
          inductionHypothesis]
      · have unlit : screen.isLit offset = false := by
          simp [isLit, inside]
        have unchanged : screen.flip offset = screen := by
          simp [flip, inside]
        simp [inside, flipAll_cons, unlit, unchanged, inductionHypothesis]

/-- A drawing flips exactly the pixels that the sprite covers. -/
theorem draw_pixel
    (screen : Screen)
    (x y : UInt8)
    (rows : List UInt8)
    {pixel : Nat}
    (inside : pixel < pixelCount) :
    (screen.draw x y rows).screen.pixels[pixel] =
      if Sprite.Covers x y rows pixel then
        screen.pixels[pixel] ^^^ lit
      else
        screen.pixels[pixel] := by
  have flipped :=
    screen.flipAll_pixel_of_nodup (Sprite.offsets_nodup x y rows) inside
  simp only [Sprite.mem_offsets_iff_covers] at flipped
  exact flipped

/-- Every pixel is fully dark or fully lit. -/
def Monochrome (screen : Screen) : Prop :=
  ∀ (pixel : Nat) (inside : pixel < pixelCount),
    screen.pixels[pixel] = 0 ∨ screen.pixels[pixel] = 0xFFFFFFFF

/-- A blank screen has dark pixels only. -/
theorem blank_monochrome : blank.Monochrome := by
  intro pixel inside
  left
  exact Vector.getElem_replicate inside

/-- A drawing leaves pixels dark or lit. -/
theorem draw_monochrome
    {screen : Screen}
    (monochrome : screen.Monochrome)
    (x y : UInt8)
    (rows : List UInt8) :
    (screen.draw x y rows).screen.Monochrome := by
  intro pixel inside
  rw [draw_pixel screen x y rows inside]
  split
  next covered =>
    rcases monochrome pixel inside with isDark | isLit
    · right
      rw [isDark]
      rfl
    · left
      rw [isLit]
      rfl
  next missed =>
    exact monochrome pixel inside

/-- A drawing collides exactly when it covers a pixel that was fully lit. -/
theorem draw_collision_iff
    (screen : Screen)
    (x y : UInt8)
    (rows : List UInt8) :
    (screen.draw x y rows).collision = true ↔
      ∃ pixel, ∃ inside : pixel < pixelCount,
        Sprite.Covers x y rows pixel ∧ screen.pixels[pixel] = lit := by
  have collided :
      (screen.draw x y rows).collision = (Sprite.offsets x y rows).any screen.isLit :=
    screen.flipAll_collision_of_nodup (Sprite.offsets_nodup x y rows)
  rw [collided, List.any_eq_true]
  simp only [Sprite.mem_offsets_iff_covers, isLit_eq_true_iff]
  constructor
  · rintro ⟨pixel, covered, inside, wasLit⟩
    exact ⟨pixel, inside, covered, wasLit⟩
  · rintro ⟨pixel, inside, covered, wasLit⟩
    exact ⟨pixel, covered, inside, wasLit⟩

/-- What drawing a sprite at `(x, y)` makes of a screen. -/
structure Draws
    (x y : UInt8)
    (rows : List UInt8)
    (before : Screen)
    (drawing : Drawing) :
    Prop where
  /-- A pixel is flipped where the sprite covers it and kept elsewhere. -/
  pixels :
    ∀ (pixel : Nat) (inside : pixel < 2048),
      drawing.screen.pixels[pixel] =
        if Sprite.Covers x y rows pixel then
          before.pixels[pixel] ^^^ 0xFFFFFFFF
        else
          before.pixels[pixel]
  /-- There is a collision where a covered pixel was fully lit before. -/
  collision :
    drawing.collision = true ↔
      ∃ (pixel : Nat) (inside : pixel < 2048),
        Sprite.Covers x y rows pixel ∧ before.pixels[pixel] = 0xFFFFFFFF
  /-- What runs past the right edge lands on the next row. -/
  bleed :
    ∀ (row : Nat) (bits : UInt8) (column : Nat),
      rows[row]? = some bits →
      column < 8 →
      bits.toNat.testBit (7 - column) = true →
      64 ≤ x.toNat % 64 + column →
      drawing.screen.pixel? (x.toNat % 64 + column - 64) (y.toNat % 32 + row + 1) =
        (before.pixel? (x.toNat % 64 + column - 64) (y.toNat % 32 + row + 1)).map
          (· ^^^ 0xFFFFFFFF)
  /-- The pixels visited differ from each other. -/
  once :
    (Sprite.offsets x y rows).Nodup ∧
      before.flipAll (Sprite.offsets x y rows) = (drawing.screen, drawing.collision)
  /-- Visiting only those on the screen gives the same drawing. -/
  dropped :
    before.flipAll
        ((Sprite.offsets x y rows).filter fun offset => decide (offset < 2048)) =
      (drawing.screen, drawing.collision)

/-- A place on the screen has the pixel of its number in reading order. -/
theorem pixel?_eq
    (screen : Screen)
    {x y : Nat}
    (column : x < screenWidth)
    (row : y < screenHeight) :
    screen.pixel? x y = screen.pixels[y * screenWidth + x]? := by
  simp [pixel?, column, row]

/-- A pixel that the sprite carries past the right edge is flipped on the next row. -/
theorem draw_pixel?_of_bleed
    (screen : Screen)
    (x y : UInt8)
    {rows : List UInt8}
    {row : Nat}
    {bits : UInt8}
    {column : Nat}
    (found : rows[row]? = some bits)
    (set : column ∈ Sprite.columns bits)
    (past : 64 ≤ x.toNat % 64 + column) :
    (screen.draw x y rows).screen.pixel? (x.toNat % 64 + column - 64) (y.toNat % 32 + row + 1) =
      (screen.pixel? (x.toNat % 64 + column - 64) (y.toNat % 32 + row + 1)).map (· ^^^ lit) := by
  have small := (Sprite.mem_columns_iff.mp set).1
  have columnInside : x.toNat % 64 + column - 64 < screenWidth := by
    simp only [screenWidth]
    omega
  by_cases rowInside : y.toNat % 32 + row + 1 < screenHeight
  · rw [pixel?_eq _ columnInside rowInside, pixel?_eq _ columnInside rowInside]
    have covered :
        Sprite.Covers x y rows
          ((y.toNat % 32 + row + 1) * screenWidth + (x.toNat % 64 + column - 64)) := by
      rw [← Sprite.mem_offsets_iff_covers, Sprite.mem_offsets_iff]
      refine ⟨row, bits, column, found, set, ?_⟩
      simp only [Sprite.origin, screenWidth, screenHeight]
      omega
    have inside :
        (y.toNat % 32 + row + 1) * screenWidth + (x.toNat % 64 + column - 64) < pixelCount := by
      simp only [pixelCount, screenWidth, screenHeight] at rowInside columnInside ⊢
      omega
    simp [inside, draw_pixel, covered]
  · simp [pixel?, rowInside]

/-- Drawing a sprite flips what it covers, once, and reports what was lit. -/
theorem draw_draws
    (screen : Screen)
    (x y : UInt8)
    (rows : List UInt8) :
    Draws x y rows screen (screen.draw x y rows) where
  pixels := fun _ inside => screen.draw_pixel x y rows inside
  collision := screen.draw_collision_iff x y rows
  bleed := fun _ _ _ found small set past =>
    screen.draw_pixel?_of_bleed x y found (Sprite.mem_columns_iff.mpr ⟨small, set⟩) past
  once := ⟨Sprite.offsets_nodup x y rows, rfl⟩
  dropped := screen.flipAll_filter (Sprite.offsets x y rows)

end Screen

end Chip8
