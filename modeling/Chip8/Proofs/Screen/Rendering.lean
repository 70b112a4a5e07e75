import Chip8.Proofs.Log.Lines
import Chip8.Proofs.Screen.Sprite
import Chip8.Terminal

namespace Chip8

/-!
# Views of a screen

A screen is shown as lines of text and copied as rows of a picture.  One view
goes through the coordinates, the other cuts the pixels in reading order into
rows, and both show the same: which pixels are not dark.  The text loses nothing
but the values of the pixels that are neither dark nor lit.
-/

namespace Frame

/-- Pixels that fill a number of rows are cut into these rows. -/
theorem pieces_of_length
    {α : Type}
    {size count : Nat}
    (positive : 0 < size)
    {elements : List α}
    (fills : elements.length = count * size) :
    pieces size positive elements =
      (List.range count).map fun row => (elements.drop (row * size)).take size := by
  induction count generalizing elements with
  | zero =>
      rw [Nat.zero_mul] at fills
      rw [List.eq_nil_of_length_eq_zero fills, pieces]
      rfl
  | succ count inductionHypothesis =>
      rcases elements with _ | ⟨first, rest⟩
      · simp [Nat.succ_mul] at fills
        omega
      · have behind : ((first :: rest).drop size).length = count * size := by
          rw [List.length_drop, fills, Nat.succ_mul, Nat.add_sub_cancel]
        rw [pieces, inductionHypothesis behind, List.range_succ_eq_map, List.map_cons,
          List.map_map]
        simp [Function.comp_def, Nat.succ_mul, Nat.add_comm]

/-- The rows of a picture as lines of text, with a blank for zero and a block for all else. -/
def textLines (frame : Frame) : List String :=
  frame.rows.map fun row => String.ofList (row.map fun pixel => if pixel = 0 then ' ' else '█')

end Frame

namespace Screen

variable (screen : Screen)

/-- The rows of the picture of a screen. -/
theorem toFrame_rows :
    screen.toFrame.rows =
      (List.range 32).map fun y => (screen.pixels.toList.drop (y * 64)).take 64 := by
  have positive : 0 < 64 := by decide
  have fills : screen.pixels.toList.length = 32 * 64 := screen.pixels.length_toList
  exact Frame.pieces_of_length positive fills

variable {x y : Nat}

/-- A place on the screen has a pixel, and is on when that pixel is not zero. -/
theorem pixel_of_place
    (column : x < 64)
    (row : y < 32) :
    ∃ value, screen.pixels[y * 64 + x]? = some value ∧ (screen.isOn x y = true ↔ value ≠ 0) := by
  have inside : y * 64 + x < pixelCount := by
    show y * 64 + x < 2048
    omega
  have found : screen.pixels[y * 64 + x]? = some screen.pixels[y * 64 + x] :=
    Vector.getElem?_eq_getElem inside
  refine ⟨_, found, ?_⟩
  rw [isOn, screen.pixel?_eq column row, screenWidth, found]
  exact bne_iff_ne

/-- The line of a row of pixels in reading order is the line of its places. -/
theorem line_of_row
    (row : y < 32) :
    ((screen.pixels.toList.drop (y * 64)).take 64).map
        (fun pixel => if pixel = 0 then ' ' else '█') =
      (List.range 64).map fun x => Terminal.pixelChar (screen.isOn x y) := by
  apply List.ext_getElem?
  intro x
  rcases Nat.lt_or_ge x 64 with column | behind
  · obtain ⟨value, found, isOn⟩ := screen.pixel_of_place column row
    rw [List.getElem?_map, List.getElem?_take_of_lt column, List.getElem?_drop,
      Vector.getElem?_toList, found, List.getElem?_map, List.getElem?_range column]
    by_cases zero : value = 0 <;> simp [Terminal.pixelChar, isOn, zero]
  · have none : (List.range 64)[x]? = none := List.getElem?_eq_none (by simpa using behind)
    rw [List.getElem?_map, List.getElem?_take_eq_none behind, List.getElem?_map, none]
    rfl

/-- The lines of the picture are the lines of the places. -/
theorem textLines_toFrame :
    screen.toFrame.textLines =
      (List.range 32).map fun y =>
        String.ofList ((List.range 64).map fun x => Terminal.pixelChar (screen.isOn x y)) := by
  rw [Frame.textLines, toFrame_rows, List.map_map]
  apply List.map_congr_left
  intro y member
  exact congrArg String.ofList (screen.line_of_row (List.mem_range.mp member))

/-- The text of a screen is the lines of its picture, each with its end. -/
theorem render_eq_join :
    Terminal.render screen = String.join (screen.toFrame.textLines.map (· ++ "\n")) := by
  apply String.toList_inj.mp
  rw [textLines_toFrame, Terminal.render, String.toList_ofList, String.toList_join, List.map_map,
    List.flatMap_map]
  apply congrArg fun line => (List.range 32).flatMap line
  funext y
  simp [Terminal.rowText, screenWidth]

/-- The picture of a screen has a line for each row. -/
theorem length_textLines :
    screen.toFrame.textLines.length = 32 := by
  rw [textLines_toFrame, List.length_map, List.length_range]

/-- A line of the picture has a character for each column, and none of them ends the line. -/
theorem of_mem_textLines
    {line : String}
    (member : line ∈ screen.toFrame.textLines) :
    line.toList.length = 64 ∧ OneLine line := by
  rw [textLines_toFrame] at member
  obtain ⟨y, -, rfl⟩ := List.mem_map.mp member
  rw [String.toList_ofList, List.length_map, List.length_range]
  refine ⟨rfl, ?_⟩
  intro lineEnd
  rw [String.toList_ofList] at lineEnd
  obtain ⟨x, -, same⟩ := List.mem_map.mp lineEnd
  cases isOn : screen.isOn x y <;> simp [Terminal.pixelChar, isOn] at same

/-- The character of a place in the lines of the picture. -/
theorem character_of_place
    (column : x < 64)
    (row : y < 32) :
    (screen.toFrame.textLines[y]?.bind fun line => line.toList[x]?) =
      some (Terminal.pixelChar (screen.isOn x y)) := by
  rw [textLines_toFrame, List.getElem?_map, List.getElem?_range row]
  simp [column]

/-- Dark and lit places have different characters. -/
theorem pixelChar_injective
    {first second : Bool}
    (same : Terminal.pixelChar first = Terminal.pixelChar second) :
    first = second := by
  revert first second
  decide

variable {first second : Screen}

/-- Screens have the same text exactly when the same places are on. -/
theorem render_eq_iff_isOn_eq :
    Terminal.render first = Terminal.render second ↔
      ∀ x y, x < 64 → y < 32 → first.isOn x y = second.isOn x y := by
  constructor
  · intro same x y column row
    have linesOf
        (screen : Screen) :
        Journal.linesOf (Terminal.render screen) = screen.toFrame.textLines := by
      rw [render_eq_join]
      exact Journal.linesOf_join fun line member => (screen.of_mem_textLines member).2
    have lines : first.toFrame.textLines = second.toFrame.textLines := by
      rw [← linesOf, ← linesOf, same]
    have characters := first.character_of_place column row
    rw [lines, second.character_of_place column row] at characters
    exact (pixelChar_injective (Option.some.inj characters)).symm
  · intro same
    have lines : first.toFrame.textLines = second.toFrame.textLines := by
      rw [textLines_toFrame, textLines_toFrame]
      apply List.map_congr_left
      intro y row
      apply congrArg String.ofList
      apply List.map_congr_left
      intro x column
      rw [same x y (List.mem_range.mp column) (List.mem_range.mp row)]
    rw [render_eq_join, render_eq_join, lines]

/-- A pixel, by its number, is not zero exactly when its place is on. -/
theorem isOn_place_iff
    (screen : Screen)
    {pixel : Nat}
    (inside : pixel < 2048) :
    screen.isOn (pixel % 64) (pixel / 64) = true ↔ screen.pixels[pixel] ≠ 0 := by
  have column : pixel % 64 < 64 := Nat.mod_lt pixel (by decide)
  have row : pixel / 64 < 32 := Nat.div_lt_of_lt_mul inside
  obtain ⟨value, found, isOn⟩ := screen.pixel_of_place column row
  rw [Nat.div_add_mod'] at found
  have same : some screen.pixels[pixel] = some value :=
    (Vector.getElem?_eq_getElem inside).symm.trans found
  rw [isOn, Option.some.inj same]

/-- The same places are on exactly when the same pixels are not zero. -/
theorem isOn_eq_iff_pixels :
    (∀ x y, x < 64 → y < 32 → first.isOn x y = second.isOn x y) ↔
      ∀ (pixel : Nat) (inside : pixel < 2048),
        first.pixels[pixel] ≠ 0 ↔ second.pixels[pixel] ≠ 0 := by
  constructor
  · intro same pixel inside
    have column : pixel % 64 < 64 := Nat.mod_lt pixel (by decide)
    have row : pixel / 64 < 32 := Nat.div_lt_of_lt_mul inside
    rw [← first.isOn_place_iff inside, ← second.isOn_place_iff inside, same _ _ column row]
  · intro same x y column row
    have inside : y * 64 + x < 2048 := by
      omega
    have alike := same (y * 64 + x) inside
    rw [← first.isOn_place_iff inside, ← second.isOn_place_iff inside] at alike
    have sameColumn : (y * 64 + x) % 64 = x := by
      omega
    have sameRow : (y * 64 + x) / 64 = y := by
      omega
    rw [sameColumn, sameRow] at alike
    exact Bool.eq_iff_iff.mpr alike

/-- Screens of dark and lit pixels with the same pixels not zero are the same screen. -/
theorem eq_of_monochrome
    (firstMonochrome : first.Monochrome)
    (secondMonochrome : second.Monochrome)
    (same :
      ∀ (pixel : Nat) (inside : pixel < 2048),
        first.pixels[pixel] ≠ 0 ↔ second.pixels[pixel] ≠ 0) :
    first = second := by
  apply congrArg Screen.mk
  apply Vector.ext
  intro pixel inside
  have alike := same pixel inside
  rcases firstMonochrome pixel inside with firstDark | firstLit <;>
    rcases secondMonochrome pixel inside with secondDark | secondLit
  · exact firstDark.trans secondDark.symm
  · simp [firstDark, secondLit] at alike
  · simp [firstLit, secondDark] at alike
  · exact firstLit.trans secondLit.symm

/--
The views of a screen agree.  Its text is the lines of its picture, each with
its end, 32 of them with 64 characters each.  A character is a block exactly
when its place is on, which is when the pixel of that place is not zero.  Two
screens have the same text exactly when the same pixels are not zero, and
screens of dark and lit pixels only when they are equal.
-/
theorem render_shows_picture
    (screen : Screen) :
    (Terminal.render screen = String.join (screen.toFrame.textLines.map (· ++ "\n")) ∧
      screen.toFrame.textLines.length = 32 ∧
      ∀ line ∈ screen.toFrame.textLines, line.toList.length = 64 ∧ '\n' ∉ line.toList) ∧
    (∀ x y,
      x < 64 → y < 32 →
        (screen.toFrame.textLines[y]?.bind fun line => line.toList[x]?) =
            some (if screen.isOn x y then '█' else ' ') ∧
          ∃ value,
            screen.pixels[y * 64 + x]? = some value ∧ (screen.isOn x y = true ↔ value ≠ 0)) ∧
    (∀ other : Screen,
      (Terminal.render screen = Terminal.render other ↔
        ∀ (pixel : Nat) (inside : pixel < 2048),
          screen.pixels[pixel] ≠ 0 ↔ other.pixels[pixel] ≠ 0) ∧
      (screen.Monochrome → other.Monochrome →
        (Terminal.render screen = Terminal.render other ↔ screen = other))) := by
  refine ⟨⟨screen.render_eq_join, screen.length_textLines, ?_⟩, ?_, ?_⟩
  · intro line member
    exact screen.of_mem_textLines member
  · intro x y column row
    exact ⟨screen.character_of_place column row, screen.pixel_of_place column row⟩
  · intro other
    have sameText := (@render_eq_iff_isOn_eq screen other).trans isOn_eq_iff_pixels
    refine ⟨sameText, ?_⟩
    intro monochrome otherMonochrome
    constructor
    · intro same
      exact eq_of_monochrome monochrome otherMonochrome (sameText.mp same)
    · intro same
      rw [same]

/-- A dark screen but for its first pixel. -/
def cornered (value : UInt32) : Screen :=
  blank.set 0 value

/-- All pixels are dark but for the first. -/
theorem cornered_pixel
    (value : UInt32)
    {pixel : Nat}
    (inside : pixel < 2048) :
    (cornered value).pixels[pixel] = if 0 = pixel then value else 0 := by
  simp [cornered, set, blank, dark, Vector.getElem_setIfInBounds]

/-- Screens that differ in their first pixel are different. -/
theorem cornered_injective
    {first second : UInt32}
    (same : cornered first = cornered second) :
    first = second := by
  have inside : 0 < 2048 := by decide
  have pixel := cornered_pixel first inside
  rw [same, cornered_pixel second inside] at pixel
  exact pixel.symm

/-- A screen is of dark and lit pixels when its first one is dark or lit. -/
theorem cornered_monochrome
    {value : UInt32}
    (either : value = 0 ∨ value = 0xFFFFFFFF) :
    (cornered value).Monochrome := by
  intro pixel inside
  rw [cornered_pixel value inside]
  split
  · exact either
  · exact .inl rfl

/-- A lit corner shows as a block and so does a faint one, though the screens differ. -/
theorem litCorner_shown :
    (cornered 0xFFFFFFFF).Monochrome ∧ (cornered 0).Monochrome ∧
      Terminal.render (cornered 0xFFFFFFFF) ≠ Terminal.render (cornered 0) ∧
      ((cornered 0xFFFFFFFF).toFrame.textLines[0]?.bind fun line => line.toList[0]?) = some '█' ∧
      ((cornered 0xFFFFFFFF).toFrame.textLines[31]?.bind fun line => line.toList[63]?) =
        some ' ' ∧
      cornered 0xFFFFFFFF ≠ cornered 1 ∧
      Terminal.render (cornered 0xFFFFFFFF) = Terminal.render (cornered 1) := by
  have isLit : (cornered 0xFFFFFFFF).Monochrome := cornered_monochrome (.inr rfl)
  have isDark : (cornered 0).Monochrome := cornered_monochrome (.inl rfl)
  obtain ⟨-, places, others⟩ := render_shows_picture (cornered 0xFFFFFFFF)
  refine ⟨isLit, isDark, ?_, ?_, ?_, ?_, ?_⟩
  · intro same
    have screens := ((others (cornered 0)).2 isLit isDark).mp same
    exact absurd (cornered_injective screens) (by decide)
  · rw [(places 0 0 (by decide) (by decide)).1]
    decide +kernel
  · rw [(places 63 31 (by decide) (by decide)).1]
    decide +kernel
  · intro same
    exact absurd (cornered_injective same) (by decide)
  · apply (others (cornered 1)).1.mpr
    intro pixel inside
    rw [cornered_pixel 0xFFFFFFFF inside, cornered_pixel 1 inside]
    split <;> simp

end Screen

end Chip8
