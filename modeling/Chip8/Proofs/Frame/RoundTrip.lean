import Chip8.Frame.Json
import Chip8.Proofs.Json.Lists
import Chip8.Proofs.Json.Members

namespace Chip8.Frame

/-!
# Frames read back

Every frame is read back from its own text, also one whose pixels do not fit its
size.  The rows of a frame hold its pixels in order, and only the last row may
be short.
-/

open Json

/-! ## Texts -/

/-- The members of a frame give its fields one after the other. -/
theorem members_fill
    (frame : Frame) :
    Fills fields Given.nothing
      [ ("width", Json.natural frame.width.toNat)
      , ("height", Json.natural frame.height.toNat)
      , ("pixels", compactList (frame.pixels.map fun pixel => Json.natural pixel.toNat)) ]
      ⟨some frame.width, some frame.height, some frame.pixels⟩ := by
  have pixels :
      Reader.word.list.ReadsBack
        (compactList (frame.pixels.map fun pixel => Json.natural pixel.toNat)) frame.pixels :=
    Reader.list_readsBack (fun _ => .number (natural_isNumber _)) Reader.word_readsBack frame.pixels
  refine .member (by decide) rfl rfl ((Reader.word_readsBack _).map _) ?_
  refine .member (by decide) rfl rfl ((Reader.word_readsBack _).map _) ?_
  refine .member (by decide) rfl rfl (pixels.map _) ?_
  exact .done _

/-- A picture is read back from its text. -/
theorem parse_text
    (frame : Frame) :
    parse frame.text = .ok frame :=
  parse_compactObject frame.members_fill rfl

/-- Different pictures have different texts. -/
theorem text_injective
    {frame other : Frame}
    (same : frame.text = other.text) :
    frame = other := by
  have read := frame.parse_text
  rw [same, other.parse_text] at read
  exact (Except.ok.inj read).symm

/-! ## Rows -/

section Pieces

variable {α : Type} {size : Nat} (positive : 0 < size) (elements : List α)

/-- Pieces that are put together again are the whole. -/
theorem flatten_pieces :
    (pieces size positive elements).flatten = elements := by
  fun_induction pieces size positive elements with
  | case1 => rfl
  | case2 first rest inductionHypothesis =>
      rw [List.flatten_cons, inductionHypothesis, List.take_append_drop]

/-- No piece is empty. -/
theorem ne_nil_of_mem_pieces
    {piece : List α}
    (member : piece ∈ pieces size positive elements) :
    piece ≠ [] := by
  fun_induction pieces size positive elements with
  | case1 => cases member
  | case2 first rest inductionHypothesis =>
      obtain rfl | later := List.mem_cons.mp member
      · obtain ⟨more, rfl⟩ := Nat.exists_eq_succ_of_ne_zero positive.ne'
        exact List.cons_ne_nil _ _
      · exact inductionHypothesis later

/-- A piece that has another one behind it is full. -/
theorem length_of_mem_dropLast_pieces
    {piece : List α}
    (member : piece ∈ (pieces size positive elements).dropLast) :
    piece.length = size := by
  fun_induction pieces size positive elements with
  | case1 => cases member
  | case2 first rest inductionHypothesis =>
      cases behind : pieces size positive ((first :: rest).drop size) with
      | nil =>
          rw [behind] at member
          cases member
      | cons second others =>
          rw [behind] at member inductionHypothesis
          obtain rfl | later := List.mem_cons.mp member
          -- Something is left behind the first piece, so the first piece is full.
          · have longer : size < (first :: rest).length := by
              by_contra short
              rw [List.drop_eq_nil_of_le (Nat.le_of_not_lt short), pieces] at behind
              cases behind
            exact List.length_take_of_le longer.le
          · exact inductionHypothesis later

end Pieces

/-- Frames are read back from their texts, and their rows hold their pixels in order. -/
theorem frame_text_and_rows
    (frame : Frame) :
    parse frame.text = .ok frame ∧
      (∀ other : Frame, frame.text = other.text ↔ frame = other) ∧
      frame.rows.flatten = frame.pixels ∧
      (∀ row ∈ frame.rows, row ≠ []) ∧
      ∀ row ∈ frame.rows.dropLast, row.length = max frame.width.toNat 1 := by
  have positive : 0 < max frame.width.toNat 1 :=
    Nat.lt_of_lt_of_le Nat.one_pos (Nat.le_max_right _ _)
  refine ⟨frame.parse_text, ?_, flatten_pieces positive frame.pixels, ?_, ?_⟩
  · intro other
    exact ⟨text_injective, congrArg text⟩
  · intro row member
    exact ne_nil_of_mem_pieces positive frame.pixels member
  · intro row member
    exact length_of_mem_dropLast_pieces positive frame.pixels member

/-- Three pixels in a frame of no width and seven rows make three rows of one pixel. -/
theorem narrow_text_and_rows :
    let frame : Frame := ⟨0, 7, [4294967295, 0, 5]⟩
    frame.text = "\x7b\"width\":0,\"height\":7,\"pixels\":[4294967295,0,5]\x7d" ∧
      parse frame.text = .ok frame ∧
      [0] ∈ frame.rows.dropLast ∧ [0].length = max frame.width.toNat 1 := by
  intro frame
  have second : [0] ∈ frame.rows.dropLast := by
    simp [frame, rows, pieces]
  obtain ⟨read, _, _, _, full⟩ := frame_text_and_rows frame
  exact ⟨by decide +kernel, read, second, full [0] second⟩

end Chip8.Frame
