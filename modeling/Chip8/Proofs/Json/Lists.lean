import Chip8.Proofs.Json.Skipping

namespace Chip8.Json

/-!
# Written lists read back

A list is read back from what is written for its items, however many there are,
when each item is read back from what is written for it.
-/

variable {α : Type} {reader : Reader α} {write : α → Written}

/-- A value starts with its first token. -/
theorem skipBlanks_of_isValue
    {text : List Char}
    (isValue : IsValue text) :
    skipBlanks text = text := by
  cases isValue with
  | word listed => exact skipBlanks_of_scalar (skipScalar_word_self listed)
  | number isNumber => exact skipBlanks_of_scalar isNumber.skipped_self
  | string => exact skipBlanks_cons_of_token rfl _
  | empty bracket => exact skipBlanks_opening bracket _
  | @filled bracket => exact skipBlanks_opening bracket _

/-- An item of a list is found, with or without a comma before it. -/
theorem nextItem_item
    {item : List Char}
    (isValue : IsValue item)
    (first : Bool)
    (rest : List Char) :
    nextItem first ((if first then [] else [',']) ++ (item ++ rest)) =
      .ok (.more (item ++ rest)) := by
  obtain ⟨c, tail, start, starts⟩ := isValue.starts
  rw [skipBlanks_of_isValue isValue] at start
  subst start
  have token : skipBlanks (c :: (tail ++ rest)) = c :: (tail ++ rest) :=
    skipBlanks_cons_of_token starts.1 _
  have noEnd : c ≠ ']' :=
    starts.2 .list
  cases first with
  | true =>
      simp [nextItem, token, noEnd]
  | false =>
      have comma : skipBlanks (',' :: c :: (tail ++ rest)) = ',' :: c :: (tail ++ rest) :=
        skipBlanks_cons_of_token rfl _
      simp [nextItem, comma, token, noEnd]

/-- Where the bracket follows, the list is closed. -/
theorem nextItem_closed
    (first : Bool)
    (rest : List Char) :
    nextItem first (']' :: rest) = .ok (.closed rest) := by
  rw [nextItem, skipBlanks_cons_of_token rfl]
  rfl

/-- Items are read one by one until the list is closed. -/
theorem readItemsFrom_eq
    (reader : Reader α)
    (first : Bool)
    (taken : List α)
    (text : List Char) :
    readItemsFrom reader first taken text =
      match nextItem first text with
      | .error problem => .error problem
      | .ok (.closed rest) => .ok (taken.reverse, rest)
      | .ok (.more item) =>
          (reader.run item).bind fun (value, rest) =>
            readItemsFrom reader false (value :: taken) rest := by
  rw [readItemsFrom]
  split
  next failed =>
    rw [failed]
  next closed =>
    rw [closed]
  next more =>
    rw [more]
    dsimp only
    split
    next failed =>
      rw [failed]
      rfl
    next read =>
      rw [read]
      rfl

/-- The items that are still to come are read behind those that were taken. -/
theorem readItemsFrom_written
    (areValues : ∀ value, IsValue (write value))
    (reads : ∀ value, reader.ReadsBack (write value) value)
    (values taken : List α)
    (first : Bool)
    (rest : List Char) :
    readItemsFrom reader first taken (separated (']' :: rest) first (values.map write)) =
      .ok (taken.reverse ++ values, rest) := by
  induction values generalizing first taken with
  | nil =>
      rw [readItemsFrom_eq, List.map_nil, separated, nextItem_closed, List.append_nil]
  | cons value values inductionHypothesis =>
      have ends : EndsValue (separated (']' :: rest) false (values.map write)) :=
        (endsValue_closing .list rest).separated _
      have item := reads value [] _ (List.forall_mem_nil _) ends
      rw [readItemsFrom_eq, List.map_cons, separated, nextItem_item (areValues value)]
      dsimp only
      rw [List.nil_append] at item
      calc
        _ = readItemsFrom reader false (value :: taken)
              (separated (']' :: rest) false (values.map write)) := by
          rw [item]
          rfl
        _ = .ok ((value :: taken).reverse ++ values, rest) :=
          inductionHypothesis (value :: taken) false
        _ = .ok (taken.reverse ++ value :: values, rest) := by
          simp

/-- A list is read back from its items between brackets. -/
theorem Reader.list_readsBack
    (areValues : ∀ value, IsValue (write value))
    (reads : ∀ value, reader.ReadsBack (write value) value)
    (values : List α) :
    reader.list.ReadsBack (compactList (values.map write)) values := by
  intro blanks rest areBlank _
  have start :
      skipBlanks (blanks ++ (compactList (values.map write) ++ rest)) =
        '[' :: separated (']' :: rest) true (values.map write) := by
    have shape :
        compactList (values.map write) ++ rest =
          '[' :: (List.intercalate [','] (values.map write) ++ ']' :: rest) := by
      simp [compactList]
    rw [shape, skipBlanks_append areBlank rfl, intercalate_append]
  have items := readItemsFrom_written areValues reads values [] true rest
  simp only [Reader.list, readList, start, if_true, items]
  rfl

end Chip8.Json
