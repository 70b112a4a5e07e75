import Chip8.Proofs.Memory.Blocks

namespace Chip8.Memory

/-!
# Blocks byte by byte

A block is its bytes, one after another: an access to a block ends as the
accesses to its bytes end, at the first one that fails.  The two differ in what
a failed writing leaves behind.  Writing byte by byte leaves the bytes before
the failing one; writing the block leaves none.
-/

/-- Write bytes one by one as far as they go: how it ended, and the memory left behind. -/
def writeEach
    (memory : Memory)
    (address : Nat) :
    List UInt8 → Except Stop Unit × Memory
  | [] => (.ok (), memory)
  | byte :: rest =>
      match memory.write address byte with
      | .ok after => after.writeEach (address + 1) rest
      | .error stop => (.error stop, memory)

/-- An attempt to change memory as its holder sees it: one that fails leaves what there was. -/
def settled
    (memory : Memory) :
    Except Stop Memory → Except Stop Unit × Memory
  | .ok after => (.ok (), after)
  | .error stop => (.error stop, memory)

/-- A block is written as its bytes are, one after another, but whole or not at all. -/
structure WritesWhole
    (memory : Memory)
    (address : Nat)
    (data : List UInt8) : Prop where
  result :
    (memory.settled (memory.writeSlice address data)).1 = (memory.writeEach address data).1
  written :
    (memory.writeEach address data).1 = .ok () →
      (memory.settled (memory.writeSlice address data)).2 = (memory.writeEach address data).2
  unwritten :
    ∀ stop,
      (memory.writeEach address data).1 = .error stop →
        (memory.settled (memory.writeSlice address data)).2 = memory
  /-- A block can be written exactly where it can be read, and fails alike where it cannot. -/
  asRead :
    (memory.slice address data.length).map (fun _ => ()) = (memory.writeEach address data).1

variable {memory : Memory} {address length : Nat}

/-- A block that starts inside memory stops as the block behind its first byte does. -/
theorem blockStop?_succ
    (below : address < memorySize) :
    blockStop? address (length + 1) = blockStop? (address + 1) length := by
  have shifted : address + (length + 1) = address + 1 + length := by
    rw [Nat.add_assoc, Nat.add_comm 1]
  cases length with
  | zero =>
      have first : blockStop? address 1 = none := blockStop?_eq_none_iff.mpr below
      have second : blockStop? (address + 1) 0 = none := blockStop?_eq_none_iff.mpr below
      exact first.trans second.symm
  | succ length =>
      have first : max address memorySize = memorySize := Nat.max_eq_right (Nat.le_of_lt below)
      have second : max (address + 1) memorySize = memorySize := Nat.max_eq_right below
      simp only [blockStop?, Nat.add_one_ne_zero, if_false, first, second, shifted]

/-- A block that starts behind the end and has a byte stops at its first address. -/
theorem blockStop?_of_above
    (above : memorySize ≤ address) :
    blockStop? address (length + 1) = some (.fault (.memoryOutOfRange address)) := by
  apply blockStop?_eq_fault_iff.mpr
  refine ⟨Nat.le_add_left 1 length, ?_, ?_⟩
  · exact Nat.lt_of_le_of_lt above (Nat.lt_add_of_pos_right (Nat.succ_pos length))
  · rw [Nat.max_eq_left above]

/-- Below the end of the memory a byte is read. -/
theorem read_of_below
    (memory : Memory)
    (below : address < memorySize) :
    memory.read address = .ok memory.bytes[address] :=
  read_eq_ok_iff.mpr (Vector.getElem?_eq_getElem below)

/-- From the end of the memory on, reading a byte faults at its address. -/
theorem read_of_above
    (memory : Memory)
    (above : memorySize ≤ address) :
    memory.read address = .error (.fault (.memoryOutOfRange address)) := by
  have missing : memory.bytes[address]? = none := Vector.getElem?_eq_none above
  simp only [read, missing]

/-- The bytes of a block as a part of all bytes. -/
theorem slice_of_inside
    (memory : Memory)
    (inside : address + length ≤ memorySize) :
    memory.slice address length = .ok ((memory.bytes.toList.drop address).take length) := by
  apply slice_eq_ok_iff.mpr
  refine ⟨inside, ?_⟩
  rw [Array.toList_extract, List.extract_eq_take_drop, Nat.add_sub_cancel_left]
  rfl

/-- A block that starts inside memory is its first byte and the block behind it. -/
theorem slice_succ
    (memory : Memory)
    (below : address < memorySize) :
    memory.slice address (length + 1) =
      (memory.slice (address + 1) length).map (memory.bytes[address] :: ·) := by
  cases stops : blockStop? (address + 1) length with
  | some stop =>
      rw [slice_eq, slice_eq, blockStop?_succ below, stops]
      rfl
  | none =>
      have rest : address + 1 + length ≤ memorySize := blockStop?_eq_none_iff.mp stops
      have whole : address + (length + 1) ≤ memorySize :=
        blockStop?_eq_none_iff.mp ((blockStop?_succ below).trans stops)
      have within : address < memory.bytes.toList.length := by
        rw [Vector.length_toList]
        exact below
      rw [memory.slice_of_inside whole, memory.slice_of_inside rest,
        List.drop_eq_getElem_cons within, List.take_succ_cons]
      rfl

/-- A block is read as its bytes are, one after another. -/
theorem slice_eq_mapM_read
    (memory : Memory)
    (reachable : 1 ≤ length ∨ address ≤ memorySize) :
    memory.slice address length = (List.range' address length).mapM memory.read := by
  induction length generalizing address with
  | zero =>
      have below : address ≤ memorySize := reachable.resolve_left (Nat.not_succ_le_zero 0)
      exact memory.slice_of_inside below
  | succ length inductionHypothesis =>
      rw [List.range'_succ, List.mapM_cons]
      rcases Nat.lt_or_ge address memorySize with below | above
      · rw [slice_succ memory below, memory.read_of_below below,
          inductionHypothesis (.inr below)]
        cases (List.range' (address + 1) length).mapM memory.read <;> rfl
      · rw [slice_eq, blockStop?_of_above above, memory.read_of_above above]
        rfl

/-- The memory with one byte replaced. -/
theorem write_of_below
    (memory : Memory)
    (byte : UInt8)
    (below : address < memorySize) :
    memory.write address byte = .ok (memory.fill address [byte]) := by
  have replaced : memory.bytes.set address byte below = memory.bytes.setIfInBounds address byte :=
    Vector.ext fun position inside => by simp [Vector.getElem_set, Vector.getElem_setIfInBounds]
  rw [write, dif_pos below, replaced]
  rfl

/-- Writing a block that starts inside memory is writing its first byte and then the others. -/
theorem writeSlice_cons
    (memory : Memory)
    (byte : UInt8)
    (rest : List UInt8)
    (below : address < memorySize) :
    memory.writeSlice address (byte :: rest) =
      (memory.fill address [byte]).writeSlice (address + 1) rest := by
  rw [writeSlice_eq, writeSlice_eq, List.length_cons, blockStop?_succ below]
  rfl

/-- A block is written exactly where it can be read, and fails alike where it cannot. -/
theorem writeSlice_ends
    (memory : Memory)
    (address : Nat)
    (data : List UInt8) :
    (memory.writeSlice address data).map (fun _ => ()) =
      (memory.slice address data.length).map fun _ => () := by
  rw [writeSlice_eq, slice_eq]
  cases blockStop? address data.length <;> rfl

/-- Writing byte by byte ends as writing the block does, and then with the same memory. -/
theorem writeEach_of_reachable
    (memory : Memory)
    {data : List UInt8}
    (reachable : 1 ≤ data.length ∨ address ≤ memorySize) :
    (memory.writeEach address data).1 = (memory.writeSlice address data).map (fun _ => ()) ∧
      ∀ after,
        memory.writeSlice address data = .ok after → (memory.writeEach address data).2 = after := by
  induction data generalizing memory address with
  | nil =>
      have below : address ≤ memorySize := reachable.resolve_left (Nat.not_succ_le_zero 0)
      have same : memory.writeSlice address [] = .ok memory := by
        rw [writeSlice_eq, blockStop?_eq_none_iff.mpr below]
        rfl
      rw [same]
      refine ⟨rfl, ?_⟩
      rintro after ⟨⟩
      rfl
  | cons byte rest inductionHypothesis =>
      rcases Nat.lt_or_ge address memorySize with below | above
      -- Behind a byte inside memory even an empty rest can be reached.
      · rw [writeEach, memory.write_of_below byte below, memory.writeSlice_cons byte rest below]
        exact inductionHypothesis (memory.fill address [byte]) (.inr below)
      · have stops :
            memory.writeSlice address (byte :: rest) =
              .error (.fault (.memoryOutOfRange address)) := by
          rw [writeSlice_eq, List.length_cons, blockStop?_of_above above]
        have refused : memory.write address byte = .error (.fault (.memoryOutOfRange address)) :=
          dif_neg (Nat.not_lt.mpr above)
        rw [writeEach, refused, stops]
        refine ⟨rfl, ?_⟩
        rintro after ⟨⟩

/-- A block that is not empty or does not start above the end is written whole or not at all. -/
theorem writesWhole
    (memory : Memory)
    {data : List UInt8}
    (reachable : 1 ≤ data.length ∨ address ≤ memorySize) :
    memory.WritesWhole address data := by
  obtain ⟨result, left⟩ := memory.writeEach_of_reachable reachable
  have asRead := (memory.writeSlice_ends address data).symm.trans result.symm
  cases ends : memory.writeSlice address data with
  | ok after =>
      rw [ends] at result
      refine ⟨?_, ?_, ?_, asRead⟩
      · rw [ends, result]
        rfl
      · intro _
        rw [ends, left after ends]
        rfl
      · intro stop stopped
        rw [result] at stopped
        cases stopped
  | error stop =>
      rw [ends] at result
      refine ⟨?_, ?_, ?_, asRead⟩
      · rw [ends, result]
        rfl
      · intro completed
        rw [result] at completed
        cases completed
      · intro _ _
        rw [ends]
        rfl

/-- A word is read as its two bytes are, the first one counting 256 times. -/
theorem readWord_bytewise
    (memory : Memory)
    (address : Nat) :
    (memory.readWord address).map UInt16.toNat = do
      let high ← memory.read address
      let low ← memory.read (address + 1)
      return 256 * high.toNat + low.toNat := by
  rcases Nat.lt_or_ge (address + 1) memorySize with inside | outside
  · obtain ⟨high, low, readsHigh, readsLow, readsWord⟩ := memory.readWord_of_inside inside
    rw [readsHigh, readsLow, readsWord, Except.map, wordOfBytes_toNat]
    rfl
  · rw [memory.readWord_of_outside outside]
    rcases Nat.lt_or_ge address memorySize with below | above
    · have last : address + 1 = memorySize := Nat.le_antisymm below outside
      rw [memory.read_of_below below, memory.read_of_above outside,
        Nat.max_eq_right (Nat.le_of_lt below), last]
      rfl
    · rw [memory.read_of_above above, Nat.max_eq_left above]
      rfl

/-- A block that was filled inside memory is read back. -/
theorem slice_fill
    (memory : Memory)
    {data : List UInt8}
    (inside : address + data.length ≤ memorySize) :
    (memory.fill address data).slice address data.length = .ok data := by
  have read := (memory.fill address data).slice_of_inside inside
  have bytes : ((memory.fill address data).bytes.toList.drop address).take data.length = data := by
    apply List.ext_getElem?
    intro position
    rcases Nat.lt_or_ge position data.length with within | behind
    · have covered :
          address ≤ address + position ∧ address + position < address + data.length ∧
            address + position < memorySize :=
        ⟨Nat.le_add_right _ _, Nat.add_lt_add_left within _,
          Nat.lt_of_lt_of_le (Nat.add_lt_add_left within _) inside⟩
      rw [List.getElem?_take_of_lt within, List.getElem?_drop, Vector.getElem?_toList,
        fill_getElem?, if_pos covered, Nat.add_sub_cancel_left]
    · rw [List.getElem?_take_eq_none behind, List.getElem?_eq_none behind]
  rw [read, bytes]

/-- A block that was written is read back, and the bytes outside it are as they were. -/
theorem readBack_of_writeSlice
    {after : Memory}
    {data : List UInt8}
    (writes : memory.writeSlice address data = .ok after) :
    after.slice address data.length = .ok data ∧
      ∀ position,
        ¬(address ≤ position ∧ position < address + data.length) →
          after.read position = memory.read position := by
  rw [writeSlice_eq] at writes
  cases stops : blockStop? address data.length with
  | some stop =>
      rw [stops] at writes
      cases writes
  | none =>
      rw [stops] at writes
      cases writes
      refine ⟨memory.slice_fill (blockStop?_eq_none_iff.mp stops), ?_⟩
      intro position outside
      simp only [read, memory.fill_getElem?_of_outside outside]

/-- The sum of two 64-bit numbers, or the greatest such number where the sum is greater. -/
def cappedSum (first second : UInt64) : UInt64 :=
  UInt64.ofNat (min (first.toNat + second.toNat) 0xFFFFFFFFFFFFFFFF)

/-- The first address of a block outside memory, found in 64-bit numbers from its last address. -/
def firstOutsideByLast?
    (address length : UInt64) :
    Option UInt64 :=
  if length = 0 then
    none
  else if 4096 ≤ address then
    some address
  else if 4096 ≤ cappedSum address (length - 1) then
    some 4096
  else
    none

/-- A sum of addresses ends at the largest address. -/
theorem cappedSum_toNat
    (first second : UInt64) :
    (cappedSum first second).toNat = min (first.toNat + second.toNat) 0xFFFFFFFFFFFFFFFF := by
  apply UInt64.toNat_ofNat_of_lt'
  exact Nat.lt_of_le_of_lt (Nat.min_le_right _ _) (by decide)

/-- Sums that are held at the greatest 64-bit number decide a range as sums without bound do. -/
theorem firstOutsideByLast?_toNat
    (address length : UInt64) :
    (firstOutsideByLast? address length).map UInt64.toNat =
      firstOutside? address.toNat length.toNat := by
  by_cases empty : length = 0
  · rw [empty]
    rfl
  · have occupied : 1 ≤ length.toNat :=
      Nat.one_le_iff_ne_zero.mpr fun zero => empty (UInt64.toNat_inj.mp zero)
    have last :
        (cappedSum address (length - 1)).toNat =
          min (address.toNat + (length.toNat - 1)) 0xFFFFFFFFFFFFFFFF := by
      rw [cappedSum_toNat, UInt64.toNat_sub_of_le length 1 occupied]
      rfl
    -- The cap lies far above the end of memory, so it hides no last address that is outside.
    have passes_iff :
        4096 ≤ min (address.toNat + (length.toNat - 1)) 0xFFFFFFFFFFFFFFFF ↔
          ¬address.toNat + length.toNat ≤ 4096 := by
      omega
    have notZero : ¬length.toNat = 0 := Nat.one_le_iff_ne_zero.mp occupied
    simp only [firstOutsideByLast?, firstOutside?, empty, notZero, if_false, false_or,
      UInt64.le_iff_toNat_le, last, memorySize]
    rcases Nat.lt_or_ge address.toNat 4096 with below | above
    · rw [if_neg (show ¬(4096 : UInt64).toNat ≤ address.toNat from Nat.not_le.mpr below),
        Nat.max_eq_right (Nat.le_of_lt below)]
      split
      next passes =>
        rw [if_neg (passes_iff.mp passes)]
        rfl
      next stays =>
        rw [if_pos (Decidable.not_not.mp (mt passes_iff.mpr stays))]
        rfl
    · have outside : ¬address.toNat + length.toNat ≤ 4096 := by
        omega
      rw [if_pos (show (4096 : UInt64).toNat ≤ address.toNat from above), if_neg outside,
        Nat.max_eq_left above]
      rfl

/--
An access to a block is the accesses to its bytes, one after another from its
address on, unless the block is empty and starts above the end.  A block that
fails to be written leaves memory as it was.  What was written is read back and
nothing else changes.  Numbers of 64 bits, with sums held at the greatest of
them, decide in the same way where a block leaves memory.
-/
theorem blocks_are_bytewise
    (memory : Memory)
    (address : Nat) :
    (∀ length,
      1 ≤ length ∨ address ≤ 4096 →
        memory.slice address length = (List.range' address length).mapM memory.read) ∧
    (∀ data : List UInt8,
      1 ≤ data.length ∨ address ≤ 4096 → memory.WritesWhole address data) ∧
    ((memory.readWord address).map UInt16.toNat = do
      let high ← memory.read address
      let low ← memory.read (address + 1)
      return 256 * high.toNat + low.toNat) ∧
    (∀ (data : List UInt8) (after : Memory),
      memory.writeSlice address data = .ok after →
        after.slice address data.length = .ok data ∧
          ∀ position,
            ¬(address ≤ position ∧ position < address + data.length) →
              after.read position = memory.read position) ∧
    (∀ start length : UInt64,
      firstOutside? start.toNat length.toNat =
        (firstOutsideByLast? start length).map UInt64.toNat) := by
  refine ⟨?_, ?_, ?_, ?_, ?_⟩
  · intro length reachable
    exact memory.slice_eq_mapM_read reachable
  · intro data reachable
    exact memory.writesWhole reachable
  · exact memory.readWord_bytewise address
  · intro data after writes
    exact readBack_of_writeSlice writes
  · intro start length
    exact (firstOutsideByLast?_toNat start length).symm

/-- Three bytes at the last two addresses: one by one two of them are written, as a block none. -/
theorem overrunning_bytewise :
    (1 ≤ 3 ∨ 4094 ≤ 4096) ∧
      powerOn.slice 4094 3 = (List.range' 4094 3).mapM powerOn.read ∧
      powerOn.slice 4094 3 = .error (.fault (.memoryOutOfRange 4096)) ∧
      powerOn.WritesWhole 4094 [1, 2, 3] ∧
      (powerOn.writeEach 4094 [1, 2, 3]).2 = powerOn.fill 4094 [1, 2] ∧
      powerOn.settled (powerOn.writeSlice 4094 [1, 2, 3]) =
        (.error (.fault (.memoryOutOfRange 4096)), powerOn) ∧
      powerOn.writeSlice 4094 [1, 2] = .ok (powerOn.fill 4094 [1, 2]) ∧
      (powerOn.fill 4094 [1, 2]).slice 4094 2 = .ok [1, 2] := by
  have reachable : 1 ≤ 3 ∨ 4094 ≤ 4096 := .inl (by decide)
  have overruns : blockStop? 4094 3 = some (.fault (.memoryOutOfRange 4096)) := by
    decide
  have fits : powerOn.writeSlice 4094 [1, 2] = .ok (powerOn.fill 4094 [1, 2]) := by
    rw [writeSlice_eq, blockStop?_eq_none_iff.mpr (by decide)]
  have left : (powerOn.writeEach 4094 [1, 2, 3]).2 = powerOn.fill 4094 [1, 2] := by
    simp only [writeEach, write_of_below _ _ (show 4094 < memorySize by decide),
      write_of_below _ _ (show 4094 + 1 < memorySize by decide)]
    rfl
  obtain ⟨reads, writes, -, readsBack, -⟩ := blocks_are_bytewise powerOn 4094
  refine ⟨reachable, reads 3 reachable, ?_, writes [1, 2, 3] reachable, left, ?_, fits,
    (readsBack [1, 2] _ fits).1⟩
  · rw [slice_eq, overruns]
  · rw [writeSlice_eq, List.length_cons, List.length_cons, List.length_cons, List.length_nil,
      overruns]
    rfl

end Chip8.Memory
