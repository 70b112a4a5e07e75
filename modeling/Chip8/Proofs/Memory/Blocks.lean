import Chip8.Memory

namespace Chip8.Memory

/-!
# Block accesses

Every access to memory first decides whether its block lies inside.  This
module states that decision once, as the stop that an access to a block meets,
and derives from it how each of the accesses ends.
-/

deriving instance DecidableEq for Except

/--
Why an access to a block stops.  A block that needs bytes past the end is a
fault; an empty block needs none, and is a crash when it lies above the end.
-/
def blockStop?
    (address : Nat)
    (length : Nat) :
    Option Stop :=
  if length = 0 then
    if memorySize < address then
      some .crash
    else
      none
  else if memorySize < address + length then
    some (.fault (.memoryOutOfRange (max address memorySize)))
  else
    none

/-- A block stops with a fault exactly when it is not empty and passes the end. -/
theorem blockStop?_eq_fault_iff
    {address length : Nat}
    {cause : Fault} :
    blockStop? address length = some (.fault cause) ↔
      1 ≤ length ∧ memorySize < address + length ∧
        cause = .memoryOutOfRange (max address memorySize) := by
  unfold blockStop?
  split
  next empty =>
    split <;> simp [empty]
  next occupied =>
    have positive : 1 ≤ length := Nat.one_le_iff_ne_zero.mpr occupied
    split
    next outside =>
      simp [positive, outside, eq_comm]
    next inside =>
      simp [inside]

/-- A block is a crash exactly when it is empty and starts above the end. -/
theorem blockStop?_eq_crash_iff
    {address length : Nat} :
    blockStop? address length = some .crash ↔
      length = 0 ∧ memorySize < address := by
  unfold blockStop?
  split
  next empty =>
    simp [empty]
  next occupied =>
    split <;> simp [occupied]

/-- A range is refused exactly when its block stops with a fault. -/
theorem checkRange_eq
    (address length : Nat) :
    checkRange address length =
      match blockStop? address length with
      | some (.fault cause) => .error (.fault cause)
      | _ => .ok () := by
  unfold checkRange firstOutside? blockStop?
  by_cases empty : length = 0
  · by_cases above : memorySize < address <;> simp [empty, above]
  · by_cases outside : memorySize < address + length
    · simp [empty, outside, Nat.not_le.mpr outside]
    · simp [empty, outside, Nat.not_lt.mp outside]

/-- A block does not stop exactly when it ends at or before the end of memory. -/
theorem blockStop?_eq_none_iff
    {address length : Nat} :
    blockStop? address length = none ↔ address + length ≤ memorySize := by
  unfold blockStop?
  split
  next empty =>
    split <;> simp [empty] <;> omega
  next occupied =>
    split <;> simp <;> omega

/-- How a guarded block access ends: at the stop of its block or with its value. -/
private theorem guarded_eq
    {α : Type}
    (address length : Nat)
    (value : α) :
    (do
      checkRange address length
      if memorySize < address then
        .error .crash
      else
        .ok value : Except Stop α) =
      match blockStop? address length with
      | some stop => .error stop
      | none => .ok value := by
  rw [checkRange_eq]
  cases stops : blockStop? address length with
  | none =>
      have below : address ≤ memorySize :=
        Nat.le_of_add_right_le (blockStop?_eq_none_iff.mp stops)
      simp only [bind, Except.bind, Nat.not_lt.mpr below, ↓reduceIte]
  | some stop =>
      cases stop with
      | fault cause =>
          rfl
      | crash =>
          have above := (blockStop?_eq_crash_iff.mp stops).2
          simp only [bind, Except.bind, above, ↓reduceIte]

/-- Reading a block ends at the stop of the block or with its bytes. -/
theorem slice_eq
    (memory : Memory)
    (address length : Nat) :
    memory.slice address length =
      match blockStop? address length with
      | some stop => .error stop
      | none => .ok (memory.bytes.toArray.extract address (address + length)).toList :=
  guarded_eq address length _

/-- Writing a block ends at the stop of the block or with every byte written. -/
theorem writeSlice_eq
    (memory : Memory)
    (address : Nat)
    (data : List UInt8) :
    memory.writeSlice address data =
      match blockStop? address data.length with
      | some stop => .error stop
      | none => .ok (memory.fill address data) :=
  guarded_eq address data.length _

/-- A block is read exactly when it does not stop, and is then the bytes of its range. -/
theorem slice_eq_ok_iff
    {memory : Memory}
    {address length : Nat}
    {bytes : List UInt8} :
    memory.slice address length = .ok bytes ↔
      address + length ≤ memorySize ∧
        bytes = (memory.bytes.toArray.extract address (address + length)).toList := by
  rw [slice_eq, ← blockStop?_eq_none_iff]
  cases blockStop? address length <;> simp [eq_comm]

/-- A block has as many bytes as were asked for. -/
theorem length_of_slice
    {memory : Memory}
    {address length : Nat}
    {bytes : List UInt8}
    (read : memory.slice address length = .ok bytes) :
    bytes.length = length := by
  obtain ⟨inside, rfl⟩ := slice_eq_ok_iff.mp read
  simp only [Array.length_toList, Array.size_extract, Vector.size_toArray]
  omega

/-- The bytes of a block are those of memory from its address on. -/
theorem getElem?_of_slice
    {memory : Memory}
    {address length : Nat}
    {bytes : List UInt8}
    (read : memory.slice address length = .ok bytes)
    {position : Nat}
    (within : position < length) :
    bytes[position]? = memory.bytes[address + position]? := by
  obtain ⟨inside, rfl⟩ := slice_eq_ok_iff.mp read
  have bound : position < min (address + length) memorySize - address := by
    omega
  simp only [Array.getElem?_toList, Array.getElem?_extract, Vector.size_toArray, bound, ↓reduceIte,
    Vector.getElem?_toArray]

/-- A block of two bytes that lies inside memory. -/
theorem slice_two
    (memory : Memory)
    {address : Nat}
    (inside : address + 1 < memorySize) :
    memory.slice address 2 = .ok [memory.bytes[address], memory.bytes[address + 1]] := by
  have stops : blockStop? address 2 = none :=
    blockStop?_eq_none_iff.mpr inside
  have bytes :
      (memory.bytes.toArray.extract address (address + 2)).toList =
        [memory.bytes[address], memory.bytes[address + 1]] := by
    apply List.ext_getElem
    · simp only [Array.length_toList, Array.size_extract, Vector.size_toArray,
        List.length_cons, List.length_nil]
      omega
    · intro position _ within
      match position, within with
      | 0, _ => simp
      | 1, _ => simp
  rw [slice_eq, stops, bytes]

/-- A read succeeds exactly where memory has a byte. -/
theorem read_eq_ok_iff
    {memory : Memory}
    {address : Nat}
    {byte : UInt8} :
    memory.read address = .ok byte ↔ memory.bytes[address]? = some byte := by
  unfold read
  cases memory.bytes[address]? <;> simp

/-- A word below the last byte is its two bytes, the first one most significant. -/
theorem readWord_of_inside
    (memory : Memory)
    {address : Nat}
    (inside : address + 1 < memorySize) :
    ∃ high low,
      memory.read address = .ok high ∧
        memory.read (address + 1) = .ok low ∧
        memory.readWord address = .ok (wordOfBytes high low) := by
  have below : address < memorySize := Nat.lt_of_succ_lt inside
  refine ⟨memory.bytes[address], memory.bytes[address + 1], ?_, ?_, ?_⟩
  · simp [read, below]
  · simp [read, inside]
  · rw [readWord, memory.slice_two inside]
    rfl

/-- A word that reaches past the end names the first address outside. -/
theorem readWord_of_outside
    (memory : Memory)
    {address : Nat}
    (outside : memorySize ≤ address + 1) :
    memory.readWord address =
      .error (.fault (.memoryOutOfRange (max address memorySize))) := by
  have stops :
      blockStop? address 2 =
        some (.fault (.memoryOutOfRange (max address memorySize))) :=
    blockStop?_eq_fault_iff.mpr ⟨by decide, by omega, rfl⟩
  rw [readWord, slice_eq, stops]
  rfl

/-- A word is its first byte times 256 plus its second byte. -/
theorem wordOfBytes_toNat
    (high low : UInt8) :
    (wordOfBytes high low).toNat = 256 * high.toNat + low.toNat := by
  have highBound := high.toNat_lt
  have lowBound := low.toNat_lt
  have shifted : (high.toUInt16 <<< 8).toNat = high.toNat <<< 8 := by
    rw [UInt16.toNat_shiftLeft, UInt8.toNat_toUInt16]
    simp only [Nat.shiftLeft_eq]
    exact Nat.mod_eq_of_lt (by simp; omega)
  rw [wordOfBytes, UInt16.toNat_or, shifted, UInt8.toNat_toUInt16,
    ← Nat.shiftLeft_add_eq_or_of_lt lowBound, Nat.shiftLeft_eq]
  omega

/-- An access that ends with a value or with a fault about an address, never with a crash. -/
def Guarded
    {α : Type}
    (result : Except Stop α) :
    Prop :=
  (∃ value, result = .ok value) ∨
    ∃ address, result = .error (.fault (.memoryOutOfRange address))

/-- Reading a byte is guarded. -/
theorem read_guarded
    (memory : Memory)
    (address : Nat) :
    Guarded (memory.read address) := by
  unfold read
  split
  next byte found =>
    exact .inl ⟨byte, rfl⟩
  next missing =>
    exact .inr ⟨address, rfl⟩

/-- Writing a byte is guarded. -/
theorem write_guarded
    (memory : Memory)
    (address : Nat)
    (byte : UInt8) :
    Guarded (memory.write address byte) := by
  unfold write
  split
  next inside =>
    exact .inl ⟨_, rfl⟩
  next outside =>
    exact .inr ⟨address, rfl⟩

/-- Reading a word is guarded. -/
theorem readWord_guarded
    (memory : Memory)
    (address : Nat) :
    Guarded (memory.readWord address) := by
  by_cases inside : address + 1 < memorySize
  · obtain ⟨high, low, _, _, found⟩ := memory.readWord_of_inside inside
    exact .inl ⟨_, found⟩
  · exact .inr ⟨_, memory.readWord_of_outside (Nat.not_lt.mp inside)⟩

/-- What ends at the stop of a block is guarded unless the block is empty and above the end. -/
private theorem guarded_match_iff
    {α : Type}
    (address length : Nat)
    (value : α) :
    Guarded
        (match blockStop? address length with
          | some stop => .error stop
          | none => .ok value : Except Stop α) ↔
      ¬(length = 0 ∧ memorySize < address) := by
  rw [← blockStop?_eq_crash_iff]
  cases stops : blockStop? address length with
  | none =>
      simp [Guarded]
  | some stop =>
      cases stop with
      | fault cause =>
          have outside := (blockStop?_eq_fault_iff.mp stops).2.2
          simp [Guarded, outside]
      | crash =>
          simp [Guarded]

/-- Reading a block is guarded but for an empty one beyond the memory. -/
theorem slice_guarded_iff
    (memory : Memory)
    (address length : Nat) :
    Guarded (memory.slice address length) ↔
      ¬(length = 0 ∧ memorySize < address) := by
  rw [slice_eq]
  exact guarded_match_iff address length _

/-- Writing a block is guarded but for an empty one beyond the memory. -/
theorem writeSlice_guarded_iff
    (memory : Memory)
    (address : Nat)
    (data : List UInt8) :
    Guarded (memory.writeSlice address data) ↔
      ¬(data = [] ∧ memorySize < address) := by
  rw [writeSlice_eq, guarded_match_iff, List.length_eq_zero_iff]

/-- Filling replaces the bytes of its block that lie inside memory and no others. -/
theorem fill_getElem?
    (memory : Memory)
    (address : Nat)
    (data : List UInt8)
    (position : Nat) :
    (memory.fill address data).bytes[position]? =
      if address ≤ position ∧ position < address + data.length ∧ position < memorySize then
        data[position - address]?
      else
        memory.bytes[position]? := by
  induction data generalizing memory address with
  | nil =>
      have empty : ¬(address ≤ position ∧ position < address + 0 ∧ position < memorySize) := by
        omega
      rw [fill, List.length_nil, if_neg empty]
  | cons byte rest inductionHypothesis =>
      rw [fill, inductionHypothesis, List.length_cons]
      by_cases first : position = address
      · subst position
        -- The bytes behind the first one are filled later, but not at its address.
        rw [if_neg fun later => Nat.not_succ_le_self address later.1]
        by_cases inside : address < memorySize
        · simp [inside]
        · simp [inside]
      · have apart : ¬address = position := Ne.symm first
        have same :
            (address + 1 ≤ position ∧ position < address + 1 + rest.length ∧
                position < memorySize) ↔
              (address ≤ position ∧ position < address + (rest.length + 1) ∧
                position < memorySize) := by
          omega
        simp only [Vector.getElem?_setIfInBounds, apart, ↓reduceIte, same]
        split
        next inside =>
          have shifted : position - address = (position - (address + 1)) + 1 := by
            omega
          rw [shifted, List.getElem?_cons_succ]
        next => rfl

/-- Filling leaves the bytes outside its block. -/
theorem fill_getElem?_of_outside
    (memory : Memory)
    {address : Nat}
    {data : List UInt8}
    {position : Nat}
    (outside : ¬(address ≤ position ∧ position < address + data.length)) :
    (memory.fill address data).bytes[position]? = memory.bytes[position]? := by
  rw [fill_getElem?, if_neg fun inside => outside ⟨inside.1, inside.2.1⟩]

end Chip8.Memory
