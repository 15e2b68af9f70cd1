/-!
# Byte buffers of a fixed capacity

A `Buffer` is a run of `capacity` bytes that starts out as zeros. Only the bytes up to the last one
ever written are kept: what lies beyond them reads as zero. A range is in bounds when the sum of its
offset and its length, as numbers, is at most the capacity, so no offset is too large to be refused.

* `Buffer.writeAt` and `Buffer.read` copy bytes in and out, and refuse a range out of bounds with a
  `RangeError`.
* `Buffer.byteAt` is the content of a buffer, byte by byte. `byteAt_of_writeAt` and
  `getElem?_of_read` say what writing and reading do to it.
-/

namespace Fastboot

/-- A range that does not lie within a buffer. -/
structure RangeError where
  offset : Nat
  length : Nat
  capacity : Nat
  deriving DecidableEq, Repr

def RangeError.message (e : RangeError) : String :=
  s!"range {e.offset}+{e.length} exceeds capacity {e.capacity}"

/-- `n` zero bytes. -/
def zeros (n : Nat) : ByteArray :=
  ⟨Array.replicate n 0⟩

/-- `bytes` with zeros behind it, up to a length of at least `n`. -/
def padTo (n : Nat) (bytes : ByteArray) : ByteArray :=
  if bytes.size < n then bytes ++ zeros (n - bytes.size) else bytes

@[simp]
theorem size_zeros (n : Nat) : (zeros n).size = n := by
  simp [zeros, ByteArray.size]

@[simp]
theorem size_padTo (n : Nat) (bytes : ByteArray) : (padTo n bytes).size = max n bytes.size := by
  unfold padTo
  split
  · rw [ByteArray.size_append, size_zeros]; omega
  · omega

/-- `capacity` bytes, of which `stored` are the leading ones and all others are zero. -/
structure Buffer where
  capacity : Nat
  stored : ByteArray
  size_le : stored.size ≤ capacity

namespace Buffer

/-- A buffer of zeros. -/
def empty (capacity : Nat) : Buffer :=
  ⟨capacity, .empty, Nat.zero_le _⟩

/-- The byte at a position, zero from the capacity on. -/
def byteAt (b : Buffer) (i : Nat) : UInt8 :=
  (b.stored.data[i]?).getD 0

/-- Copy `bytes` in at `offset`, within bounds. -/
def overwrite (b : Buffer) (offset : Nat) (bytes : ByteArray)
    (h : offset + bytes.size ≤ b.capacity) : Buffer where
  capacity := b.capacity
  stored := bytes.copySlice 0 (padTo offset b.stored) offset bytes.size false
  size_le := by
    have := b.size_le
    simp only [ByteArray.copySlice_eq_append, ByteArray.size_append, ByteArray.size_extract,
      ByteArray.size_data, size_padTo]
    omega

/-- Copy `bytes` in at `offset`. -/
def writeAt (b : Buffer) (offset : Nat) (bytes : ByteArray) : Except RangeError Buffer :=
  if h : offset + bytes.size ≤ b.capacity then .ok (b.overwrite offset bytes h)
  else .error ⟨offset, bytes.size, b.capacity⟩

/-- The `length` bytes from `offset` on. -/
def read (b : Buffer) (offset length : Nat) : Except RangeError ByteArray :=
  if offset + length ≤ b.capacity then
    .ok (padTo length (b.stored.extract offset (offset + length)))
  else .error ⟨offset, length, b.capacity⟩

/-- The first `length` bytes. -/
def take (b : Buffer) (length : Nat) : Except RangeError ByteArray :=
  b.read 0 length

/-! ### Bounds -/

theorem writeAt_eq_error_iff {b : Buffer} {offset : Nat} {bytes : ByteArray} {e : RangeError} :
    b.writeAt offset bytes = .error e ↔
      b.capacity < offset + bytes.size ∧ e = ⟨offset, bytes.size, b.capacity⟩ := by
  unfold writeAt
  split
  · simp; omega
  · simp [eq_comm]; omega

theorem read_eq_error_iff {b : Buffer} {offset length : Nat} {e : RangeError} :
    b.read offset length = .error e ↔
      b.capacity < offset + length ∧ e = ⟨offset, length, b.capacity⟩ := by
  unfold read
  split
  · simp; omega
  · simp [eq_comm]; omega

theorem capacity_of_writeAt {b b' : Buffer} {offset : Nat} {bytes : ByteArray}
    (h : b.writeAt offset bytes = .ok b') : b'.capacity = b.capacity := by
  unfold writeAt at h
  split at h <;> cases h
  rfl

theorem size_of_read {b : Buffer} {offset length : Nat} {bytes : ByteArray}
    (h : b.read offset length = .ok bytes) : bytes.size = length := by
  unfold read at h
  split at h <;> cases h
  simp only [size_padTo, ByteArray.size_extract]
  omega

/-! ### Content -/

@[simp]
theorem byteAt_empty (capacity i : Nat) : (empty capacity).byteAt i = 0 := rfl

theorem getElem?_padTo (n : Nat) (bytes : ByteArray) (i : Nat) :
    ((padTo n bytes).data[i]?).getD 0 = (bytes.data[i]?).getD 0 := by
  unfold padTo
  split
  case isFalse => rfl
  simp only [ByteArray.data_append, Array.getElem?_append, zeros, ByteArray.size]
  split
  · rfl
  · have hnone : bytes.data[i]? = none := Array.getElem?_eq_none (by omega)
    rw [hnone, Array.getElem?_replicate]
    split <;> rfl

/-- A write decides the bytes of its range and leaves all others. -/
theorem byteAt_of_writeAt {b b' : Buffer} {offset : Nat} {bytes : ByteArray}
    (h : b.writeAt offset bytes = .ok b') (i : Nat) :
    b'.byteAt i =
      if offset ≤ i ∧ i < offset + bytes.size then (bytes.data[i - offset]?).getD 0
      else b.byteAt i := by
  unfold writeAt at h
  split at h <;> cases h
  have hpad := getElem?_padTo offset b.stored i
  have hsize : offset ≤ (padTo offset b.stored).data.size := by
    rw [ByteArray.size_data, size_padTo]; omega
  simp only [byteAt, overwrite, ByteArray.copySlice_eq_append, ByteArray.data_append, ByteArray.data_extract,
    Array.getElem?_append, Array.size_append, Array.size_extract, Array.getElem?_extract,
    ByteArray.size] at *
  grind

/-- Reading yields the bytes of its range. -/
theorem getElem?_of_read {b : Buffer} {offset length : Nat} {bytes : ByteArray}
    (h : b.read offset length = .ok bytes) {i : Nat} (hi : i < length) :
    bytes.data[i]? = some (b.byteAt (offset + i)) := by
  have hsize := size_of_read h
  unfold read at h
  split at h <;> cases h
  have hpad := getElem?_padTo length (b.stored.extract offset (offset + length)) i
  have hlt : i < (padTo length (b.stored.extract offset (offset + length))).data.size := by
    rw [ByteArray.size_data]; omega
  rw [Array.getElem?_eq_getElem hlt] at hpad ⊢
  simp only [Option.getD_some] at hpad
  rw [hpad, byteAt, ByteArray.data_extract, Array.getElem?_extract]
  grind

end Buffer

end Fastboot
