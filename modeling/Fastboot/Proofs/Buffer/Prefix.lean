import Fastboot.Buffer
import Mathlib.Tactic.Common

/-!
# What a buffer starts with

`b.StartsWith bytes` says that the first bytes of a buffer are `bytes`. This is how the contents of a
staging buffer are spoken of: a data phase lengthens the prefix (`StartsWith.writeAt_size`), a write at
the start puts another one there (`startsWith_of_writeAt_zero`), and every range within the prefix reads
as that part of `bytes` (`StartsWith.read_eq`).

`b.Overlays b' bytes` says in addition that behind them `b'` is as `b` was. A data phase leaves alone what
it does not reach (`Overlays.writeAt_size`).

`b.Alike b' n` says that the two hold the same up to `n`, whatever that is and whatever lies behind it. What
is read up to there is the same (`Alike.read_eq`), and the same write to both moves the bound along with it
(`Alike.writeAt`).
-/

namespace Fastboot.Buffer

variable {b b' : Buffer} {bytes p : ByteArray} {offset length : Nat}

/-- The first bytes of a buffer are `bytes`. -/
def StartsWith (b : Buffer) (bytes : ByteArray) : Prop :=
  b.take bytes.size = .ok bytes

/-! ### Reading and writing, byte by byte -/

/-- A write succeeds exactly within bounds. -/
theorem exists_writeAt_eq_ok_iff :
    (∃ b', b.writeAt offset bytes = .ok b') ↔ offset + bytes.size ≤ b.capacity := by
  unfold writeAt
  split <;> simp_all

/-- Within bounds there is always something to read. -/
theorem exists_read_eq_ok (h : offset + length ≤ b.capacity) :
    ∃ bytes, b.read offset length = .ok bytes := by
  unfold read
  exact ⟨_, if_pos h⟩

/-- Reading within bounds yields the run of bytes that the buffer holds there, and nothing else. -/
theorem read_eq_ok_iff :
    b.read offset length = .ok bytes ↔
      offset + length ≤ b.capacity ∧ bytes.size = length ∧
        ∀ (i : Nat) (h : i < bytes.size), bytes[i] = b.byteAt (offset + i) := by
  constructor
  · intro h
    have hsize := size_of_read h
    refine ⟨?_, hsize, fun i hi => ?_⟩
    · by_contra hout
      have herr := read_eq_error_iff.mpr ⟨Nat.lt_of_not_le hout, rfl⟩
      rw [h] at herr
      cases herr
    · have hget := getElem?_of_read h (hsize ▸ hi)
      rw [Array.getElem?_eq_getElem hi] at hget
      exact Option.some.inj hget
  · rintro ⟨hle, hsize, hbytes⟩
    obtain ⟨found, hfound⟩ := exists_read_eq_ok hle
    have hfoundSize := size_of_read hfound
    rw [hfound]
    congr 1
    refine ByteArray.ext_getElem (by omega) fun i hi hi' => ?_
    have hget := getElem?_of_read hfound (hfoundSize ▸ hi)
    rw [Array.getElem?_eq_getElem hi] at hget
    rw [hbytes i hi']
    exact Option.some.inj hget

/-- A read succeeds exactly within bounds. -/
theorem exists_read_eq_ok_iff :
    (∃ bytes, b.read offset length = .ok bytes) ↔ offset + length ≤ b.capacity :=
  ⟨fun ⟨_, h⟩ => (read_eq_ok_iff.mp h).1, exists_read_eq_ok⟩

/-- A write decides the bytes of its range. -/
theorem byteAt_of_writeAt_of_lt (h : b.writeAt offset bytes = .ok b') {i : Nat}
    (hi : i < bytes.size) : b'.byteAt (offset + i) = bytes[i] := by
  rw [byteAt_of_writeAt h, if_pos ⟨by omega, by omega⟩, Nat.add_sub_cancel_left,
    Array.getElem?_eq_getElem hi]
  rfl

/-- It leaves alone what is behind it. -/
theorem byteAt_of_writeAt_of_le (h : b.writeAt offset bytes = .ok b') {i : Nat}
    (hi : offset + bytes.size ≤ i) : b'.byteAt i = b.byteAt i := by
  rw [byteAt_of_writeAt h, if_neg (by omega)]

/-! ### Prefixes -/

/-- A run of bytes that goes `n` bytes into what is appended. -/
theorem extract_append_add (a b : ByteArray) (n : Nat) :
    (a ++ b).extract 0 (a.size + n) = a ++ b.extract 0 n := by
  have hleft : a.extract 0 (a.size + n) = a := by
    have h := ByteArray.extract_zero_max_size (a := a) (i := a.size + n)
    rwa [Nat.max_eq_left (Nat.le_add_right _ _)] at h
  rw [ByteArray.extract_append, hleft, Nat.zero_sub, Nat.add_sub_cancel_left]

/-- A run of bytes that does not go into what is appended. -/
theorem extract_append_of_le {a : ByteArray} {n : Nat} (h : n ≤ a.size) (b : ByteArray) :
    (a ++ b).extract 0 n = a.extract 0 n := by
  rw [ByteArray.extract_append, Nat.sub_eq_zero_of_le h, Nat.zero_sub, ByteArray.extract_same,
    ByteArray.append_empty]

theorem startsWith_iff :
    b.StartsWith bytes ↔
      bytes.size ≤ b.capacity ∧ ∀ (i : Nat) (h : i < bytes.size), bytes[i] = b.byteAt i := by
  simp only [StartsWith, take, read_eq_ok_iff, Nat.zero_add, true_and]

theorem startsWith_empty : b.StartsWith .empty :=
  startsWith_iff.mpr ⟨Nat.zero_le _, fun i h => absurd h (Nat.not_lt_zero i)⟩

/-- A range within the prefix reads as that part of it. -/
theorem StartsWith.read_eq (h : b.StartsWith p) (hle : offset + length ≤ p.size) :
    b.read offset length = .ok (p.extract offset (offset + length)) := by
  obtain ⟨hcap, hbytes⟩ := startsWith_iff.mp h
  have hsize : (p.extract offset (offset + length)).size = length := by
    rw [ByteArray.size_extract]
    omega
  refine read_eq_ok_iff.mpr ⟨by omega, hsize, fun i hi => ?_⟩
  rw [ByteArray.getElem_extract, hbytes]

/-- A buffer starts with every prefix of what it starts with. -/
theorem StartsWith.extract (h : b.StartsWith p) (n : Nat) : b.StartsWith (p.extract 0 n) := by
  obtain ⟨hcap, hbytes⟩ := startsWith_iff.mp h
  refine startsWith_iff.mpr ⟨?_, fun i hi => ?_⟩
  · rw [ByteArray.size_extract]
    omega
  · rw [ByteArray.getElem_extract, hbytes]
    congr 1
    omega

/-- A write behind the prefix lengthens it. -/
theorem StartsWith.writeAt_size (h : b.StartsWith p) (hw : b.writeAt p.size bytes = .ok b') :
    b'.StartsWith (p ++ bytes) := by
  obtain ⟨-, hbytes⟩ := startsWith_iff.mp h
  have hle := exists_writeAt_eq_ok_iff.mp ⟨b', hw⟩
  refine startsWith_iff.mpr ⟨?_, fun i hi => ?_⟩
  · rw [ByteArray.size_append, capacity_of_writeAt hw]
    exact hle
  · rw [ByteArray.size_append] at hi
    rcases Nat.lt_or_ge i p.size with hlt | hge
    · rw [ByteArray.getElem_append_left hlt, hbytes i hlt, byteAt_of_writeAt hw, if_neg (by omega)]
    · obtain ⟨j, rfl⟩ := Nat.exists_eq_add_of_le hge
      rw [ByteArray.getElem_append_right hge, byteAt_of_writeAt_of_lt hw (by omega)]
      congr 1
      omega

/-- A write at the start decides the prefix. -/
theorem startsWith_of_writeAt_zero (hw : b.writeAt 0 bytes = .ok b') : b'.StartsWith bytes := by
  have h : b'.StartsWith (ByteArray.empty ++ bytes) := startsWith_empty.writeAt_size hw
  rwa [ByteArray.empty_append] at h

/-- What fits a buffer can be written to its start, and reads back. -/
theorem exists_writeAt_zero (h : bytes.size ≤ b.capacity) : ∃ b', b.writeAt 0 bytes = .ok b' ∧
    b'.take bytes.size = .ok bytes ∧ b'.capacity = b.capacity := by
  obtain ⟨b', hw⟩ := exists_writeAt_eq_ok_iff.mpr ((Nat.zero_add bytes.size).symm ▸ h)
  exact ⟨b', hw, startsWith_of_writeAt_zero hw, capacity_of_writeAt hw⟩

/-! ### What is behind a prefix -/

/-- `b'` starts with `bytes`, and is `b` behind them. -/
structure Overlays (b b' : Buffer) (bytes : ByteArray) : Prop where
  startsWith : b'.StartsWith bytes
  byteAt_eq (i : Nat) (hi : bytes.size ≤ i) : b'.byteAt i = b.byteAt i

theorem overlays_self (b : Buffer) : b.Overlays b .empty :=
  ⟨startsWith_empty, fun _ _ => rfl⟩

/-- A write behind the prefix lengthens it at the cost of what was there. -/
theorem Overlays.writeAt_size {b₀ : Buffer} (h : b₀.Overlays b p)
    (hw : b.writeAt p.size bytes = .ok b') : b₀.Overlays b' (p ++ bytes) where
  startsWith := h.startsWith.writeAt_size hw
  byteAt_eq i hi := by
    rw [ByteArray.size_append] at hi
    rw [byteAt_of_writeAt_of_le hw hi, h.byteAt_eq i (by omega)]

/-! ### Buffers that are the same up to a point -/

/-- Two buffers of one capacity with the same `n` bytes in front. -/
structure Alike (b b' : Buffer) (n : Nat) : Prop where
  capacity_eq : b'.capacity = b.capacity
  byteAt_eq (i : Nat) (hi : i < n) : b'.byteAt i = b.byteAt i

variable {n m : Nat}

theorem alike_zero (h : b'.capacity = b.capacity) : b.Alike b' 0 :=
  ⟨h, fun i hi => absurd hi (Nat.not_lt_zero i)⟩

theorem Alike.mono (h : b.Alike b' n) (hle : m ≤ n) : b.Alike b' m :=
  ⟨h.capacity_eq, fun i hi => h.byteAt_eq i (Nat.lt_of_lt_of_le hi hle)⟩

/-- What is read in front of the bound is the same, and is refused by the same error. -/
theorem Alike.read_eq (h : b.Alike b' n) (hle : offset + length ≤ n) :
    b'.read offset length = b.read offset length := by
  rcases hread : b.read offset length with e | bytes
  · obtain ⟨hout, rfl⟩ := read_eq_error_iff.mp hread
    rw [← h.capacity_eq] at hout ⊢
    exact read_eq_error_iff.mpr ⟨hout, rfl⟩
  · obtain ⟨hcap, hsize, hbytes⟩ := read_eq_ok_iff.mp hread
    refine read_eq_ok_iff.mpr ⟨h.capacity_eq ▸ hcap, hsize, fun i hi => ?_⟩
    rw [hbytes i hi, h.byteAt_eq _ (by omega)]

theorem Alike.writeAt_eq_error {e : RangeError} (h : b.Alike b' n)
    (hw : b.writeAt offset bytes = .error e) : b'.writeAt offset bytes = .error e := by
  obtain ⟨hout, rfl⟩ := writeAt_eq_error_iff.mp hw
  rw [← h.capacity_eq] at hout ⊢
  exact writeAt_eq_error_iff.mpr ⟨hout, rfl⟩

/-- A write that leaves no gap moves the bound to its own end. -/
theorem Alike.writeAt {c : Buffer} (h : b.Alike b' n) (hle : offset ≤ n)
    (hw : b.writeAt offset bytes = .ok c) :
    ∃ c', b'.writeAt offset bytes = .ok c' ∧ c.Alike c' (max n (offset + bytes.size)) := by
  have hcap := exists_writeAt_eq_ok_iff.mp ⟨c, hw⟩
  obtain ⟨c', hw'⟩ := exists_writeAt_eq_ok_iff.mpr (h.capacity_eq ▸ hcap)
  refine ⟨c', hw', ?_, fun i hi => ?_⟩
  · rw [capacity_of_writeAt hw', capacity_of_writeAt hw, h.capacity_eq]
  · rw [byteAt_of_writeAt hw', byteAt_of_writeAt hw]
    split
    · rfl
    · exact h.byteAt_eq i (by omega)

end Fastboot.Buffer
