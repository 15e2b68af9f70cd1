import Fastboot.Proofs.Buffer.Prefix
import Fastboot.Proofs.Trial

/-!
# The last write wins

The contents of a buffer are a matter of the writes that were not refused: a position holds what the last of
these to cover it has put there (`latest?`), and zero if none covers it. `Buffer.Records` says so of a buffer
and of what was written to it, one write keeps it true (`Records.write`), and `Buffer.contents_afterAll` is
what it comes to.

Nothing is refused but a range whose end, as a number, is behind the capacity. Where offsets and lengths are
words of 64 bits, that end may be too large for a word, and their sum wraps around. `isWithin` decides the
same bound with words alone (`isWithin_iff`).
-/

namespace Fastboot.Buffer

open Trial

/-- Bytes that are copied in at an offset. -/
structure Write where
  offset : Nat
  bytes : ByteArray

/-- A write that ends within a capacity. -/
def Write.Fits (w : Write) (capacity : Nat) : Prop :=
  w.offset + w.bytes.size ≤ capacity

instance (w : Write) (capacity : Nat) : Decidable (w.Fits capacity) :=
  inferInstanceAs (Decidable (_ ≤ _))

/-- The byte that a write puts at a position, if it covers it. -/
def Write.byte? (w : Write) (i : Nat) : Option UInt8 :=
  if h : w.offset ≤ i ∧ i < w.offset + w.bytes.size then some w.bytes[i - w.offset] else none

/-- What the last of some writes to cover a position puts there. -/
def latest? (writes : List Write) (i : Nat) : Option UInt8 :=
  writes.reverse.findSome? (·.byte? i)

/-- Copy the bytes of a write in. -/
def write (b : Buffer) (w : Write) : Except RangeError Buffer :=
  b.writeAt w.offset w.bytes

variable {b b' : Buffer} {w : Write} {done : List Write} {capacity : Nat}

/-- The last write decides the positions that it covers and leaves all others. -/
theorem latest?_concat (done : List Write) (w : Write) (i : Nat) :
    latest? (done ++ [w]) i = (w.byte? i).or (latest? done i) := by
  rw [latest?, List.reverse_append, List.findSome?_append, List.reverse_singleton,
    List.findSome?_singleton]
  rfl

/-- The writes that are not refused are those that end within the capacity. -/
theorem granted_write_eq_filter (b : Buffer) (writes : List Write) :
    granted write b writes = writes.filter (·.Fits b.capacity) := by
  induction writes generalizing b with
  | nil => rfl
  | cons w writes ih =>
    cases hw : b.write w with
    | ok b' =>
      have hfits : w.Fits b.capacity := exists_writeAt_eq_ok_iff.mp ⟨b', hw⟩
      rw [granted_cons_of_ok hw, ih, capacity_of_writeAt hw, List.filter_cons,
        if_pos (decide_eq_true hfits)]
    | error e =>
      have hfits : ¬ w.Fits b.capacity := Nat.not_le_of_lt (writeAt_eq_error_iff.mp hw).1
      rw [granted_cons_of_error hw, ih, List.filter_cons, if_neg (by simpa using hfits)]

/-! ### What a buffer holds -/

/-- What holds of a buffer of zeros after the writes `done`. -/
structure Records (b : Buffer) (capacity : Nat) (done : List Write) : Prop where
  capacity_eq : b.capacity = capacity
  byteAt_eq (i : Nat) : b.byteAt i = (latest? done i).getD 0

theorem records_empty (capacity : Nat) : (empty capacity).Records capacity [] :=
  ⟨rfl, fun i => byteAt_empty capacity i⟩

/-- What a write does to the byte at a position. -/
theorem byteAt_of_write (h : b.write w = .ok b') (i : Nat) :
    b'.byteAt i = (w.byte? i).getD (b.byteAt i) := by
  rw [byteAt_of_writeAt h, Write.byte?]
  by_cases hcovers : w.offset ≤ i ∧ i < w.offset + w.bytes.size
  · have hlt : i - w.offset < w.bytes.data.size := by
      rw [ByteArray.size_data]
      omega
    rw [if_pos hcovers, dif_pos hcovers, Array.getElem?_eq_getElem hlt]
    rfl
  · rw [if_neg hcovers, dif_neg hcovers, Option.getD_none]

theorem Records.write (h : b.Records capacity done) (hw : b.write w = .ok b') :
    b'.Records capacity (done ++ [w]) where
  capacity_eq := (capacity_of_writeAt hw).trans h.capacity_eq
  byteAt_eq i := by
    rw [byteAt_of_write hw, h.byteAt_eq, latest?_concat]
    cases w.byte? i <;> rfl

theorem records_afterAll (capacity : Nat) (writes : List Write) :
    (afterAll write (empty capacity) writes).Records capacity
      (granted write (empty capacity) writes) :=
  afterAll_induction (motive := fun b done => Records b capacity done)
    (fun _ _ _ _ h hw => h.write hw) (records_empty capacity) writes

/-! ### Ranges in words -/

/-- The end of a range in words, unless it is too large for one. -/
def stop? (offset length : UInt64) : Option UInt64 :=
  -- A sum that wraps around is smaller than what it is a sum of.
  if offset ≤ offset + length then some (offset + length) else none

/-- A range in words ends within a limit. -/
def isWithin (limit offset length : UInt64) : Bool :=
  (stop? offset length).any (· ≤ limit)

variable {limit offset length stop : UInt64}

theorem stop?_eq_some_iff : stop? offset length = some stop ↔
    offset.toNat + length.toNat = stop.toNat := by
  have hoffset := offset.toNat_lt
  have hlength := length.toNat_lt
  have hstop := stop.toNat_lt
  rw [stop?, Option.ite_none_right_eq_some, Option.some.injEq, ← UInt64.toNat_inj,
    UInt64.le_iff_toNat_le, UInt64.toNat_add]
  omega

/-- What words decide is the bound on the sum as a number, which need not be a word. -/
theorem isWithin_iff : isWithin limit offset length = true ↔
    offset.toNat + length.toNat ≤ limit.toNat := by
  simp only [isWithin, Option.any_eq_true, stop?_eq_some_iff, decide_eq_true_eq,
    UInt64.le_iff_toNat_le]
  constructor
  · rintro ⟨stop, hstop, hle⟩
    exact hstop ▸ hle
  · intro hle
    have hword : offset.toNat + length.toNat < UInt64.size :=
      Nat.lt_of_le_of_lt hle limit.toNat_lt
    have hstop := UInt64.toNat_ofNat_of_lt' hword
    refine ⟨.ofNat (offset.toNat + length.toNat), hstop.symm, ?_⟩
    rwa [hstop]

/-- **The last write wins.** Whatever is written to a buffer of zeros, it keeps its capacity. A write or a read
is refused exactly when the sum of its offset and its length, as numbers, is larger, and a write that is refused
leaves the buffer as it is. A read that is not refused yields, at each position, the byte of the last write to
cover it that was not refused either, or zero. If the capacity is a word, it is words that decide this: the sum
must not wrap around, and must not be larger. -/
theorem contents_afterAll (capacity : Nat) (writes : List Write) :
    let start := empty capacity
    let b := afterAll write start writes
    let done := granted write start writes
    b.capacity = capacity ∧
    done = writes.filter (·.Fits capacity) ∧
    (∀ offset bytes e, b.writeAt offset bytes = .error e ↔
      capacity < offset + bytes.size ∧ e = ⟨offset, bytes.size, capacity⟩) ∧
    (∀ w e, b.write w = .error e → afterAll write start (writes ++ [w]) = b) ∧
    (∀ offset length e, b.read offset length = .error e ↔
      capacity < offset + length ∧ e = ⟨offset, length, capacity⟩) ∧
    (∀ offset length bytes, b.read offset length = .ok bytes ↔
      offset + length ≤ capacity ∧ bytes.size = length ∧
        ∀ (i : Nat) (h : i < bytes.size), bytes[i] = (latest? done (offset + i)).getD 0) ∧
    (∀ limit : UInt64, limit.toNat = capacity → ∀ offset length : UInt64,
      ((∃ bytes, b.read offset.toNat length.toNat = .ok bytes) ↔
        isWithin limit offset length = true) ∧
      ∀ bytes : ByteArray, bytes.size = length.toNat →
        ((∃ b', b.writeAt offset.toNat bytes = .ok b') ↔ isWithin limit offset length = true)) := by
  intro start b done
  obtain ⟨hcapacity, hbytes⟩ : b.Records capacity done := records_afterAll capacity writes
  refine ⟨hcapacity, granted_write_eq_filter start writes, fun offset bytes e => ?_,
    fun w e hw => ?_, fun offset length e => ?_, fun offset length bytes => ?_,
    fun limit hlimit offset length => ⟨?_, fun bytes hsize => ?_⟩⟩
  · rw [writeAt_eq_error_iff, hcapacity]
  · rw [afterAll_append]
    exact afterAll_cons_of_error hw
  · rw [read_eq_error_iff, hcapacity]
  · simp only [read_eq_ok_iff, hcapacity, hbytes]
  · rw [exists_read_eq_ok_iff, isWithin_iff, hcapacity, hlimit]
  · rw [exists_writeAt_eq_ok_iff, isWithin_iff, hcapacity, hlimit, hsize]

/-- The sum wraps around here, to a word that is well within the limit. -/
example : (0xffffffffffffffff + 2 : UInt64) ≤ 8 ∧ isWithin 8 0xffffffffffffffff 2 = false := by
  decide

end Fastboot.Buffer
