/-!
# Frames

A `Frame` is the text of one status frame, of at most `Frame.capacity` bytes. It grows by
`Frame.push`, which appends a text that still fits and refuses any other: a frame is never cut short
(`push_eq_error_iff`).
-/

namespace Fastboot

/-- The size of a status frame in bytes, at most. -/
def Frame.capacity : Nat := 64

/-- A text that fits a status frame. -/
structure Frame where
  text : String
  fits : text.utf8ByteSize ≤ Frame.capacity

/-- A frame of `needed` bytes was asked for where `capacity` bytes is the most. -/
structure Overflow where
  needed : Nat
  capacity : Nat
  deriving DecidableEq, Repr

def Overflow.message (e : Overflow) : String :=
  s!"Response needs {e.needed} bytes, capacity is {e.capacity}"

namespace Frame

def empty : Frame :=
  ⟨"", by decide⟩

def size (f : Frame) : Nat :=
  f.text.utf8ByteSize

/-- How many bytes still fit. -/
def remaining (f : Frame) : Nat :=
  capacity - f.size

def bytes (f : Frame) : ByteArray :=
  f.text.toUTF8

/-- Append a text, or report how large the frame would have become. -/
def push (f : Frame) (t : String) : Except Overflow Frame :=
  if h : f.size + t.utf8ByteSize ≤ capacity then
    .ok ⟨f.text ++ t, by rw [String.utf8ByteSize_append]; exact h⟩
  else .error ⟨f.size + t.utf8ByteSize, capacity⟩

@[ext]
theorem ext {f g : Frame} (h : f.text = g.text) : f = g := by
  cases f; cases g; cases h; rfl

theorem push_eq_ok_iff {f g : Frame} {t : String} :
    f.push t = .ok g ↔ g.text = f.text ++ t := by
  unfold push
  split
  · simp only [Except.ok.injEq]
    exact ⟨fun h => h ▸ rfl, fun h => Frame.ext h.symm⟩
  · rename_i h
    simp only [reduceCtorEq, false_iff]
    intro hg
    exact h (by have := g.fits; rwa [hg, String.utf8ByteSize_append] at this)

theorem push_eq_error_iff {f : Frame} {t : String} {e : Overflow} :
    f.push t = .error e ↔
      f.remaining < t.utf8ByteSize ∧ e = ⟨f.size + t.utf8ByteSize, capacity⟩ := by
  have hf : f.size ≤ capacity := f.fits
  unfold push remaining
  split
  · simp; omega
  · simp [eq_comm]; omega

end Frame

end Fastboot
