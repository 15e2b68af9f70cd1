import Fastboot.Frame
import Fastboot.Proofs.Trial

/-!
# Frames, text by text

Texts are pushed to a frame one after the other. It holds those that it takes, in their order and each as a
whole, and nothing of any other (`text_afterAll`).

Which texts it takes is a matter of sizes alone. Each one in turn is taken if it is no longer than the room
that is left (`fitting`). One that is not taken takes up no room, so a shorter text behind it may still fit.
`Frame.bytes_afterAll` is what it comes to.
-/

namespace Fastboot.Frame

open Trial

/-- Those of some texts that go into a room of so many bytes, if each takes what it needs and is passed over
where that is not left. -/
def fitting (room : Nat) : List String → List String
  | [] => []
  | t :: texts =>
    if t.utf8ByteSize ≤ room then t :: fitting (room - t.utf8ByteSize) texts else fitting room texts

variable {f g : Frame} {t : String}

/-! ### One push -/

theorem size_add_remaining (f : Frame) : f.size + f.remaining = capacity :=
  Nat.add_sub_of_le f.fits

/-- A text is refused exactly if there is no room for all of it. -/
theorem exists_push_eq_error_iff :
    (∃ e, f.push t = .error e) ↔ f.remaining < t.utf8ByteSize := by
  simp only [push_eq_error_iff, exists_and_left, exists_eq, and_true]

theorem exists_push_eq_ok_iff : (∃ g, f.push t = .ok g) ↔ t.utf8ByteSize ≤ f.remaining := by
  rw [← Nat.not_lt, ← exists_push_eq_error_iff]
  cases f.push t <;> simp

/-- A text takes up as much room as it has bytes. -/
theorem remaining_of_push (h : f.push t = .ok g) : g.remaining = f.remaining - t.utf8ByteSize := by
  have hsize : g.size = f.size + t.utf8ByteSize := by
    rw [size, push_eq_ok_iff.mp h, String.utf8ByteSize_append, size]
  rw [remaining, hsize, Nat.sub_add_eq, remaining]

/-! ### Push after push -/

/-- An empty frame holds what it has taken since. -/
theorem text_afterAll (texts : List String) :
    (afterAll push empty texts).text = String.join (granted push empty texts) := by
  have hempty : empty.text = String.join [] := String.join_nil.symm
  refine afterAll_induction (motive := fun (f : Frame) taken => f.text = String.join taken) ?_
    hempty texts
  intro f g taken t hf hpush
  rw [push_eq_ok_iff.mp hpush, hf, String.join_append, String.join_cons, String.join_nil,
    String.append_empty]

/-- What is taken depends on the sizes of the texts alone, and on the room that there is at first. -/
theorem granted_push_eq_fitting (f : Frame) (texts : List String) :
    granted push f texts = fitting f.remaining texts := by
  induction texts generalizing f with
  | nil => rfl
  | cons t texts ih =>
    cases hpush : f.push t with
    | ok g =>
      have hroom := exists_push_eq_ok_iff.mp ⟨g, hpush⟩
      rw [granted_cons_of_ok hpush, fitting, if_pos hroom, ih, remaining_of_push hpush]
    | error e =>
      have hlong := exists_push_eq_error_iff.mp ⟨e, hpush⟩
      rw [granted_cons_of_error hpush, fitting, if_neg (Nat.not_le_of_lt hlong), ih]

/-- **A frame takes whole texts.** Whatever is pushed to an empty frame, its bytes are those of the texts that
were taken, in their order. These are the texts that fit, one after the other, into 64 bytes, and what they
need and what remains makes up 64. A push is taken exactly if what remains is enough for it. Else it reports
how long the frame would have become, and the frame stays as it is, so that after any number of such texts the
next one that fits is still taken. -/
theorem bytes_afterAll (texts : List String) :
    let f := afterAll push empty texts
    let taken := granted push empty texts
    f.bytes = (String.join taken).toUTF8 ∧
    taken = fitting 64 texts ∧
    f.size = f.bytes.size ∧ f.size + f.remaining = 64 ∧
    (∀ t, (∃ g, f.push t = .ok g) ↔ t.utf8ByteSize ≤ f.remaining) ∧
    (∀ t e, f.push t = .error e ↔
      f.remaining < t.utf8ByteSize ∧ e = ⟨f.size + t.utf8ByteSize, 64⟩) ∧
    (∀ refused, (∀ t ∈ refused, f.remaining < t.utf8ByteSize) →
      afterAll push empty (texts ++ refused) = f ∧
      ∀ t, t.utf8ByteSize ≤ f.remaining →
        granted push empty (texts ++ refused ++ [t]) = taken ++ [t]) := by
  intro f taken
  refine ⟨congrArg String.toUTF8 (text_afterAll texts), granted_push_eq_fitting empty texts, rfl,
    size_add_remaining f, fun t => exists_push_eq_ok_iff, fun t e => push_eq_error_iff,
    fun refused hrefused => ?_⟩
  have herrors : ∀ t ∈ refused, ∃ e, f.push t = .error e :=
    fun t ht => exists_push_eq_error_iff.mpr (hrefused t ht)
  obtain ⟨hsame, hnone⟩ := afterAll_of_refused herrors
  have hafter : afterAll push empty (texts ++ refused) = f :=
    (afterAll_append push empty texts refused).trans hsame
  refine ⟨hafter, fun t hroom => ?_⟩
  obtain ⟨g, hpush⟩ := exists_push_eq_ok_iff.mpr hroom
  have hlast : granted push f [t] = [t] := granted_cons_of_ok hpush
  rw [granted_append, hafter, hlast, granted_append, hnone, List.append_nil]

/-- Characters of three bytes and of two are too long for the byte that is left. One of its own size is not. -/
example : fitting 5 ["OKAY", "€", "é", "!", "?"] = ["OKAY", "!"] := by
  decide +kernel

end Fastboot.Frame
