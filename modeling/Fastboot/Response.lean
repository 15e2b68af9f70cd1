import Fastboot.Frame
import Fastboot.Text.Hex
import Fastboot.Text.Parts

/-!
# Responses

Every command is answered by one `Response`: `OKAY` with an optional value, `FAIL` with a reason, or
`DATA` with the size of the data phase that follows, in eight hexadecimal digits.

* `Response.text` is the written form, and `Response.frame` puts it into a frame.
* `Response.parse?` reads the bytes of a frame as the host does.
* `frame_eq_ok_iff` and `frame_eq_error_iff`: a response has a frame exactly when its text fits, and
  the frame holds the whole text.
-/

namespace Fastboot

open Text

/-- The answer to one command. -/
inductive Response where
  /-- The command succeeded, with a value that may be empty. -/
  | okay (value : String)
  /-- The command failed for a reason. -/
  | fail (reason : String)
  /-- A data phase of this many bytes follows. -/
  | data (size : UInt32)
  deriving DecidableEq, Repr

namespace Response

/-- The four letters that a response starts with. -/
def tag : Response → String
  | okay _ => "OKAY"
  | fail _ => "FAIL"
  | data _ => "DATA"

/-- What a response says after its tag. -/
def body : Response → String
  | okay value => value
  | fail reason => reason
  | data size => hex 8 size.toNat

def text (r : Response) : String :=
  r.tag ++ r.body

def isOkay : Response → Bool
  | okay _ => true
  | _ => false

def isFail : Response → Bool
  | fail _ => true
  | _ => false

/-- The frame that carries a response. -/
def frame (r : Response) : Except Overflow Frame := do
  let f ← Frame.empty.push r.tag
  f.push r.body

/-- The digits of a number, without the plus sign that may stand before them. -/
def dropPlus : List Char → List Char
  | '+' :: ds => ds
  | ds => ds

/-- A size in eight bytes: eight hexadecimal digits, or a plus sign and seven of them. -/
def size? (t : String) : Option UInt32 :=
  let ds := dropPlus t.toList
  if t.utf8ByteSize = 8 ∧ ds.all isHexDigit then some (UInt32.ofNat (hexValue ds)) else none

/-- The response that a written form stands for. -/
def ofText? (t : String) : Option Response :=
  match after? "OKAY" t with
  | some value => some (okay value)
  | none =>
    match after? "FAIL" t with
    | some reason => some (fail reason)
    | none => (after? "DATA" t).bind fun digits => (size? digits).map data

/-- The response in a frame, if its bytes are the text of one. -/
def parse? (bytes : ByteArray) : Option Response :=
  (String.fromUTF8? bytes).bind ofText?

/-! ### Writing -/

theorem utf8ByteSize_tag (r : Response) : r.tag.utf8ByteSize = 4 := by
  cases r <;> rfl

private theorem push_tag (r : Response) :
    ∃ f : Frame, Frame.empty.push r.tag = .ok f ∧ f.text = r.tag := by
  refine ⟨⟨r.tag, by rw [utf8ByteSize_tag]; decide⟩, ?_, rfl⟩
  rw [Frame.push_eq_ok_iff]
  simp [Frame.empty]

theorem frame_eq_ok_iff {r : Response} {f : Frame} : r.frame = .ok f ↔ f.text = r.text := by
  obtain ⟨g, hg, ht⟩ := push_tag r
  simp only [frame, hg, bind, Except.bind, Frame.push_eq_ok_iff, ht, text]

theorem frame_eq_error_iff {r : Response} {e : Overflow} :
    r.frame = .error e ↔
      Frame.capacity < r.text.utf8ByteSize ∧ e = ⟨r.text.utf8ByteSize, Frame.capacity⟩ := by
  obtain ⟨g, hg, ht⟩ := push_tag r
  have hsize : g.size = 4 := by rw [Frame.size, ht, utf8ByteSize_tag]
  simp only [frame, hg, bind, Except.bind, Frame.push_eq_error_iff, text,
    String.utf8ByteSize_append, utf8ByteSize_tag, Frame.remaining, hsize, Frame.capacity]
  constructor <;> rintro ⟨h, rfl⟩ <;> exact ⟨by omega, rfl⟩

end Response

end Fastboot
