import Fastboot.Board
import Mathlib.Tactic.Common

/-!
# Writing in place

A computation in place works on the state itself: what it has written before a fault stays written. It
behaves like one that works on a copy if nothing can fail behind its first write, and `Settles x s r` says
that it does: on `s` the computation `x` comes to `r`, and has written nothing if that is a failure.
Questions may come first (`Settles.ask_bind`), and behind a write everything has to succeed
(`Settles.ok_bind`, `Settles.bind`).

A part of the state may do something of its own (`InPlace.within`), which leaves it as the part itself does.
The parts of a board that can refuse a write look at everything before they write: `settles_writeImage`,
`settles_eraseImage`, `settles_writeTable`, `settles_activate`, `settles_setRebootFlag`, `settles_accept`.
-/

namespace Fastboot

/-- A computation that writes to its state as it goes. What it has written stays when it fails. -/
abbrev InPlace (σ ε α : Type) : Type :=
  ExceptT ε (StateM σ) α

namespace InPlace

variable {σ τ ε ε' α β : Type}

/-- Ask something of the state, which may fail. -/
def ask (question : σ → Except ε α) : InPlace σ ε α := do
  MonadExcept.ofExcept (question (← get))

/-- Let a part of the state do something, and have it back as it is then, also if it fails. -/
def within (part : σ) (put : σ → τ → τ) (toFault : ε → ε') (x : InPlace σ ε Unit) :
    InPlace τ ε' Unit := do
  let (outcome, part) := x.run.run part
  modify (put part)
  MonadExcept.ofExcept (outcome.mapError toFault)

/-- On `s` the computation comes to the result. If it fails, it has written nothing. -/
def Settles (x : InPlace σ ε α) (s : σ) (result : Except ε (α × σ)) : Prop :=
  x.run.run s =
    match result with
    | .ok (a, s') => (.ok a, s')
    | .error e => (.error e, s)

/-! ### What settles -/

section Settles

variable {s s' : σ} {x : InPlace σ ε α} {y : α → InPlace σ ε β} {a : α} {b : β}

theorem run_bind (x : InPlace σ ε α) (y : α → InPlace σ ε β) (s : σ) :
    (x >>= y).run.run s =
      match x.run.run s with
      | (.ok a, s') => (y a).run.run s'
      | (.error e, s') => (.error e, s') := by
  simp only [bind, ExceptT.bind, ExceptT.mk, ExceptT.run, StateT.run, StateT.bind]
  cases x s with
  | mk outcome s' => cases outcome <;> rfl

theorem run_ask (question : σ → Except ε α) (s : σ) : (ask question).run.run s = (question s, s) := by
  show (MonadExcept.ofExcept (question s) : InPlace σ ε α).run.run s = _
  cases question s <;> rfl

theorem settles_pure (a : α) (s : σ) : Settles (pure a : InPlace σ ε α) s (.ok (a, s)) :=
  rfl

theorem settles_throw (e : ε) (s : σ) : Settles (throw e : InPlace σ ε α) s (.error e) :=
  rfl

theorem settles_modify (write : σ → σ) (s : σ) :
    Settles (modify write : InPlace σ ε PUnit) s (.ok (⟨⟩, write s)) :=
  rfl

theorem Settles.get_bind {y : σ → InPlace σ ε β} {result : Except ε (β × σ)}
    (h : Settles (y s) s result) : Settles (get >>= y) s result := by
  unfold Settles
  rw [run_bind]
  exact h

/-- A question writes nothing, so it may fail. -/
theorem Settles.ask_bind {question : σ → Except ε α} {next : α → Except ε (β × σ)}
    (h : ∀ a, question s = .ok a → Settles (y a) s (next a)) :
    Settles (ask question >>= y) s (question s >>= next) := by
  unfold Settles
  rw [run_bind, run_ask]
  cases hquestion : question s with
  | error e => rfl
  | ok a => exact h a hquestion

/-- Behind something that writes, all has to succeed. -/
theorem Settles.ok_bind {r : β × σ} (hx : Settles x s (.ok (a, s'))) (hy : Settles (y a) s' (.ok r)) :
    Settles (x >>= y) s (.ok r) := by
  unfold Settles at hx ⊢
  rw [run_bind, hx]
  exact hy

/-- Behind something that may fail too, all has to succeed. -/
theorem Settles.bind {γ : Type} {result : Except ε γ} {after : γ → σ} {next : γ → β × σ}
    (hx : Settles x s (result >>= fun c => .ok (a, after c)))
    (hy : ∀ c, result = .ok c → Settles (y a) (after c) (.ok (next c))) :
    Settles (x >>= y) s (result >>= fun c => .ok (next c)) := by
  unfold Settles at hx ⊢
  rw [run_bind, hx]
  cases result with
  | error e => rfl
  | ok c => exact hy c rfl

/-- A part that has written nothing of itself when it fails is back as it was. -/
theorem settles_within {part : τ} {put : τ → σ → σ} {toFault : ε' → ε} {x : InPlace τ ε' Unit}
    {result : Except ε' τ} (hx : Settles x part (result.map ((), ·))) (hput : put part s = s) :
    Settles (within part put toFault x) s
      (result.mapError toFault >>= fun part' => .ok ((), put part' s)) := by
  unfold Settles at hx ⊢
  rw [within, hx]
  cases result with
  | error e =>
    show (Except.error (toFault e), put part s) = _
    rw [hput]
    rfl
  | ok part' => rfl

end Settles

/-! ### The parts of a board -/

/-- Replace the image of a partition. -/
def writeImage (name : String) (image : ByteArray) : InPlace Storage BoardError Unit := do
  let storage ← get
  match storage.failWrites with
  | some message => throw (.failed message)
  | none =>
    match storage.find? name with
    | none => throw (.failed "partition does not exist")
    | some p =>
      if p.size.toNat < image.size then throw (.failed "too large for partition")
      else modify fun s => { s with images := s.images.insert name image }

/-- Take the image of a partition away. -/
def eraseImage (name : String) : InPlace Storage BoardError Unit := do
  match (← get).find? name with
  | none => throw (.failed "partition does not exist")
  | some _ => modify fun s => { s with images := s.images.erase name }

/-- Write the partition table anew. -/
def writeTable : InPlace Storage BoardError Unit := do
  if (← get).formattable then modify fun s => { s with tableWrites := s.tableWrites + 1 }
  else throw .unsupported

/-- Make a slot of the board the active one. -/
def activate (slot : Char) : InPlace Slots BoardError Unit := do
  if slot ∈ (← get).suffixes then modify fun s => { s with active := some slot }
  else throw (.failed "no such slot")

/-- Make the next boot stop in the bootloader. -/
def setRebootFlag : InPlace Platform BoardError Unit := do
  let platform ← get
  if !platform.hasRebootFlag then throw .unsupported
  else if platform.rebootFlagFails then throw (.failed "misc partition unavailable")
  else modify fun p => { p with actions := p.actions ++ [.setRebootFlag] }

/-- Keep a response. -/
def accept (response : ByteArray) : InPlace Attestation BoardError Unit := do
  if response.size = 0 then throw (.failed "empty response")
  else modify fun a => { a with responses := a.responses ++ [response] }

theorem settles_writeImage (name : String) (image : ByteArray) (s : Storage) :
    Settles (writeImage name image) s ((s.write name image).map ((), ·)) := by
  refine .get_bind ?_
  split
  · rename_i message hfail
    have hwrite : s.write name image = .error (.failed message) := by simp [Storage.write, hfail]
    exact hwrite ▸ settles_throw _ s
  rename_i hfail
  split
  · rename_i hfind
    have hwrite : s.write name image = .error (.failed "partition does not exist") := by
      simp [Storage.write, hfail, hfind]
    exact hwrite ▸ settles_throw _ s
  rename_i p hfind
  split_ifs with hlarge
  · have hwrite : s.write name image = .error (.failed "too large for partition") := by
      simp [Storage.write, hfail, hfind, hlarge]
    exact hwrite ▸ settles_throw _ s
  · have hwrite : s.write name image = .ok { s with images := s.images.insert name image } := by
      simp [Storage.write, hfail, hfind, hlarge]
    exact hwrite ▸ settles_modify _ s

theorem settles_eraseImage (name : String) (s : Storage) :
    Settles (eraseImage name) s ((s.erase name).map ((), ·)) := by
  refine .get_bind ?_
  cases hfind : s.find? name with
  | none =>
    have herase : s.erase name = .error (.failed "partition does not exist") := by
      simp [Storage.erase, hfind]
    exact herase ▸ settles_throw _ s
  | some p =>
    have herase : s.erase name = .ok { s with images := s.images.erase name } := by
      simp [Storage.erase, hfind]
    exact herase ▸ settles_modify _ s

theorem settles_writeTable (s : Storage) :
    Settles writeTable s (s.writeTable.map ((), ·)) := by
  refine .get_bind ?_
  unfold Storage.writeTable
  split_ifs
  · exact settles_modify _ s
  · exact settles_throw _ s

theorem settles_activate (slot : Char) (s : Slots) :
    Settles (activate slot) s ((s.setActive slot).map ((), ·)) := by
  refine .get_bind ?_
  unfold Slots.setActive
  split_ifs
  · exact settles_modify _ s
  · exact settles_throw _ s

theorem settles_setRebootFlag (p : Platform) :
    Settles setRebootFlag p (p.setRebootFlag.map ((), ·)) := by
  refine .get_bind ?_
  unfold Platform.setRebootFlag
  split_ifs
  · exact settles_throw _ p
  · exact settles_throw _ p
  · exact settles_modify _ p

theorem settles_accept (response : ByteArray) (a : Attestation) :
    Settles (accept response) a ((a.accept response).map ((), ·)) := by
  unfold accept Attestation.accept
  split_ifs
  · exact settles_throw _ a
  · exact settles_modify _ a

end InPlace

end Fastboot
