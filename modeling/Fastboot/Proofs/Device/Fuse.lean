import Fastboot.Proofs.Command.Fuse
import Fastboot.Proofs.Device.BootLock
import Fastboot.Proofs.Device.Milestone

/-!
# The fuses over a run

What is burnt in cannot be mended, so the parts of it must not come apart: the permanent attributes, the
digest behind them and the mark that they are there are burnt in by one command, and stem from one
download.

`d.burnt fuse actions` lists what has been burnt in over a run, each time the data of the last download
as it was staged when the command came in. The last of it is what is there (`fused_run`), and there is
nothing where nothing was burnt in.
-/

namespace Fastboot.Device

open Board (Burns burns_none)

variable {d d' : Device} {c : Call} {a : Action} {actions : List Action} {offer : Option Offer}

/-- What a call burns in, as the frame that is offered for it tells. -/
def burns? (d : Device) (c : Call) (offer : Option Offer) (fuse : Fuse) : Option ByteArray :=
  match d.dispatched? c, offer with
  | some (text, t), some (.reply reply) => Command.burnt text t reply fuse
  | _, _ => none

/-- What an action of a run burns in. -/
def burn? (d : Device) (fuse : Fuse) : Action → Option ByteArray
  | .call c => d.burns? c (d.offer? c) fuse
  | .world _ _ => none

/-- What is burnt in over a run, the first payload first. -/
def burnt (d : Device) (fuse : Fuse) : List Action → List ByteArray
  | [] => []
  | a :: actions => (d.burn? fuse a).toList ++ (d.act a).burnt fuse actions

/-- The world outside the device may do to its board what it likes, but it leaves the fuses alone. -/
def Action.KeepsFuses : Action → Prop
  | .call _ => True
  | .world _ board => ∀ b, Burns (fun _ => none) b (board b)

/-! ### The step -/

theorem burns?_eq_none (h : d.dispatched? c = none) : d.burns? c offer = fun _ => none := by
  funext fuse
  simp only [burns?, h]

/-- Where no command is carried out, the lock is left alone. -/
theorem Taking.lock_eq (ht : Taking d c d' offer) (h : d.dispatched? c = none) :
    d'.board.lock = d.board.lock := by
  cases ht with
  | restart => rfl
  | ignored => rfl
  | sent _ hp =>
    obtain ⟨platform, hboard⟩ := hp.board_eq
    rw [hboard]
  | received henabled hr =>
    cases hr with
    | command text reply target events hmode hsize htext hrun hevents =>
      cases h.symm.trans (dispatched?_eq henabled hmode hsize htext hevents)
    | _ => rfl

/-- A call burns in what it has to, or nothing. -/
theorem Sound.burns_call (h : d.Sound none) (c : Call) :
    Burns (d.burns? c (d.offer? c)) d.board (d.call c).board := by
  rw [board_call]
  cases hdispatched : d.dispatched? c with
  | none =>
    rw [burns?_eq_none hdispatched]
    exact burns_none ((taking_take h c).lock_eq hdispatched)
  | some command =>
    obtain ⟨text, t⟩ := command
    obtain ⟨data, events, -, ht, -, -, htake⟩ := h.exists_of_dispatched? hdispatched
    have hboard : t.board = d.board := by rw [ht]
    have hburnt : d.burns? c (d.offer? c) = Command.burnt text t (Command.dispatch text t).1 := by
      funext fuse
      simp only [burns?, hdispatched, offer?, htake]
    rw [hburnt, htake, ← hboard]
    exact Command.burns_dispatch text t

theorem Sound.burns_act (h : d.Sound none) (hkeeps : a.KeepsFuses) :
    Burns (fun fuse => d.burn? fuse a) d.board (d.act a).board := by
  cases a with
  | call c => exact h.burns_call c
  | world usb board => exact hkeeps d.board

/-! ### The run -/

theorem burnt_append (d : Device) (fuse : Fuse) (before after : List Action) :
    d.burnt fuse (before ++ after) = d.burnt fuse before ++ (d.run before).burnt fuse after := by
  induction before generalizing d with
  | nil => rfl
  | cons a before ih => rw [List.cons_append, burnt, ih, run_cons, burnt, List.append_assoc]

/-- What was burnt in last is what the action has burnt in, or what was there before if it has not. -/
theorem getLast?_burnt_concat (d : Device) (fuse : Fuse) (actions : List Action) (a : Action) :
    (d.burnt fuse (actions ++ [a])).getLast? =
      ((d.run actions).burn? fuse a).or (d.burnt fuse actions).getLast? := by
  rw [burnt_append, burnt, burnt, List.append_nil, List.getLast?_append]
  cases (d.run actions).burn? fuse a <;> rfl

/-- What was burnt in last is what is there. -/
theorem Sound.holds_run {lock : Lock} (h : d.Sound none) (hlock : d.board.lock = some lock)
    (hblank : ∀ fuse, lock.Holds fuse none) (hkeeps : ∀ a ∈ actions, a.KeepsFuses) :
    ∃ lock', (d.run actions).board.lock = some lock' ∧
      ∀ fuse, lock'.Holds fuse (d.burnt fuse actions).getLast? := by
  induction actions using List.reverseRecOn with
  | nil => exact ⟨lock, hlock, hblank⟩
  | append_singleton actions a ih =>
    obtain ⟨middle, hmiddle, hholds⟩ := ih fun b hb => hkeeps b (List.mem_append_left [a] hb)
    obtain ⟨lock', hlock', hburns⟩ :=
      (h.run actions).burns_act (hkeeps a (by simp)) middle hmiddle
    rw [run_append, run_cons, run_nil]
    refine ⟨lock', hlock', fun fuse => ?_⟩
    rw [getLast?_burnt_concat]
    exact hburns.holds_or (hholds fuse)

/-- **What is burnt in is what was downloaded for it, or nothing.** If nothing was burnt into the lock
of a board when it was bound, then after any run the attributes, their digest and their mark are either
all there or all absent, and so is the digest of the key. What is there is the payload that was burnt in
last, to the last byte. No call but one that burns something in changes any of it. -/
theorem fused_run {settings : Settings} {usb : Controller} {board : Board} {lock : Lock}
    (hbind : bind settings usb board = .ok d) (hlock : board.lock = some lock)
    (hblank : ∀ fuse, lock.Holds fuse none) (hkeeps : ∀ a ∈ actions, a.KeepsFuses) :
    ∃ lock', (d.run actions).board.lock = some lock' ∧
      (∀ fuse, lock'.Holds fuse (d.burnt fuse actions).getLast?) ∧
      ∀ c, ∃ next, ((d.run actions).call c).board.lock = some next ∧
        ∀ fuse, (d.run actions).burn? fuse (.call c) = none → lock'.Agrees next fuse := by
  have hs := sound_of_bind hbind
  have hboard : d.board = board := by
    obtain ⟨-, rfl⟩ := bind_eq_ok_iff.mp hbind
    rfl
  obtain ⟨lock', hlock', hholds⟩ := hs.holds_run (hboard ▸ hlock) hblank hkeeps
  refine ⟨lock', hlock', hholds, fun c => ?_⟩
  obtain ⟨next, hnext, hburns⟩ := (hs.run actions).burns_call c lock' hlock'
  exact ⟨next, hnext, fun fuse hnone => hburns.agrees hnone⟩

/-- A session in which a key is downloaded and burnt in. -/
def keying : List Action :=
  [.call .enable, asks "download:00000020", asks "0123456789abcdef0123456789abcdef",
    asks "oem fuse at-bootloader-vboot-key"]

/-- The key is burnt in, and nothing else. -/
theorem fused_run_key : ∃ lock, (guarded.run keying).board.lock = some lock ∧
    lock.Holds .key (some "0123456789abcdef0123456789abcdef".toUTF8) ∧
    lock.Holds .attributes none := by
  have hburnt : guarded.burnt .key keying = ["0123456789abcdef0123456789abcdef".toUTF8] ∧
      guarded.burnt .attributes keying = [] := by
    decide +kernel
  have hblank : ∀ fuse, ({} : Lock).Holds fuse none
    | .attributes => .noAttributes rfl rfl rfl
    | .key => .noKey rfl
  have hkeeps : ∀ a ∈ keying, a.KeepsFuses := by
    simp only [keying, List.forall_mem_cons]
    exact ⟨trivial, trivial, trivial, trivial, nofun⟩
  obtain ⟨lock, hlock, hholds, -⟩ := fused_run bind_guarded rfl hblank hkeeps
  refine ⟨lock, hlock, ?_, ?_⟩
  · have hkey := hholds .key
    rwa [hburnt.1] at hkey
  · have hattributes := hholds .attributes
    rwa [hburnt.2] at hattributes

end Fastboot.Device
