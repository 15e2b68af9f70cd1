import Fastboot.Proofs.Command.Storage
import Fastboot.Proofs.Device.Board
import Mathlib.Data.List.Induction

/-!
# The storage over a run

The lock of the storage is there to keep the partitions as they are. A flash asks for it, and an erase and
`oem format` do not.

`d.carriedOut actions` lists what commands have asked of the storage in a run and got. On a board that is
protected, and while no command unlocks it, no flash is in that list (`protected_run`): an image is what it
was unless its partition has been erased, and the partition table has been written anew once for each
format. `not_kept_of_protected` is a run of both over a locked board.
-/

namespace Fastboot.Device

open Board (Carries)

variable {d d' : Device} {c : Call} {a : Action} {actions : List Action} {offer : Option Offer}
  {b : Board}

/-- What a call has asked of the storage and got, as the frame that was offered for it tells. -/
def carriedOut? (d : Device) (c : Call) (offer : Option Offer) : Option StorageRequest :=
  match c, offer with
  | .received .completed data, some (.reply reply) =>
    if d.transfer.mode = .downloading then none
    else (commandText? data).bind (Command.carriedOut? · reply)
  | _, _ => none

/-- What the commands of a run have asked of the storage and got, the first one first. -/
def carriedOut (d : Device) : List Action → List StorageRequest
  | [] => []
  | .call c :: actions => (d.carriedOut? c (d.offer? c)).toList ++ (d.call c).carriedOut actions
  | .world usb board :: actions => (d.act (.world usb board)).carriedOut actions

/-- The world outside the device may do to its board what it likes, but it keeps its hands off the images
and the partition table, and it does not unlock the storage. -/
def Action.KeepsStorage : Action → Prop
  | .call _ => True
  | .world _ board => ∀ b, (∀ name, (board b).image? name = b.image? name) ∧
      (board b).tableWrites = b.tableWrites ∧ (b.Protected → (board b).Protected)

/-! ### The step -/

/-- A call does to the storage what it was to do, or leaves it alone. -/
theorem Deed.carries (h : Deed d c offer b) : Carries d.board (d.carriedOut? c offer) b := by
  cases h with
  | command hmode htext hboard h =>
    rw [carriedOut?, if_neg hmode, htext, Option.bind_some, ← hboard]
    exact h.carries
  | other hoffer =>
    have hnone : d.carriedOut? c offer = none := by
      unfold carriedOut?
      split
      · rcases hoffer _ _ rfl rfl with hmode | ⟨fault, rfl⟩
        · exact if_pos hmode
        · simp
      · rfl
    rw [hnone]
    exact .other rfl rfl

/-! ### The run -/

/-- What a run has made of a protected storage, by what commands have asked of it and got. -/
structure Kept (d : Device) (asked : List StorageRequest) (d' : Device) : Prop where
  stays : d'.board.Protected
  not_write (name : String) : .write name ∉ asked
  image?_eq (name : String) :
    d'.board.image? name = if .erase name ∈ asked then none else d.board.image? name
  tableWrites_eq : d'.board.tableWrites = d.board.tableWrites + asked.count .format

/-- What is asked first is done first. -/
theorem Kept.trans {e : Device} {asked asked' : List StorageRequest} (h : d.Kept asked d')
    (h' : d'.Kept asked' e) : d.Kept (asked ++ asked') e where
  stays := h'.stays
  not_write name hwrite := (List.mem_append.mp hwrite).elim (h.not_write name) (h'.not_write name)
  image?_eq name := by
    rw [h'.image?_eq, h.image?_eq]
    by_cases herase : .erase name ∈ asked' <;> simp [herase]
  tableWrites_eq := by
    rw [h'.tableWrites_eq, h.tableWrites_eq, List.count_append, Nat.add_assoc]

/-- A call over a protected board that does not unlock it. -/
theorem Sound.kept_call (h : d.Sound none) (hprotected : d.board.Protected)
    (hasked : d.carriedOut? c (d.offer? c) ≠ some (.lock .unlocked)) :
    d.Kept (d.carriedOut? c (d.offer? c)).toList (d.call c) := by
  have hcarries := (h.deed_call c).carries
  exact {
    stays := hcarries.protected_of_ne hprotected hasked
    not_write := fun name hwrite =>
      hcarries.ne_write hprotected name (Option.mem_toList.mp hwrite)
    image?_eq := fun name => by
      simpa only [Option.mem_toList, Option.mem_def] using hcarries.image?_eq hprotected name
    tableWrites_eq := by
      rw [hcarries.tableWrites_eq]
      cases d.carriedOut? c (d.offer? c) with
      | none => rfl
      | some request => simp [List.count_singleton] }

theorem Sound.kept_run (h : d.Sound none) (hprotected : d.board.Protected)
    (hkeeps : ∀ a ∈ actions, a.KeepsStorage) (hnever : .lock .unlocked ∉ d.carriedOut actions) :
    d.Kept (d.carriedOut actions) (d.run actions) := by
  induction actions generalizing d with
  | nil => exact ⟨hprotected, nofun, fun _ => rfl, rfl⟩
  | cons a actions ih =>
    have hkeeps' : ∀ b ∈ actions, b.KeepsStorage := fun b hb =>
      hkeeps b (List.mem_cons_of_mem a hb)
    cases a with
    | call c =>
      rw [carriedOut, List.mem_append, not_or, Option.mem_toList] at hnever
      have hfirst := h.kept_call hprotected hnever.1
      exact hfirst.trans (ih (h.call c) hfirst.stays hkeeps' hnever.2)
    | world usb board =>
      obtain ⟨himages, hwrites, hstays⟩ := hkeeps _ List.mem_cons_self d.board
      have hfirst : d.Kept [] (d.act (.world usb board)) :=
        ⟨hstays hprotected, nofun, fun name => himages name, hwrites⟩
      exact hfirst.trans (ih (h.act _) hfirst.stays hkeeps' hnever)

/-- **What becomes of a protected storage.** While no command unlocks it, in any run, it stays protected
and nothing is flashed. An image is gone if its partition was erased, and is what it was otherwise; the
partition table has been written anew as often as a format was carried out. So images and table are kept
where no erase and no format is. -/
theorem protected_run {settings : Settings} {usb : Controller} {board : Board}
    (hbind : bind settings usb board = .ok d) (hprotected : board.Protected)
    (hkeeps : ∀ a ∈ actions, a.KeepsStorage) (hnever : .lock .unlocked ∉ d.carriedOut actions) :
    (d.run actions).board.Protected ∧
      (∀ name, .write name ∉ d.carriedOut actions) ∧
      (∀ name, (d.run actions).board.image? name =
        if .erase name ∈ d.carriedOut actions then none else board.image? name) ∧
      (d.run actions).board.tableWrites =
        board.tableWrites + (d.carriedOut actions).count .format := by
  have hboard : d.board = board := by
    obtain ⟨-, rfl⟩ := bind_eq_ok_iff.mp hbind
    rfl
  subst hboard
  have hkept := (sound_of_bind hbind).kept_run hprotected hkeeps hnever
  exact ⟨hkept.stays, hkept.not_write, hkept.image?_eq, hkept.tableWrites_eq⟩

/-- A board whose storage is locked, with an image of one of its partitions. -/
def lockedBoard : Board where
  storage := some
    { (Storage.addPartition {} "boot" 16 "raw") with
      images := .insert .empty "boot" "kernel".toUTF8 }
  lock := some { flash := .locked }

/-- A device with that board. -/
def locked : Device where
  toTarget := .start {} lockedBoard
  usb := {}

theorem bind_locked : bind {} {} lockedBoard = .ok locked :=
  bind_eq_ok_iff.mpr ⟨Settings.valid_default, rfl⟩

theorem protected_lockedBoard : lockedBoard.Protected :=
  ⟨.ok .locked, rfl, nofun⟩

/-- A session in which an image is downloaded, and everything is tried with it but to unlock. -/
def attempts : List Action :=
  [.call .enable, asks "download:00000004", asks "evil", asks "flash:boot", asks "flashing lock",
    asks "flash:boot", asks "getvar:product"]

/-- A locked device refuses to be flashed, and keeps its image. -/
theorem protected_run_attempts : .lock .unlocked ∉ locked.carriedOut attempts ∧
    (locked.run attempts).board.image? "boot" = some "kernel".toUTF8 ∧
    (locked.run attempts).board.tableWrites = 0 := by
  have hcarried : locked.carriedOut attempts = [.lock .locked] := by decide +kernel
  have hnever : .lock .unlocked ∉ locked.carriedOut attempts := by
    rw [hcarried]
    decide
  have hkeeps : ∀ a ∈ attempts, a.KeepsStorage := by
    simp only [attempts, List.forall_mem_cons]
    exact ⟨trivial, trivial, trivial, trivial, trivial, trivial, trivial, nofun⟩
  obtain ⟨-, -, himage, hwrites⟩ := protected_run bind_locked protected_lockedBoard hkeeps hnever
  rw [hcarried] at himage hwrites
  exact ⟨hnever, himage "boot", hwrites⟩

/-- A session in which a partition is to be erased, and the partition table to be written anew. -/
def wiping : List Action :=
  [.call .enable, asks "erase:boot", asks "oem format"]

/-- **A locked device that does not keep its storage.** It was locked from the start and is to the end,
and yet the image is gone and the partition table has been written anew. -/
theorem not_kept_of_protected : locked.board.Protected ∧ (locked.run wiping).board.Protected ∧
    locked.board.image? "boot" = some "kernel".toUTF8 ∧ locked.board.tableWrites = 0 ∧
    (locked.run wiping).board.image? "boot" = none ∧
    (locked.run wiping).board.tableWrites = 1 := by
  have hstate : (locked.run wiping).board.flashState? = some (.ok .locked) := by decide +kernel
  exact ⟨protected_lockedBoard, ⟨_, hstate, nofun⟩, by decide +kernel, rfl, by decide +kernel,
    by decide +kernel⟩

end Fastboot.Device
