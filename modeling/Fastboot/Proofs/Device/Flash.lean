import Fastboot.Proofs.Command.Storage
import Fastboot.Proofs.Device.Milestone

/-!
# Flashing without an image

A flash writes as many bytes as were downloaded last, and it does not ask whether there are any. So
where nothing is staged, be it that nothing was downloaded or that the last download came to
nothing, a flash that gets through to its partition is answered by an `OKAY` and leaves an image of
no bytes (`flash_run`). It is refused only for what would stand in the way of any image.
`wiped_of_refused` is a run in which a download that was refused costs a partition its image.
-/

namespace Fastboot

/-- No download was completed, or the last one was refused, broke off or went with its session. -/
inductive Milestone.Unstaged (ms : List Milestone) : Prop where
  | never (h : .completed ∉ ms)
  | lost (earlier : List Milestone) (m : Milestone) (since : List Milestone)
      (hms : ms = earlier ++ m :: since) (hm : m ∈ [.refused, .aborted, .restarted])
      (hsince : .completed ∉ since)

namespace Milestone

variable {ms : List Milestone} {m : Milestone} {size : Nat}

theorem Held.completed_mem (h : Held ms size) : .completed ∈ ms := by
  obtain ⟨earlier, since, rfl, -⟩ := h
  simp

/-- What is unstaged is not held. -/
theorem Unstaged.not_held (h : Unstaged ms) (size : Nat) : ¬ Held ms size := by
  cases h with
  | never hnever => exact fun hheld => hnever hheld.completed_mem
  | lost earlier m since hms hm hsince =>
    have hkeeps : m.keeps = false ∧ m ≠ .completed := by
      simp only [List.mem_cons, List.not_mem_nil, or_false] at hm
      rcases hm with rfl | rfl | rfl <;> exact ⟨rfl, nofun⟩
    subst hms
    induction since using List.reverseRecOn with
    | nil =>
      rw [held_concat_iff]
      simp [hkeeps]
    | append_singleton since last ih =>
      rw [List.mem_append, not_or] at hsince
      rw [← List.cons_append, ← List.append_assoc, held_concat_iff]
      rintro (⟨-, hheld⟩ | ⟨rfl, -⟩)
      · exact ih hsince.1 hheld
      · exact hsince.2 (List.mem_singleton.mpr rfl)

end Milestone

/-- Nothing stands in the way of an image for a partition but, maybe, its size. -/
def Board.Flashable (b : Board) (name : String) : Prop :=
  ¬ b.Protected ∧ ∃ storage, b.flash? = some storage ∧ storage.failWrites = none ∧
    (storage.find? name).isSome

theorem Board.flashable_iff {b : Board} {name : String} : b.Flashable name ↔
    Command.requireUnlocked b = .ok () ∧
      b.flash?.any fun storage => storage.failWrites.isNone && (storage.find? name).isSome := by
  rw [Command.requireUnlocked_eq_ok_iff, Flashable]
  refine and_congr_right fun _ => ?_
  cases b.flash? <;> simp

instance (b : Board) (name : String) : Decidable (b.Flashable name) :=
  decidable_of_iff _ Board.flashable_iff.symm

/-- An image of no bytes fits every partition. -/
theorem Storage.exists_write_empty_iff {s : Storage} {name : String} :
    (∃ s', s.write name .empty = .ok s') ↔ s.failWrites = none ∧ (s.find? name).isSome := by
  unfold write
  cases s.failWrites <;> cases s.find? name <;> simp

/-- A write that is carried out has found a partition. -/
theorem Storage.of_write {s s' : Storage} {name : String} {image : ByteArray}
    (h : s.write name image = .ok s') : s.failWrites = none ∧ (s.find? name).isSome := by
  unfold write at h
  split at h
  · cases h
  split at h
  · cases h
  rename_i hworks _ _ hfound
  rw [hfound]
  exact ⟨hworks, rfl⟩

/-- Where no bytes were downloaded, no bytes are the data of the last download. -/
theorem Target.downloaded_of_zero {t : Target} (h : t.transfer.downloadBytes = 0) :
    t.downloaded = .ok .empty := by
  rw [downloaded, h]
  exact Command.mapError_eq_ok_iff.mpr Buffer.startsWith_empty

namespace Command

variable {command name : String} {t : Target}

theorem dispatch_flash (hverb : Verb.ofCommand? command = some .flash) (t : Target) :
    dispatch command t = match flash command t with
      | .ok result => result
      | .error fault => (.ofFault fault, t) := by
  simp only [dispatch, hverb, execute, Target.attempt]
  split <;> simp_all [replyOf]

/-- A flash without an image empties its partition, and leaves the others alone. -/
theorem dispatch_flash_of_zero (hverb : Verb.ofCommand? command = some .flash)
    (hzero : t.transfer.downloadBytes = 0) (hname : argument? command = some name)
    (hflashable : t.board.Flashable name) : (dispatch command t).1 = .okay ∧
      ∀ other, (dispatch command t).2.board.image? other =
        if other = name then some .empty else t.board.image? other := by
  obtain ⟨hunlocked, storage, hstorage, hworks⟩ := hflashable
  obtain ⟨storage', hwrite⟩ := Storage.exists_write_empty_iff.mpr hworks
  have hrun : flash command t =
      .ok (.okay, { t with board := { t.board with storage := some storage' } }) := by
    simp only [flash, bind_eq_ok_iff, flashOf, argument, require_eq_ok_iff, byBoard_eq_ok_iff]
    exact ⟨(), requireUnlocked_eq_ok_iff.mpr hunlocked, name, hname, storage, hstorage, .empty,
      Target.downloaded_of_zero hzero, storage', hwrite, rfl⟩
  rw [dispatch_flash hverb, hrun]
  refine ⟨rfl, fun other => ?_⟩
  have himage := Storage.image?_of_write hwrite other
  rw [Board.image?, Board.image?, storage_of_flash? hstorage]
  exact himage

/-- A flash that finds no partition to write to is refused, and changes nothing. -/
theorem dispatch_flash_of_not (hverb : Verb.ofCommand? command = some .flash)
    (hnot : ∀ name, argument? command = some name → ¬ t.board.Flashable name) :
    ∃ fault, dispatch command t = (.ofFault fault, t) := by
  rw [dispatch_flash hverb]
  cases hrun : flash command t with
  | error fault => exact ⟨fault, rfl⟩
  | ok result =>
    obtain ⟨-, hunlocked, name, image, storage, storage', hname, -, hstorage, hwrite, -⟩ :=
      flash_eq_ok hrun
    have hflashable : t.board.Flashable name :=
      ⟨requireUnlocked_eq_ok_iff.mp hunlocked, storage, hstorage, Storage.of_write hwrite⟩
    exact absurd hflashable (hnot name (require_eq_ok_iff.mp hname))

end Command

namespace Device

open Milestone (Unstaged)

variable {d : Device} {c : Call} {text : String} {t : Target}

/-- **A flash without an image.** Whatever a device has been through, if no download was completed
or the last one was refused, broke off or went with its session, a flash that nothing stands in the
way of is answered by an `OKAY` and leaves its partition with an image of no bytes. Any other flash
is refused. Either way the images of the other partitions are what they were, and if it is refused,
so is that of its own. -/
theorem flash_run {settings : Settings} {usb : Controller} {board : Board}
    (hbind : bind settings usb board = .ok d) (before : List Action)
    (hunstaged : Unstaged (d.milestones before))
    (hdispatched : (d.run before).dispatched? c = some (text, t))
    (hverb : Command.Verb.ofCommand? text = some .flash) :
    (∀ name, Command.argument? text = some name → (d.run before).board.Flashable name →
      (d.run before).offer? c = some (.reply .okay) ∧
        ∀ other, ((d.run before).call c).board.image? other =
          if other = name then some .empty else (d.run before).board.image? other) ∧
    ((∀ name, Command.argument? text = some name → ¬ (d.run before).board.Flashable name) →
      (∃ fault, (d.run before).offer? c = some (.reply (.ofFault fault))) ∧
        ∀ name, ((d.run before).call c).board.image? name =
          (d.run before).board.image? name) := by
  have hs := (sound_of_bind hbind).run before
  have haccounted := hs.accounted_of_consults (booked_of_bind hbind before) (.command hdispatched)
  -- the milestones leave no size for the count but zero
  have hzero : t.transfer.downloadBytes = 0 := by
    by_contra hne
    have hpos : 0 < t.transfer.downloadBytes.toNat :=
      Nat.pos_of_ne_zero fun hzero => hne (UInt32.toNat_inj.mp hzero)
    exact hunstaged.not_held _ ((haccounted.downloadBytes_iff _ hpos).mp rfl)
  obtain ⟨data, events, -, ht, -, -, htake⟩ := hs.exists_of_dispatched? hdispatched
  have hboard : t.board = (d.run before).board := by rw [ht]
  rw [offer?, board_call, htake, ← hboard]
  constructor
  · intro name hname hflashable
    obtain ⟨hokay, himages⟩ := Command.dispatch_flash_of_zero hverb hzero hname hflashable
    exact ⟨congrArg (some <| Offer.reply ·) hokay, himages⟩
  · intro hnot
    obtain ⟨fault, hrefused⟩ := Command.dispatch_flash_of_not hverb hnot
    rw [hrefused]
    exact ⟨⟨fault, rfl⟩, fun _ => rfl⟩

/-- A flash after a download that broke off. -/
theorem flash_run_broken :
    let before := [.call .enable, asks "download:00000008", .call (.received (.failed 5) .empty)]
    small.milestones before = [.restarted, .announced 8, .aborted] ∧
      (small.run before).board.image? "boot" = none ∧
      ((small.run before).call (.received .completed "flash:boot".toUTF8)).board.image? "boot" =
        some .empty := by
  intro before
  have hmilestones : small.milestones before = [.restarted, .announced 8, .aborted] := by
    decide +kernel
  have hunstaged : Unstaged (small.milestones before) := by
    rw [hmilestones]
    exact .lost [.restarted, .announced 8] .aborted [] rfl (by decide) List.not_mem_nil
  have hdispatched : (small.run before).dispatched? (.received .completed "flash:boot".toUTF8) =
      some ("flash:boot", _) :=
    dispatched?_eq (by decide +kernel) (by decide +kernel) (by decide +kernel) (by decide +kernel)
      rfl
  obtain ⟨hwipes, -⟩ := flash_run bind_small before hunstaged hdispatched (by decide +kernel)
  obtain ⟨-, himages⟩ := hwipes "boot" (by decide +kernel) (by decide +kernel)
  exact ⟨hmilestones, by decide +kernel, himages "boot"⟩

/-- **A download that was refused costs a partition its image.** The image was flashed from a
download that was completed, and a second flash is answered by an `OKAY` although there is nothing
to flash. -/
theorem wiped_of_refused : ∃ before,
    small.milestones before = [.restarted, .announced 8, .completed, .refused] ∧
      (small.run before).board.image? "boot" = some "abcdefgh".toUTF8 ∧
      (small.run before).offer? (.received .completed "flash:boot".toUTF8) =
        some (.reply .okay) ∧
      ((small.run before).call (.received .completed "flash:boot".toUTF8)).board.image? "boot" =
        some .empty :=
  ⟨smallDownload ++ [asks "flash:boot", asks "download:ffffffff"], by decide +kernel,
    by decide +kernel, by decide +kernel, by decide +kernel⟩

end Device

end Fastboot
