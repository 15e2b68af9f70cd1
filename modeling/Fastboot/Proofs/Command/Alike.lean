import Fastboot.Command.Execute
import Fastboot.Proofs.Buffer.Prefix

/-!
# Commands see no more of the staging buffer than was put there

Nothing ever clears the staging buffer. What keeps old contents from a command are two counters of the
exchange, and `Transfer.exposed` is how far they reach. `Target.Alike` relates two targets that agree on
everything but what lies behind that and on the events of the past. Every command answers both in the same
way and leaves them alike (`Command.alike_dispatch`).

A command that fails fails with the same fault on both sides; `Likewise` says so of any two results.
-/

namespace Fastboot

/-- How many bytes of the staging buffer an exchange gives access to: those downloaded, and those that an
upload would fetch. -/
def Transfer.exposed (t : Transfer) : Nat :=
  max t.downloadBytes.toNat t.uploadSize.toNat

/-- Two results that are related, or one and the same failure. -/
inductive Likewise {ε α β : Type} (R : α → β → Prop) : Except ε α → Except ε β → Prop where
  | error (e : ε) : Likewise R (.error e) (.error e)
  | ok {a : α} {b : β} (h : R a b) : Likewise R (.ok a) (.ok b)

section Likewise

variable {ε α β γ δ : Type} {R : α → β → Prop} {S : γ → δ → Prop}

theorem Likewise.bind {x : Except ε α} {y : Except ε β} {f : α → Except ε γ} {g : β → Except ε δ}
    (h : Likewise R x y) (hnext : ∀ a b, R a b → Likewise S (f a) (g b)) :
    Likewise S (x >>= f) (y >>= g) := by
  rcases h with e | hab
  · exact .error e
  · exact hnext _ _ hab

/-- What comes first is the same on both sides. -/
theorem likewise_bind_self {x : Except ε α} {f : α → Except ε γ} {g : α → Except ε δ}
    (hnext : ∀ a, Likewise S (f a) (g a)) : Likewise S (x >>= f) (x >>= g) := by
  rcases x with e | a
  · exact .error e
  · exact hnext a

end Likewise

namespace Target

/-- Two targets that agree on all that a command can see, and on the events since `seen` and `seen'`. -/
structure Alike (seen seen' : List Event) (t t' : Target) : Prop where
  settings_eq : t'.settings = t.settings
  board_eq : t'.board = t.board
  transfer_eq : t'.transfer = t.transfer
  staging : t.staging.Alike t'.staging t.transfer.exposed
  events_eq : ∃ new, t.events.toList = seen ++ new ∧ t'.events.toList = seen' ++ new

/-- The same result, with targets that are alike. -/
def AlikeWith {α : Type} (seen seen' : List Event) (x x' : α × Target) : Prop :=
  x'.1 = x.1 ∧ Alike seen seen' x.2 x'.2

namespace Alike

variable {seen seen' : List Event} {t t' : Target}

/-- Whatever the result is, it is the same one. -/
theorem answer {α : Type} (h : Alike seen seen' t t') (a : α) :
    AlikeWith seen seen' (a, t) (a, t') :=
  ⟨rfl, h⟩

/-- Only the staging buffer and the log may differ. -/
theorem exists_eq (h : Alike seen seen' t t') :
    ∃ staging events, t' = { t with staging, events } := by
  refine ⟨t'.staging, t'.events, ?_⟩
  rw [← h.settings_eq, ← h.board_eq, ← h.transfer_eq]

/-- What has been reported by now is past. -/
theorem rebase (h : Alike seen seen' t t') :
    Alike t.events.toList t'.events.toList t t' :=
  { h with events_eq := ⟨[], by simp⟩ }

/-! ### Changes that are the same on both sides -/

theorem withBoard (h : Alike seen seen' t t') (board : Board) :
    Alike seen seen' { t with board } { t' with board } :=
  { h with board_eq := rfl }

/-- The exchange may change as long as it exposes no more than before. -/
theorem withTransfer (h : Alike seen seen' t t') {transfer : Transfer}
    (hle : transfer.exposed ≤ t.transfer.exposed) :
    Alike seen seen' { t with transfer } { t' with transfer } :=
  { h with transfer_eq := rfl, staging := h.staging.mono hle }

theorem emit (h : Alike seen seen' t t') (e : Event) :
    Alike seen seen' (t.emit e) (t'.emit e) := by
  obtain ⟨new, hnew, hnew'⟩ := h.events_eq
  refine { h with events_eq := ⟨new ++ [e], ?_, ?_⟩ }
  · rw [toList_events_emit, hnew, List.append_assoc]
  · rw [toList_events_emit, hnew', List.append_assoc]

theorem reportMode (h : Alike seen seen' t t') (old : Mode) :
    Alike seen seen' (t.reportMode old) (t'.reportMode old) := by
  rw [Target.reportMode, Target.reportMode, h.transfer_eq]
  split_ifs
  · exact h
  · exact h.emit _

theorem transition (h : Alike seen seen' t t') {change : Transfer → Transfer}
    (hle : (change t.transfer).exposed ≤ t.transfer.exposed) :
    Alike seen seen' (t.transition change) (t'.transition change) := by
  rw [Target.transition, Target.transition, h.transfer_eq]
  exact (h.withTransfer hle).reportMode _

theorem progress (h : Alike seen seen' t t') (direction : Direction) (old new total : UInt32) :
    Alike seen seen' (t.progress direction old new total) (t'.progress direction old new total) := by
  have hmoved := h.emit (.progress direction new.toNat total.toNat)
  rw [Target.progress, Target.progress]
  rcases progressMark? old.toNat new.toNat with _ | lineBreak
  · exact hmoved
  · exact hmoved.emit (.mark lineBreak)

/-! ### What is read and written -/

/-- What was downloaded is exposed, so it is the same. -/
theorem downloaded_eq (h : Alike seen seen' t t') : t'.downloaded = t.downloaded := by
  have htake : t'.staging.take t.transfer.downloadBytes.toNat =
      t.staging.take t.transfer.downloadBytes.toNat :=
    h.staging.read_eq (by simp only [Transfer.exposed]; omega)
  rw [downloaded, downloaded, h.transfer_eq, htake]

/-- The staging buffers may change as long as they stay the same as far as is exposed. -/
theorem withStaging (h : Alike seen seen' t t') {staging staging' : Buffer} {n : Nat}
    (hstaging : staging.Alike staging' n) {transfer : Transfer} (hle : transfer.exposed ≤ n) :
    Alike seen seen' { t with staging, transfer } { t' with staging := staging', transfer } :=
  { h with transfer_eq := rfl, staging := hstaging.mono hle }

/-- Bytes may be staged at the end of what is exposed or before it: they are the same from then on. -/
theorem stage (h : Alike seen seen' t t') {offset : Nat} (bytes : ByteArray)
    (hle : offset ≤ t.transfer.exposed) :
    (∃ e, t.stage offset bytes = (.error e, t) ∧ t'.stage offset bytes = (.error e, t')) ∨
      ∃ staging staging', t.stage offset bytes = (.ok (), { t with staging }) ∧
        t'.stage offset bytes = (.ok (), { t' with staging := staging' }) ∧
        staging.Alike staging' (max t.transfer.exposed (offset + bytes.size)) := by
  rcases hw : t.staging.writeAt offset bytes with e | staging
  · exact .inl ⟨e, stage_eq_error_iff.mpr ⟨hw, rfl⟩,
      stage_eq_error_iff.mpr ⟨h.staging.writeAt_eq_error hw, rfl⟩⟩
  · obtain ⟨staging', hw', halike⟩ := h.staging.writeAt hle hw
    exact .inr ⟨staging, staging', stage_eq_ok_iff.mpr ⟨staging, hw, rfl⟩,
      stage_eq_ok_iff.mpr ⟨staging', hw', rfl⟩, halike⟩

end Alike

end Target

namespace Command

open Target

variable {seen seen' : List Event} {t t' : Target}

/-! ### Commands that work on the board -/

theorem likewise_reboot (h : Alike seen seen' t t') (command : String) :
    Likewise (AlikeWith seen seen') (reboot command t) (reboot command t') := by
  rw [reboot, reboot, h.board_eq]
  split_ifs
  · rcases t.board.platform.setRebootFlag with e | platform
    · exact .error _
    · exact .ok ((h.withBoard _).answer _)
  · exact .ok (h.answer _)

theorem likewise_setActive (h : Alike seen seen' t t') (command : String) :
    Likewise (AlikeWith seen seen') (setActive command t) (setActive command t') := by
  rw [setActive, setActive, h.board_eq]
  refine likewise_bind_self fun name => likewise_bind_self fun slots => ?_
  exact likewise_bind_self fun slot => likewise_bind_self fun slots => .ok ((h.withBoard _).answer _)

theorem likewise_flashing (h : Alike seen seen' t t') (command : String) :
    Likewise (AlikeWith seen seen') (flashing command t) (flashing command t') := by
  rw [flashing, flashing, h.board_eq]
  refine likewise_bind_self fun request => likewise_bind_self fun state => ?_
  exact likewise_bind_self fun lock => .ok ((h.withBoard _).answer _)

theorem likewise_erase (h : Alike seen seen' t t') (command : String) :
    Likewise (AlikeWith seen seen') (erase command t) (erase command t') := by
  rw [erase, erase, h.board_eq]
  refine likewise_bind_self fun name => likewise_bind_self fun storage => ?_
  exact likewise_bind_self fun storage => .ok ((h.withBoard _).answer _)

/-- The image is what was downloaded. -/
theorem likewise_flash (h : Alike seen seen' t t') (command : String) :
    Likewise (AlikeWith seen seen') (flash command t) (flash command t') := by
  rw [flash, flash, h.board_eq, h.downloaded_eq]
  refine likewise_bind_self fun _ => likewise_bind_self fun name => ?_
  refine likewise_bind_self fun storage => likewise_bind_self fun image => ?_
  exact likewise_bind_self fun storage => .ok ((h.withBoard _).answer _)

/-! ### Variables -/

/-- No variable shows more of the staging buffer than its capacity. -/
theorem value_eq_of_alike (h : Alike seen seen' t t') (v : Variable) : v.value t' = v.value t := by
  have hcapacity := h.staging.capacity_eq
  obtain ⟨staging, events, rfl⟩ := h.exists_eq
  cases v with
  | maxDownloadSize =>
    show Except.ok ("0x" ++ Text.hex 8 staging.capacity) = _
    rw [show staging.capacity = t.staging.capacity from hcapacity]
    rfl
  | _ => rfl

theorem alike_afterRead (h : Alike seen seen' t t') (v : Variable) :
    Alike seen seen' (v.afterRead t) (v.afterRead t') := by
  obtain ⟨staging', events', rfl⟩ := h.exists_eq
  cases v with
  | slotRetryCount name =>
    simp only [Variable.afterRead]
    rcases knownSlot t.board name with _ | slot
    · exact h
    · exact h.withTransfer (Nat.le_refl (t.transfer.countRetry slot).exposed)
  | _ => exact h

theorem likewise_getvar (h : Alike seen seen' t t') (command : String) :
    Likewise (AlikeWith seen seen') (getvar command t) (getvar command t') := by
  simp only [getvar, value_eq_of_alike h]
  refine likewise_bind_self fun name => ?_
  refine likewise_bind_self fun value => likewise_bind_self fun _ => ?_
  exact .ok ((alike_afterRead h _).answer _)

/-! ### Vendor commands -/

/-- The request is made from what was downloaded, and an upload will fetch it and no more. -/
theorem likewise_getCaRequest (h : Alike seen seen' t t') :
    Likewise (Alike seen seen') (getCaRequest t) (getCaRequest t') := by
  have hdownloaded := h.downloaded_eq
  obtain ⟨staging', events', rfl⟩ := h.exists_eq
  rw [getCaRequest, getCaRequest, hdownloaded]
  refine likewise_bind_self fun attestation => likewise_bind_self fun operation => ?_
  refine likewise_bind_self fun request => ?_
  split_ifs with hsize
  · exact .error _
  · rcases hw : t.staging.writeAt 0 request with e | staging
    · have hw' : staging'.writeAt 0 request = .error e := h.staging.writeAt_eq_error hw
      rw [hw']
      exact .error _
    · obtain ⟨staging₁, hw', hstaging⟩ := h.staging.writeAt (Nat.zero_le _) hw
      have hrequest : (UInt32.ofNat request.size).toNat ≤ request.size := Nat.mod_le _ _
      rw [show staging'.writeAt 0 request = .ok staging₁ from hw']
      refine .ok (h.withStaging hstaging ?_)
      simp only [Transfer.exposed]
      omega

theorem likewise_run (h : Alike seen seen' t t') (request : VendorRequest) :
    Likewise (Alike seen seen') (request.run t) (request.run t') := by
  cases request with
  | getCaRequest => exact likewise_getCaRequest h
  | unlock => exact .error _
  | setCaResponse =>
    simp only [VendorRequest.run, setCaResponse, h.board_eq, h.downloaded_eq]
    refine likewise_bind_self fun attestation => likewise_bind_self fun response => ?_
    exact likewise_bind_self fun attestation => .ok (h.withBoard _)
  | fuseAttributes =>
    simp only [VendorRequest.run, fuseAttributes, h.board_eq, h.downloaded_eq]
    refine likewise_bind_self fun lock => likewise_bind_self fun payload => ?_
    split_ifs
    · exact .error _
    · simp only [withLock, h.board_eq]
      exact .ok (h.withBoard _)
  | fuseKey =>
    simp only [VendorRequest.run, fuseKey, h.board_eq, h.downloaded_eq]
    refine likewise_bind_self fun lock => likewise_bind_self fun payload => ?_
    split_ifs
    · exact .error _
    · simp only [withLock, h.board_eq]
      exact .ok (h.withBoard _)
  | format =>
    simp only [VendorRequest.run, h.board_eq]
    refine likewise_bind_self fun storage => ?_
    exact likewise_bind_self fun storage => .ok (h.withBoard _)
  | lockBoot | disableUnlockBoot =>
    simp only [VendorRequest.run, withLock, h.board_eq]
    exact likewise_bind_self fun lock => .ok (h.withBoard _)
  | unlockBoot =>
    simp only [VendorRequest.run, withLock, h.board_eq]
    refine likewise_bind_self fun lock => likewise_bind_self fun state => ?_
    split_ifs
    · exact .error _
    · exact .ok (h.withBoard _)

theorem likewise_oem (h : Alike seen seen' t t') (command : String) :
    Likewise (AlikeWith seen seen') (oem command t) (oem command t') := by
  rw [oem, oem]
  refine likewise_bind_self fun request => ?_
  exact (likewise_run h request).bind fun _ _ hrun => .ok (hrun.answer _)

/-! ### Data phases -/

theorem likewise_upload (h : Alike seen seen' t t') :
    Likewise (AlikeWith seen seen') (upload t) (upload t') := by
  rw [upload, upload, h.transfer_eq]
  split_ifs
  · exact .error _
  · exact .ok ((h.transition (Nat.le_refl _)).answer _)

/-- A download exposes nothing before its data has come. -/
theorem alike_download (h : Alike seen seen' t t') (command : String) :
    AlikeWith seen seen' (download command t) (download command t') := by
  have hdrop : Alike seen seen' (dropData t) (dropData t') := by
    rw [dropData, dropData, h.transfer_eq]
    exact h.withTransfer (by simp [Transfer.exposed])
  rw [download, download]
  simp only [hdrop.staging.capacity_eq]
  split_ifs
  · exact hdrop.answer _
  · rcases (announcedSize? command).filter (· ≤ (dropData t).staging.capacity) with _ | n
    · simp only [hdrop.transfer_eq]
      refine (hdrop.withTransfer ?_).answer _
      exact Nat.le_refl (dropData t).transfer.exposed
    · exact (hdrop.transition (Nat.le_refl _)).answer _

/-! ### All commands -/

theorem alike_attempt {run : Target → Except Fault (Reply × Target)} (h : Alike seen seen' t t')
    (hrun : Likewise (AlikeWith seen seen') (run t) (run t')) :
    AlikeWith seen seen' (t.attempt run) (t'.attempt run) := by
  rw [attempt, attempt]
  generalize run t = x, run t' = x' at hrun
  rcases hrun with fault | ⟨hreply, htarget⟩
  · exact h.answer _
  · exact ⟨congrArg Except.ok hreply, htarget⟩

theorem alike_execute (h : Alike seen seen' t t') (verb : Verb) (command : String) :
    AlikeWith seen seen' (execute verb command t) (execute verb command t') := by
  rw [execute.eq_def, execute.eq_def]
  cases verb with
  | download => exact alike_download h command
  | boot => exact h.answer _
  | continueBoot => exact h.answer _
  | reboot => exact alike_attempt h (likewise_reboot h command)
  | getvar => exact alike_attempt h (likewise_getvar h command)
  | upload => exact alike_attempt h (likewise_upload h)
  | setActive => exact alike_attempt h (likewise_setActive h command)
  | flashing => exact alike_attempt h (likewise_flashing h command)
  | flash => exact alike_attempt h (likewise_flash h command)
  | erase => exact alike_attempt h (likewise_erase h command)
  | oem => exact alike_attempt h (likewise_oem h command)

/-- **Every command takes targets that are alike for the same.** It answers both in the same way, and leaves
them alike. -/
theorem alike_dispatch (h : Alike seen seen' t t') (command : String) :
    AlikeWith seen seen' (dispatch command t) (dispatch command t') := by
  rw [dispatch, dispatch]
  rcases Verb.ofCommand? command with _ | verb
  · exact h.answer _
  · obtain ⟨houtcome, htarget⟩ := alike_execute h verb command
    exact ⟨congrArg replyOf houtcome, htarget⟩

end Command

end Fastboot
