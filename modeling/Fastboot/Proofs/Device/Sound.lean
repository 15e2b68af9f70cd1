import Fastboot.Proofs.Device.Step

/-!
# Soundness is kept

Whatever a completion comes to, it leaves a sound device behind: with a frame on offer after
`Device.receive` and `Device.proceed`, without one when `Device.hand` has given it to the controller.
Commands are the one place where new sizes come in, and `Outcome.consistent` bounds them by the
capacity of the staging buffer.
-/

namespace Fastboot

namespace Command

variable {command : String} {t t' : Target} {reply : Reply} {capacity : Nat}

/-- No command changes the settings. -/
theorem Outcome.settings_eq (h : Outcome command t reply t') : t'.settings = t.settings := by
  cases h with
  | download => simp [dropData]
  | upload => simp
  | _ => rfl

/-- The staging buffer may change, its capacity does not. -/
theorem Outcome.capacity_staging (h : Outcome command t reply t') :
    t'.staging.capacity = t.staging.capacity := by
  cases h with
  | download => simp [dropData]
  | upload => simp
  | request _ _ _ _ _ hstaging => exact Buffer.capacity_of_writeAt hstaging
  | _ => rfl

/-- Commands keep the counters of an idle exchange consistent. -/
theorem Outcome.consistent (h : Outcome command t reply t') (hmode : t.transfer.mode = .idle)
    (hcapacity : t.staging.capacity = capacity) (hlt : capacity < UInt32.size)
    (ht : t.transfer.Consistent capacity) : t'.transfer.Consistent capacity := by
  have hstart := ht.startUpload_eq (by simp [hmode])
  have hdownload := ht.downloadSize_eq (by simp [hmode])
  cases h with
  | answer => exact ht.follow _ _ _
  | exit => exact ht
  | refuse _ downloadSize _ hsize =>
    have hzero : downloadSize = 0 := hsize.elim id fun hsame => hsame.trans hdownload
    exact Transfer.consistent_of_idle hmode hzero rfl hstart (Nat.zero_le _) (Nat.zero_le _)
  | download size _ hpos hle =>
    exact Transfer.consistent_of_announced hlt (by simp) (by simpa [dropData] using hstart)
      (by simp [dropData]) (by simp) (by simp [dropData]) (by simp [dropData]) hpos
      (hcapacity ▸ hle)
  | upload _ hpos =>
    rw [Target.transfer_transition]
    exact ht.serve hmode hpos
  | request operation staging _ _ hsize hstaging =>
    -- the request lies in the staging buffer, so its size is bounded by the capacity
    have hfits := Buffer.exists_writeAt_eq_ok_iff.mp ⟨staging, hstaging⟩
    have hupload : (UInt32.ofNat (Attestation.requestMark ++ operation).size).toNat =
        (Attestation.requestMark ++ operation).size := UInt32.toNat_ofNat_of_lt' hsize
    exact Transfer.consistent_of_idle hmode hdownload rfl hstart ht.downloadBytes_le
      (show (UInt32.ofNat (Attestation.requestMark ++ operation).size).toNat ≤ capacity by omega)

/-- Only an upload leads on to a chunk. -/
theorem Outcome.mode_eq (h : Outcome command t reply t')
    (hnext : (Device.Offer.reply reply).next = .uploadChunk) : t'.transfer.mode = .uploading := by
  have hreply := Device.Offer.next_of_reply hnext nofun
  cases h with
  | upload => simp
  | _ => cases hreply

/-- Only a command that asks for an action is answered by its acknowledgement, and the exchange is left
as it was. -/
theorem Outcome.exit_of_next {action : Exit} (h : Outcome command t reply t')
    (hnext : (Device.Offer.reply reply).next = .exit action) :
    reply = .exit action ∧ t'.transfer = t.transfer ∧
      ∃ verb, Verb.ofCommand? command = some verb ∧ verb.exit? = some action := by
  have hreply := Device.Offer.next_of_reply hnext nofun
  cases h with
  | exit verb action' _ hverb haction =>
    cases hreply
    exact ⟨rfl, rfl, verb, hverb, haction⟩
  | _ => cases hreply

end Command

namespace Device

variable {d d' : Device} {data : ByteArray} {actual : Nat} {status : TransferStatus}
  {offer : Option Offer}

/-- No transfer changes the settings. -/
theorem Reception.settings_eq (hr : Reception d data status d' offer) :
    d'.settings = d.settings := by
  cases hr with
  | command text reply target events _ _ _ hrun =>
    have houtcome := Command.outcome_dispatch text
      { d.toTarget with transfer := d.transfer.interrupted, events }
    rw [hrun] at houtcome
    exact houtcome.settings_eq
  | _ => rfl

theorem Progression.settings_eq (hp : Progression d actual status d' offer) :
    d'.settings = d.settings := by
  cases hp <;> rfl

/-- A sound device takes a transfer. -/
theorem Sound.of_reception (h : d.Sound none) (henabled : d.lifecycle = .enabled)
    (hr : Reception d data status d' offer) : d'.Sound offer := by
  have hlt := h.valid.stagingCapacity_lt
  cases hr with
  | lost => exact h
  | refused fault inbound events hmode hinbound =>
    exact {
      valid := h.valid
      capacity_staging := h.capacity_staging
      inbound := fun _ => ⟨inbound, rfl, hinbound⟩
      consistent := h.consistent.interrupted hmode
      mode_eq := by simp [upcoming_some]
      idle_eq := by simp [upcoming_some]
      upcoming_eq := by simp [upcoming_some] }
  | command text reply target events hmode _ _ hrun =>
    have houtcome := Command.outcome_dispatch text
      { d.toTarget with transfer := d.transfer.interrupted, events }
    rw [hrun] at houtcome
    have hsettings : target.settings = d.settings := houtcome.settings_eq
    have hstaging : target.staging.capacity = d.staging.capacity := houtcome.capacity_staging
    exact {
      valid := by rw [hsettings]; exact h.valid
      capacity_staging := by rw [hsettings, hstaging]; exact h.capacity_staging
      inbound := fun _ => ⟨.empty d.settings.bufferSize, rfl, by rw [hsettings]; rfl⟩
      consistent := by
        rw [hsettings]
        exact houtcome.consistent (Transfer.mode_interrupted hmode) h.capacity_staging hlt
          (h.consistent.interrupted hmode)
      mode_eq := houtcome.mode_eq
      idle_eq := fun action hnext => by
        rw [show target.transfer = d.transfer.interrupted from (houtcome.exit_of_next hnext).2.1]
        exact Transfer.mode_interrupted hmode
      upcoming_eq := fun hne => absurd henabled hne }
  | broken code events hmode =>
    exact { h with
      consistent := h.consistent.abortDownload hmode
      mode_eq := by simp [upcoming_some]
      idle_eq := by simp [upcoming_some]
      upcoming_eq := by simp [upcoming_some] }
  | partly staging events hmode hstaging hrest =>
    exact { h with
      capacity_staging := (Buffer.capacity_of_writeAt hstaging).trans h.capacity_staging
      consistent := h.consistent.stored hlt hmode hrest }
  | last count staging events hmode hcount hstaging hsize =>
    exact { h with
      capacity_staging := (Buffer.capacity_of_writeAt hstaging).trans h.capacity_staging
      consistent := h.consistent.finishDownload hlt hmode (Nat.le_of_eq hsize)
      mode_eq := by simp [upcoming_some]
      idle_eq := by simp [upcoming_some]
      upcoming_eq := by simp [upcoming_some] }

/-- A sound device goes on. -/
theorem Sound.of_progression (h : d.Sound none) (henabled : d.lifecycle = .enabled)
    (hp : Progression d actual status d' offer) : d'.Sound offer := by
  have hlt := h.valid.stagingCapacity_lt
  have hsettled : d.transfer.settled.Consistent d.settings.stagingCapacity :=
    h.consistent.follow .done false d.transfer.retryCounts
  cases hp with
  | stop =>
    exact { h with
      consistent := hsettled
      mode_eq := nofun
      idle_eq := nofun
      upcoming_eq := fun _ => rfl }
  | broken code events hnext =>
    have hmode : d.transfer.settled.mode ≠ .downloading := by
      rw [show d.transfer.settled.mode = .uploading from h.mode_eq hnext]
      nofun
    exact { h with
      consistent := hsettled.finishUpload hmode
      mode_eq := by simp [upcoming_some]
      idle_eq := by simp [upcoming_some]
      upcoming_eq := by simp [upcoming_some] }
  | chunk data events hnext hremaining hdata =>
    have hmode := h.mode_eq hnext
    exact { h with
      consistent := (h.consistent.fetched hlt hmode hremaining).follow _ _ _
      mode_eq := fun _ => (Transfer.mode_fetched _ _).trans hmode
      idle_eq := nofun
      upcoming_eq := fun hne => absurd henabled hne }
  | last events hnext hremaining =>
    exact { h with
      consistent := d.transfer.fetched_settled actual ▸
        hsettled.finishUpload_fetched (h.mode_eq hnext)
      mode_eq := by simp [upcoming_some]
      idle_eq := by simp [upcoming_some]
      upcoming_eq := by simp [upcoming_some] }
  | exit action hnext =>
    exact {
      valid := h.valid
      capacity_staging := h.capacity_staging
      inbound := nofun
      consistent := hsettled
      mode_eq := nofun
      idle_eq := nofun
      upcoming_eq := fun _ => rfl }

/-- Whatever is due once the frame has been handed over was due with it, and the controller took it. -/
theorem upcoming_of_next_hand {next : Continuation} (hnext : (d.hand offer).transfer.next = next)
    (hne : next ≠ .done) :
    (∀ o, offer = some o → d.Accepts o) ∧ d.upcoming offer = next ∧
      (d.hand offer).transfer.mode = d.transfer.mode := by
  cases offer with
  | none => exact ⟨nofun, hnext, rfl⟩
  | some o =>
    rw [transfer_hand_some] at hnext ⊢
    split at hnext
    · rename_i haccepts
      rw [if_pos haccepts]
      exact ⟨fun _ ho => Option.some.inj ho ▸ haccepts, hnext, rfl⟩
    · exact absurd ((Transfer.next_dropped _ _).symm.trans hnext) (Ne.symm hne)

/-- A chunk is on offer during an upload only. -/
theorem Sound.mode_of_isChunk {o : Offer} (h : d.Sound (some o)) (ho : o.isChunk = true) :
    d.transfer.mode = .uploading := by
  cases o with
  | reply => cases ho
  | chunk => exact h.mode_eq rfl

/-- Nothing is to follow a frame that is queued during a download. -/
theorem Sound.next_of_downloading (h : d.Sound none) (hmode : d.transfer.mode = .downloading) :
    d.transfer.next = .done := by
  cases hnext : d.transfer.next with
  | done => rfl
  | uploadChunk => cases hmode.symm.trans (h.mode_eq hnext)
  | exit action => cases hmode.symm.trans (h.idle_eq action hnext)

/-- Handing a frame over neither starts nor ends a download. -/
theorem Sound.mode_hand_iff (h : d.Sound offer) :
    (d.hand offer).transfer.mode = .downloading ↔ d.transfer.mode = .downloading := by
  cases offer with
  | none => rfl
  | some o =>
    rw [transfer_hand_some]
    split
    · rfl
    · unfold Transfer.dropped
      split
      · rename_i ho
        simp [h.mode_of_isChunk ho, Transfer.finishUpload]
      · rfl

/-- A frame is handed over. -/
theorem Sound.hand (h : d.Sound offer) : (d.hand offer).Sound none := by
  refine {
    valid := by simpa using h.valid
    capacity_staging := by simpa using h.capacity_staging
    inbound := by simpa using h.inbound
    consistent := ?_
    mode_eq := fun hnext => ?_
    idle_eq := fun action hnext => ?_
    upcoming_eq := fun hne => ?_ }
  · cases offer with
    | none => exact h.consistent
    | some o =>
      rw [settings_hand, transfer_hand_some]
      split
      · exact h.consistent.accepted h.mode_of_isChunk
      · exact h.consistent.dropped h.mode_of_isChunk
  · obtain ⟨-, hupcoming, hmode⟩ := upcoming_of_next_hand hnext nofun
    exact hmode.trans (h.mode_eq hupcoming)
  · obtain ⟨-, hupcoming, hmode⟩ := upcoming_of_next_hand hnext nofun
    exact hmode.trans (h.idle_eq action hupcoming)
  · rw [lifecycle_hand] at hne
    by_contra hnext
    exact hnext ((upcoming_of_next_hand rfl hnext).2.1.symm.trans (h.upcoming_eq hne))

end Device

end Fastboot
