import Fastboot.Proofs.Host.Download

/-!
# What an upload brings

A host separates the header of an upload, the data and the status by where they stand and by their length, and
looks at nothing else. `fetched_of_ok` says that this is enough: in every session, whatever state the device is
in and whatever frames are still queued, data that an upload returns is what the staging buffer started with,
as much of it as the device had on offer.

An upload that returns data has collected two frames at least (`two_le_of_uploaded`). If there was nothing to
fetch, or a download was under way, nothing follows the frame that is queued for the command
(`Sound.next_upload`), so at most one is collected; and none if the controller was due to fail. In what is
left the device is stocked, and then the host gets all that it was stocked with (`upload_of_stocked`). No
payload can change that, be it the text of a status frame.
-/

namespace Fastboot

namespace Device

variable {d d' e : Device} {settings : Settings} {data : ByteArray} {actual : Nat}
  {status : TransferStatus} {offer : Option Offer}

/-! ### Frames that go out leave the data alone -/

/-- `e` has the data that `d` has: all that is staged, and the count of what was downloaded. -/
structure KeepsData (d e : Device) : Prop where
  staging_eq : e.staging = d.staging
  downloadBytes_eq : e.transfer.downloadBytes = d.transfer.downloadBytes

theorem KeepsData.trans (h : d.KeepsData d') (h' : d'.KeepsData e) : d.KeepsData e :=
  ⟨h'.staging_eq.trans h.staging_eq, h'.downloadBytes_eq.trans h.downloadBytes_eq⟩

theorem Progression.keepsData (hp : Progression d actual status d' offer) : d.KeepsData d' := by
  cases hp with
  | stop => exact ⟨rfl, rfl⟩
  | broken => exact ⟨rfl, rfl⟩
  | exit => exact ⟨rfl, rfl⟩
  | chunk => exact ⟨rfl, Transfer.downloadBytes_fetched _ _⟩
  | last => exact ⟨rfl, Transfer.downloadBytes_fetched _ _⟩

theorem Sound.keepsData_completeIn (h : d.Sound none) : d.KeepsData d.completeIn.2 := by
  rcases hcomplete : d.completeIn with ⟨frame, e⟩
  cases h.collection hcomplete with
  | nothing => exact ⟨rfl, rfl⟩
  | unnoticed => exact ⟨rfl, rfl⟩
  | followed _ _ hp hhand =>
    subst hhand
    exact ⟨(staging_hand _ _).trans hp.keepsData.staging_eq,
      (downloadBytes_hand _ _).trans hp.keepsData.downloadBytes_eq⟩

/-- However many frames are collected. -/
theorem Attached.keepsData_completeFrames (h : d.Attached settings) (limit : Nat) :
    d.KeepsData (Device.completeFrames limit d).2 :=
  (h.completeFrames_of_step (fun he hkeeps => hkeeps.trans he.sound.keepsData_completeIn)
    ⟨rfl, rfl⟩ limit).2

/-! ### Answers that nothing follows -/

/-- At most one frame is collected if nothing is to follow it. -/
theorem length_drain_le_one (henabled : d.lifecycle = .enabled) (hnext : d.transfer.next = .done) :
    d.drain.1.length ≤ 1 := by
  cases hpending : d.usb.pending with
  | none =>
    have hdrain : d.drain = ([], d) := completeFrames_of_none hpending _
    rw [hdrain]
    exact Nat.zero_le 1
  | some frame =>
    have hdrain : d.drain = ([frame], d.collected) :=
      completeFrames_of_done henabled hnext hpending _
    rw [hdrain]
    exact Nat.le_refl 1

/-- A transfer that comes in does not end a session. -/
theorem Sound.enabled_onOutComplete (h : d.Sound none) (henabled : d.lifecycle = .enabled)
    (data : ByteArray) : (d.onOutComplete .completed data).lifecycle = .enabled := by
  have hr := reception_receive h henabled .completed data
  rw [onOutComplete_of_enabled henabled, lifecycle_arm, lifecycle_hand, hr.lifecycle_eq, henabled]

/-- A frame that leads to nothing leads to nothing if it is refused, too. -/
theorem next_hand_of_done {o : Offer} (hnext : o.next = .done) (d : Device) :
    (d.hand (some o)).transfer.next = .done := by
  rw [transfer_hand_some]
  split
  · exact hnext
  · exact Transfer.next_dropped _ _

/-- What comes in during a download is answered by its status, if at all. -/
theorem Sound.next_of_data (h : d.Sound none) (henabled : d.lifecycle = .enabled)
    (hmode : d.transfer.mode = .downloading) (data : ByteArray) :
    (d.onOutComplete .completed data).transfer.next = .done := by
  have hr := reception_receive h henabled .completed data
  rw [onOutComplete_of_enabled henabled, toTarget_arm]
  generalize (d.receive .completed data).1 = d', (d.receive .completed data).2 = offer at hr
  cases hr with
  | refused _ _ _ hne => exact absurd hmode hne
  | command _ _ _ _ hne => exact absurd hmode hne
  | partly => exact h.next_of_downloading hmode
  | last => exact next_hand_of_done Offer.next_okay _

/-- **Nothing follows the answer to an upload that is refused**, or that is taken for data. -/
theorem Sound.next_upload (h : d.Sound none) (henabled : d.lifecycle = .enabled)
    (hnothing : d.transfer.mode ≠ .idle ∨ d.transfer.uploadSize = 0) :
    (d.onOutComplete .completed "upload".toUTF8).transfer.next = .done := by
  by_cases hmode : d.transfer.mode = .downloading
  · exact h.next_of_data henabled hmode _
  · -- an upload that is under way is over when a command comes in, and has left nothing to fetch
    have hzero : d.transfer.interrupted.uploadSize = 0 := by
      rw [Transfer.uploadSize_interrupted]
      split
      · rfl
      · rename_i hnot
        refine hnothing.resolve_left fun hne => ?_
        cases hcase : d.transfer.mode with
        | idle => exact hne hcase
        | downloading => exact hmode hcase
        | uploading => exact hnot hcase
    have hrefused : ∀ events, Command.dispatch "upload"
        { d.toTarget with transfer := d.transfer.interrupted, events } =
          (.ofFault .invalidSize, { d.toTarget with transfer := d.transfer.interrupted, events }) := by
      intro events
      have hverb : Command.Verb.ofCommand? "upload" = some .upload := by decide
      simp only [Command.dispatch, hverb, Command.execute, Target.attempt, Command.upload, hzero,
        if_true, Command.replyOf]
    have hr := reception_receive h henabled .completed "upload".toUTF8
    rw [onOutComplete_of_enabled henabled, toTarget_arm]
    generalize (d.receive .completed "upload".toUTF8).1 = d',
      (d.receive .completed "upload".toUTF8).2 = offer at hr
    cases hr with
    | refused => exact next_hand_of_done (Offer.next_ofFault _) _
    | command text reply target events _ _ htext hrun =>
      have hzero : '\x00' ∉ "upload".toList := by decide
      obtain rfl := Option.some.inj (htext.symm.trans (commandText?_toUTF8 hzero))
      rw [hrefused] at hrun
      cases hrun
      exact next_hand_of_done (Offer.next_ofFault _) _
    | partly _ _ hdown => exact absurd hdown hmode
    | last _ _ _ hdown => exact absurd hdown hmode

end Device

namespace Host

variable {h h' : Host} {settings : Settings} {data : ByteArray}

/-- Data is read from a header and a status at least. -/
theorem two_le_of_uploaded {frames : List ByteArray} (hdata : uploaded frames = .ok data) :
    2 ≤ frames.length := by
  cases frames with
  | nil => cases hdata
  | cons header rest =>
    cases rest with
    | nil =>
      simp only [uploaded] at hdata
      split at hdata
      · cases hdata
      · cases hdata
      · cases hdata
    | cons status rest => exact Nat.le_add_left 2 _

theorem length_pump_le_one {frames : List ByteArray} (henabled : h.device.lifecycle = .enabled)
    (hnext : h.device.transfer.next = .done) (hpump : h.pump = (frames, h')) :
    frames.length ≤ 1 := by
  obtain ⟨rfl, -⟩ := Prod.mk.inj hpump
  exact Device.length_drain_le_one henabled hnext

theorem Connected.keepsData_pump {frames : List ByteArray} (hc : h.Connected settings)
    (hpump : h.pump = (frames, h')) : h.device.KeepsData h'.device := by
  obtain ⟨-, rfl⟩ := Prod.mk.inj hpump
  show h.device.KeepsData h.device.drain.2
  exact hc.device.keepsData_completeFrames _

/-- An upload that returns data has come across, and the frames were collected behind it. -/
theorem upload_eq_ok (hok : h.upload = (.ok data, h')) : ∃ e frames,
    h.deliver "upload".toUTF8 = (.ok (), e) ∧ e.pump = (frames, h') ∧
      uploaded frames = .ok data := by
  unfold upload send at hok
  rcases hdeliver : h.deliver "upload".toUTF8 with ⟨error | ⟨⟩, e⟩
  · rw [hdeliver] at hok
    cases hok
  · rcases hpump : e.pump with ⟨frames, e'⟩
    simp only [hdeliver, hpump] at hok
    obtain ⟨hdata, rfl⟩ := Prod.mk.inj hok
    exact ⟨e, frames, rfl, hpump, hdata⟩

/-- A device that returns data was stocked with something. -/
theorem Reachable.stocked_of_ok (hr : Reachable settings h) (hok : h.upload = (.ok data, h')) :
    ∃ served, 0 < served.size ∧ h.device.Stocked settings served := by
  obtain ⟨e, frames, hdeliver, hpump, hdata⟩ := upload_eq_ok hok
  obtain ⟨hhalted, ⟨length, harmed, -⟩, rfl⟩ := deliver_eq_ok_iff.mp hdeliver
  have hconnected := hr.connected
  have henabled := hconnected.enabled hhalted
  have htaken : ({ h.device with usb := h.device.usb.takeOut.2 } : Device).Sound none :=
    { hconnected.device.sound with }
  have hcount := two_le_of_uploaded hdata
  have hsome : h.device.transfer.mode = .idle ∧ h.device.transfer.uploadSize ≠ 0 := by
    by_contra hnot
    have hnothing : h.device.transfer.mode ≠ .idle ∨ h.device.transfer.uploadSize = 0 := by
      by_cases hmode : h.device.transfer.mode = .idle
      · exact .inr (Decidable.not_not.mp fun hne => hnot ⟨hmode, hne⟩)
      · exact .inl hmode
    have hnext := htaken.next_upload henabled hnothing
    have hgoes := htaken.enabled_onOutComplete henabled "upload".toUTF8
    have hone := length_pump_le_one hgoes hnext hpump
    omega
  obtain ⟨hmode, hnonzero⟩ := hsome
  have hnot : h.device.transfer.mode ≠ .downloading := by simp [hmode]
  have hfail : h.device.usb.failNext = false := by
    by_contra hfail
    have hnone := htaken.pending_of_failNext henabled hnot (Bool.not_eq_false _ ▸ hfail)
      "upload".toUTF8
    rw [pump_of_none hnone] at hpump
    obtain ⟨rfl, -⟩ := Prod.mk.inj hpump
    cases hdata
  -- what there is to fetch lies within the staging buffer
  have hsize := hconnected.device.sound.consistent.uploadSize_le
  rw [← hconnected.device.sound.capacity_staging] at hsize
  obtain ⟨served, hserved⟩ := Buffer.exists_read_eq_ok
    (show 0 + h.device.transfer.uploadSize.toNat ≤ h.device.staging.capacity by omega)
  have hlength : served.size = h.device.transfer.uploadSize.toNat := Buffer.size_of_read hserved
  refine ⟨served, ?_, { hconnected.live hhalted hfail with
    mode_eq := hmode
    uploadSize_eq := hlength.symm
    startsWith := ?_
    armed_eq := ?_ }⟩
  · rw [hlength]
    exact Nat.pos_of_ne_zero fun hzero => hnonzero (UInt32.toNat_inj.mp hzero)
  · show h.device.staging.take served.size = .ok served
    rw [hlength]
    exact hserved
  · rw [harmed, hconnected.device.armed_eq hnot length harmed]

/-- **What an upload brings is what was there.** In every session, whatever has gone wrong in it and whatever is
still queued, data that an upload returns is what the staging buffer has started with, as much of it as the
device, which was idle, had to send. Afterwards it is idle with nothing to send, and has what it had. -/
theorem fetched_of_ok (hr : Reachable settings h) (hok : h.upload = (.ok data, h')) :
    h.device.transfer.mode = .idle ∧ 0 < data.size ∧
      h.device.transfer.uploadSize.toNat = data.size ∧
      h.device.staging.take data.size = .ok data ∧
      h'.device.transfer.mode = .idle ∧ h'.device.transfer.uploadSize = 0 ∧
      h'.device.staging = h.device.staging ∧
      h'.device.transfer.downloadBytes = h.device.transfer.downloadBytes := by
  obtain ⟨served, hpos, hstocked⟩ := hr.stocked_of_ok hok
  obtain ⟨d, hupload, hspent⟩ := upload_of_stocked hstocked hpos
  obtain ⟨e, frames, hdeliver, hpump, -⟩ := upload_eq_ok hok
  obtain ⟨hsame, rfl⟩ := Prod.mk.inj (hupload.symm.trans hok)
  obtain rfl := Except.ok.inj hsame
  have hconnected := hr.connected.deliver "upload".toUTF8
  rw [hdeliver] at hconnected
  have hkeeps := hconnected.keepsData_pump hpump
  obtain ⟨hstaging, hbytes⟩ := (hstocked.serving hpos).2
  obtain ⟨-, -, rfl⟩ := deliver_eq_ok_iff.mp hdeliver
  exact ⟨hstocked.mode_eq, hpos, hstocked.uploadSize_eq, hstocked.startsWith, hspent.mode_eq,
    hspent.uploadSize_eq, hkeeps.staging_eq.trans hstaging, hkeeps.downloadBytes_eq.trans hbytes⟩

/-- A session in which a payload has been downloaded that reads like the status of an upload. -/
def posing : Host :=
  let connected : Host := { device := started {} {}, chunk := ({} : Settings).bufferSize }
  (connected.download "OKAY".toUTF8).2

/-- Two frames spell `OKAY` then, and only the second is taken for the status. -/
theorem fetched_of_ok_posing : ∃ h', posing.upload = (.ok "OKAY".toUTF8, h') ∧
    posing.device.staging.take 4 = .ok "OKAY".toUTF8 ∧ h'.device.transfer.mode = .idle ∧
      h'.device.staging = posing.device.staging := by
  have hr : Reachable {} posing :=
    .download (.connect (connect_eq_ok_iff.mpr ⟨Settings.valid_default, rfl⟩)) "OKAY".toUTF8
  have hok : posing.upload = (.ok "OKAY".toUTF8, _) := Prod.ext (by decide +kernel) rfl
  obtain ⟨-, -, -, htake, hmode, -, hstaging, -⟩ := fetched_of_ok hr hok
  exact ⟨_, hok, htake, hmode, hstaging⟩

end Host

end Fastboot
