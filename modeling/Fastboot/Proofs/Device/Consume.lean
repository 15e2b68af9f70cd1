import Fastboot.Proofs.Device.Exit
import Fastboot.Proofs.Device.Receipt

/-!
# What commands consume

A flash, a boot, the fuses and a response of the certificate authority take what was downloaded last.
`d.Consumes payload` says what each of them gets from a device `d`, if it is carried out at all.

The staging buffer holds the download until a request to the certificate authority is put in its place,
of which only as many bytes are taken as the download had. `consumes_run` says what commands get in
general, and that it is the download itself exactly if no request was made since, or if the download was
nothing but marks of requests anyway. `not_consumes_of_request` is a run in which it is not.
-/

namespace Fastboot

namespace Command

variable {command : String} {verb : Verb} {t t' : Target}

/-- A command that is answered by an `OKAY` has succeeded. -/
theorem eq_ok_of_dispatch {run : Target → Except Fault (Reply × Target)}
    (hverb : Verb.ofCommand? command = some verb)
    (hexecute : execute verb command t = t.attempt run) (h : dispatch command t = (.okay, t')) :
    run t = .ok (.okay, t') := by
  simp only [dispatch, hverb, hexecute, Target.attempt] at h
  split at h
  · rename_i reply t'' hrun
    cases h
    exact hrun
  · cases h

end Command

namespace Device

variable {d d' : Device} {data payload : ByteArray} {text : String} {offer : Option Offer}

/-- A device answers a command by an `OKAY`. -/
structure Okays (d : Device) (data : ByteArray) (text : String) : Prop where
  text_eq : commandText? data = some text
  offer_eq : d.offer? (.received .completed data) = some (.reply .okay)

/-- What commands get from a device when they consume the last download: an image for a partition, for a
boot, the contents of the fuses, and a response for the attestation service. -/
structure Consumes (d : Device) (payload : ByteArray) : Prop where
  flash {data : ByteArray} {text : String} (h : d.Okays data text)
    (hverb : Command.Verb.ofCommand? text = some .flash) :
    ∃ name storage, Command.argument? text = some name ∧
      (d.call (.received .completed data)).board.storage = some storage ∧
      storage.image? name = some payload
  boot (actual : Nat) (henabled : d.lifecycle = .enabled) (hnext : d.transfer.next = .exit .boot) :
    d.bootImage = payload ∧
      (d.call (.sent .completed actual)).board.platform =
        (d.board.platform.boot payload).2.reset
  fuseAttributes {data : ByteArray} {text : String} (h : d.Okays data text)
    (hverb : Command.Verb.ofCommand? text = some .oem)
    (hrequest : Command.vendorRequest text = .ok .fuseAttributes) :
    ∃ lock, d.board.lock = some lock ∧
      (d.call (.received .completed data)).board.lock =
        some ((lock.writeAttributes (payload.extract 0 Command.attributesSize)).writeAttributeHash
          (payload.extract Command.attributesSize payload.size)).setProvisioned
  fuseKey {data : ByteArray} {text : String} (h : d.Okays data text)
    (hverb : Command.Verb.ofCommand? text = some .oem)
    (hrequest : Command.vendorRequest text = .ok .fuseKey) :
    ∃ lock, d.board.lock = some lock ∧
      (d.call (.received .completed data)).board.lock = some (lock.writeKeyHash payload)
  setCaResponse {data : ByteArray} {text : String} (h : d.Okays data text)
    (hverb : Command.Verb.ofCommand? text = some .oem)
    (hrequest : Command.vendorRequest text = .ok .setCaResponse) :
    ∃ attestation, d.board.attestation = some attestation ∧
      (d.call (.received .completed data)).board.attestation =
        some { attestation with responses := attestation.responses ++ [payload] }

/-- A command that is answered by an `OKAY` outside a download is what has changed the board. -/
theorem Taking.of_okay (ht : Taking d (.received .completed data) d' offer)
    (hoffer : offer = some (.reply .okay)) (hmode : d.transfer.mode ≠ .downloading)
    (htext : commandText? data = some text) :
    ∃ events target, Command.dispatch text
        { d.toTarget with transfer := d.transfer.interrupted, events } = (.okay, target) ∧
      d'.board = target.board := by
  cases ht with
  | restart _ _ _ _ _ hcall => rcases hcall with hcall | hcall <;> cases hcall
  | ignored => cases hoffer
  | received henabled hr =>
    cases hr with
    | refused => cases hoffer
    | partly => cases hoffer
    | last _ _ _ hdown => exact absurd hdown hmode
    | command text' reply target events _ _ htext' hrun =>
      cases hoffer
      obtain rfl : text' = text := Option.some.inj (htext'.symm.trans htext)
      exact ⟨events, target, hrun, rfl⟩

section Consumers

variable {requests : Nat}

/-- A command that consumes the last download and is answered by an `OKAY`: it has run on a target whose
download is what the receipt says, and its board is the one of the device afterwards. -/
theorem Sound.run_of_okays (hs : d.Sound none) (hr : Receipt.Agrees d (.whole data requests))
    {frame : ByteArray} (h : d.Okays frame text) {verb : Command.Verb}
    (hverb : Command.Verb.ofCommand? text = some verb)
    (run : Target → Except Fault (Reply × Target))
    (hexecute : ∀ t, Command.execute verb text t = t.attempt run) :
    ∃ t t', t.board = d.board ∧ t.downloaded = .ok (overlaid data requests) ∧
      run t = .ok (.okay, t') ∧ (d.call (.received .completed frame)).board = t'.board := by
  have hmode : d.transfer.mode ≠ .downloading := by
    cases hr
    assumption
  obtain ⟨events, target, hdispatch, hboard⟩ :=
    (taking_take hs (.received .completed frame)).of_okay h.offer_eq hmode h.text_eq
  exact ⟨{ d.toTarget with transfer := d.transfer.interrupted, events }, target, rfl,
    hr.downloaded_eq _ d.transfer.downloadBytes_interrupted events,
    Command.eq_ok_of_dispatch hverb (hexecute _) hdispatch, (d.board_call _).trans hboard⟩

/-- A vendor command that consumes the last download. -/
theorem Sound.run_of_okays_oem (hs : d.Sound none) (hr : Receipt.Agrees d (.whole data requests))
    {frame : ByteArray} (h : d.Okays frame text)
    (hverb : Command.Verb.ofCommand? text = some .oem) {request : Command.VendorRequest}
    (hrequest : Command.vendorRequest text = .ok request) :
    ∃ t t', t.board = d.board ∧ t.downloaded = .ok (overlaid data requests) ∧
      request.run t = .ok t' ∧ (d.call (.received .completed frame)).board = t'.board := by
  obtain ⟨t, t', hboard, hdownloaded, hrun, hafter⟩ :=
    hs.run_of_okays hr h hverb (Command.oem text) (fun _ => rfl)
  obtain ⟨-, request', hrequest', hrun⟩ := Command.oem_eq_ok hrun
  obtain rfl : request' = request := Except.ok.inj (hrequest'.symm.trans hrequest)
  exact ⟨t, t', hboard, hdownloaded, hrun, hafter⟩

/-- What a receipt says is what commands consume. -/
theorem Sound.consumes (hs : d.Sound none) (hr : Receipt.Agrees d (.whole data requests)) :
    d.Consumes (overlaid data requests) where
  flash {frame text} h hverb := by
    obtain ⟨t, t', hboard, hdownloaded, hrun, hafter⟩ :=
      hs.run_of_okays hr h hverb (Command.flash text) (fun _ => rfl)
    obtain ⟨-, -, name, image, storage, storage', hname, himage, -, hwrite, rfl⟩ :=
      Command.flash_eq_ok hrun
    obtain rfl : overlaid data requests = image := Except.ok.inj (hdownloaded.symm.trans himage)
    refine ⟨name, storage', Command.require_eq_ok_iff.mp hname, by rw [hafter], ?_⟩
    rw [Storage.image?_of_write hwrite, if_pos rfl]
  boot actual henabled hnext := by
    have himage : d.bootImage = overlaid data requests := by
      have hdownloaded := hr.downloaded_eq d.transfer rfl d.events
      rw [bootImage, Command.mapError_eq_ok_iff.mp hdownloaded]
    refine ⟨himage, ?_⟩
    rw [call_exit henabled hnext, ← himage]
    rfl
  fuseAttributes h hverb hrequest := by
    obtain ⟨t, t', hboard, hdownloaded, hrun, hafter⟩ := hs.run_of_okays_oem hr h hverb hrequest
    obtain ⟨payload, lock, hpayload, hlock, -, rfl⟩ := Command.fuseAttributes_eq_ok hrun
    obtain rfl : overlaid data requests = payload :=
      Except.ok.inj (hdownloaded.symm.trans hpayload)
    exact ⟨lock, hboard ▸ hlock, by rw [hafter]; rfl⟩
  fuseKey h hverb hrequest := by
    obtain ⟨t, t', hboard, hdownloaded, hrun, hafter⟩ := hs.run_of_okays_oem hr h hverb hrequest
    obtain ⟨payload, lock, hpayload, hlock, -, rfl⟩ := Command.fuseKey_eq_ok hrun
    obtain rfl : overlaid data requests = payload :=
      Except.ok.inj (hdownloaded.symm.trans hpayload)
    exact ⟨lock, hboard ▸ hlock, by rw [hafter]; rfl⟩
  setCaResponse h hverb hrequest := by
    obtain ⟨t, t', hboard, hdownloaded, hrun, hafter⟩ := hs.run_of_okays_oem hr h hverb hrequest
    obtain ⟨response, attestation, attestation', hresponse, hattestation, haccept, rfl⟩ :=
      Command.setCaResponse_eq_ok hrun
    obtain rfl : overlaid data requests = response :=
      Except.ok.inj (hdownloaded.symm.trans hresponse)
    refine ⟨attestation, hboard ▸ hattestation, ?_⟩
    unfold Attestation.accept at haccept
    split at haccept <;> cases haccept
    rw [hafter]

end Consumers

/-- **What commands consume.** If the last download of a run is whole and nothing has broken it since,
commands get what the requests made since have left of it. That is the download itself exactly if there
were none, or if the download is nothing but the mark of a request over and over. -/
theorem consumes_run {settings : Settings} {usb : Controller} {board : Board}
    (hbind : bind settings usb board = .ok d) {actions : List Action} {requests : Nat}
    (hwhole : Receipt.none.track d actions = .whole data requests) :
    (d.run actions).Consumes (overlaid data requests) ∧
      (overlaid data requests = data ↔
        requests = 0 ∨ ∀ (i : Nat) (hi : i < data.size), data[i] = markByte i) := by
  have hs := sound_of_bind hbind
  have hnone : Receipt.Agrees d .none := by
    obtain ⟨-, rfl⟩ := bind_eq_ok_iff.mp hbind
    exact .none nofun
  have hr := hnone.run hs actions
  rw [hwhole] at hr
  exact ⟨(hs.run actions).consumes hr, overlaid_eq_iff⟩

/-- A device with a small staging buffer, one partition and an attestation service. -/
def small : Device where
  toTarget := .start { stagingCapacity := 64, bufferSize := 512 }
    { storage := some (Storage.addPartition {} "boot" 16 "raw"), attestation := some {} }
  usb := {}

/-- A session in which eight bytes are downloaded. -/
def smallDownload : List Action :=
  [.call .enable, .call (.received .completed "download:00000008".toUTF8),
    .call (.received .completed "abcdefgh".toUTF8)]

theorem bind_small : bind small.settings small.usb small.board = .ok small :=
  rfl

/-- The eight bytes are what commands consume. -/
theorem consumes_run_small : Receipt.none.track small smallDownload = .whole "abcdefgh".toUTF8 0 ∧
    (small.run smallDownload).Consumes "abcdefgh".toUTF8 := by
  have hwhole : Receipt.none.track small smallDownload = .whole "abcdefgh".toUTF8 0 := by
    decide +kernel
  exact ⟨hwhole, (consumes_run bind_small hwhole).1⟩

/-- **A download that is not consumed.** Once a request to the certificate authority has been made from
it, the request stands in its place, cut to its size, and is what a flash writes. -/
theorem not_consumes_of_request : ∃ actions,
    Receipt.none.track small actions = .whole "abcdefgh".toUTF8 1 ∧
      ¬ (small.run actions).Consumes "abcdefgh".toUTF8 := by
  refine ⟨smallDownload ++ [.call (.received .completed "oem at-get-ca-request".toUTF8)],
    by decide +kernel, fun h => ?_⟩
  have hokays : (small.run (smallDownload ++
      [.call (.received .completed "oem at-get-ca-request".toUTF8)])).Okays
        "flash:boot".toUTF8 "flash:boot" :=
    ⟨by decide +kernel, by decide +kernel⟩
  obtain ⟨name, storage, hname, hstorage, himage⟩ := h.flash hokays (by decide +kernel)
  have hboot : Command.argument? "flash:boot" = some "boot" := by decide +kernel
  obtain rfl : name = "boot" := Option.some.inj (hname.symm.trans hboot)
  -- the first bytes of the request, in the place of the download
  have hwritten : ((small.run (smallDownload ++
      [.call (.received .completed "oem at-get-ca-request".toUTF8)])).call
        (.received .completed "flash:boot".toUTF8)).board.storage.bind (·.image? "boot") =
          some "CA-REQ:a".toUTF8 := by
    decide +kernel
  rw [hstorage, Option.bind_some, himage] at hwritten
  exact absurd hwritten (by decide +kernel)

end Device

end Fastboot
