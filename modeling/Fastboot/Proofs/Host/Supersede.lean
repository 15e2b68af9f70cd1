import Fastboot.Proofs.Device.Answer
import Fastboot.Proofs.Device.Exit
import Fastboot.Proofs.Host.RoundTrip

/-!
# Answers that nobody has collected

A host may send one command after the other and collect nothing in between. Each answer then takes
the place of the one before it, and with it what that was to lead to: an upload that was announced
is over, and an action that ends the session is not run.

`deliverAll_supersedes` says what has come of it in the end. One frame is queued, the answer to the
last command as the commands before it have left the device, and as many frames were cancelled as
there were commands before it. What the host then collects is that answer and the data it announces
(`Collects`), and whenever the session is ended later, that was acknowledged by the last command or
by what came after it.
-/

namespace Fastboot

namespace Device

variable {d d' : Device} {settings : Settings} {data frame : ByteArray} {c : Call} {action : Exit}

theorem toTarget_endUpload (d : Device) : d.endUpload.toTarget =
    if d.transfer.mode = .uploading then d.toTarget.transition .finishUpload else d.toTarget := by
  unfold endUpload
  split <;> rfl

/-- Devices that commands cannot tell apart have the same answers. -/
theorem answer_congr (h : d'.toTarget = d.toTarget) (data : ByteArray) :
    d'.answer data = d.answer data := by
  simp only [answer, toTarget_endUpload, h]

/-- The device takes the data as a command that announces a download, and accepts it. -/
def AcceptsDownload (d : Device) (data : ByteArray) : Prop :=
  (commandText? data).bind Command.Verb.ofCommand? = some .download ∧
    (d.answer data).announced?.isSome = true

instance (d : Device) (data : ByteArray) : Decidable (d.AcceptsDownload data) :=
  inferInstanceAs (Decidable (_ ∧ _))

/-- A status frame that is collected is followed by no other, whatever else it leads to. -/
theorem completeFrames_of_ne (henabled : d.lifecycle = .enabled)
    (hnext : d.transfer.next ≠ .uploadChunk) (hpending : d.usb.pending = some frame) (limit : Nat) :
    (completeFrames (limit + 1) d).1 = [frame] := by
  cases hcase : d.transfer.next with
  | done => rw [completeFrames_of_done henabled hcase hpending]
  | uploadChunk => exact absurd hcase hnext
  | exit action =>
    have hcomplete : d.completeIn = (some frame, d.collected.runExit action) := by
      rw [completeIn_of_pending henabled hpending]
      simp only [proceed, hcase]
      rfl
    have hnone : (d.collected.runExit action).usb.pending = none := d.pending_collected
    rw [completeFrames_succ hcomplete, completeFrames_of_none hnone]

/-- An action that is due behind a call with an answer was acknowledged by that call or later. -/
theorem Sound.exists_acknowledges_of_offer {o : Offer} (h : d.Sound none)
    (hoffer : d.offer? c = some o) (after : List Action)
    (hnext : ((d.call c).run after).transfer.next = .exit action) :
    ∃ asked ask since, .call c :: after = asked ++ .call ask :: since ∧
      (d.run asked).Acknowledges ask action ∧ ((d.run asked).call ask).QuietRun since := by
  rcases (h.call c).next_run after hnext with ⟨hfirst, hquiet⟩ | hlater
  · -- a call with an answer is not quiet, so the action is its own
    rcases h.next_call hfirst with hask | ⟨-, hsilent⟩
    · exact ⟨[], c, after, rfl, hask, hquiet⟩
    · cases hsilent with
      | received _ _ hnone => exact nomatch hoffer.symm.trans hnone
  · obtain ⟨asked, ask, since, rfl, hask, hsince⟩ := hlater
    exact ⟨.call c :: asked, ask, since, rfl, hask, hsince⟩

/-- What a command that starts no download has made of the device `d`. -/
inductive Sequel (d : Device) (settings : Settings) (data : ByteArray) (e : Device) : Prop where
  /-- It is answered by a status, which no chunk follows. -/
  | status (hresponse : (d.answer data).announced? = none) (hmode : e.transfer.mode ≠ .downloading)
      (hnext : e.transfer.next ≠ .uploadChunk)
  /-- An upload is announced, of what the staging buffer starts with. -/
  | upload (size : UInt32) (served : ByteArray) (hresponse : d.answer data = .data size)
      (hserved : d.staging.take size.toNat = .ok served)
      (hserving : e.Serving settings served 0 (frameOf (.data size)))

theorem Sequel.mode_ne {e : Device} (h : d.Sequel settings data e) :
    e.transfer.mode ≠ .downloading := by
  cases h with
  | status _ hmode => exact hmode
  | upload _ _ _ _ hserving =>
    rw [hserving.mode_eq]
    nofun

/-- What is answered by a status, outside a download, is followed by no chunk. -/
theorem Answered.sequel {e : Device} {reply : Reply}
    (he : d'.Answered settings (some (.reply reply)) e) (hresponse : reply.response = d.answer data)
    (hnone : reply.response.announced? = none) (hnext : reply.next ≠ .uploadChunk)
    (hmode : d'.transfer.mode = .idle) : d.Sequel settings data e := by
  have htransfer := he.transfer_eq
  rw [Option.map_some, Option.getD_some] at htransfer
  refine .status (hresponse ▸ hnone) ?_ ?_
  · rw [htransfer, Transfer.mode_accepted, hmode]
    nofun
  · rw [htransfer, Transfer.next_accepted]
    intro hchunk
    exact hnext (Offer.next_of_reply hchunk nofun)

/-- **A command that starts no download** has no other sequel. -/
theorem Live.sequel (h : d.Live settings none) (hmode : d.transfer.mode ≠ .downloading)
    (hnot : ¬ d.AcceptsDownload data) :
    d.Sequel settings data (d.onOutComplete .completed data) := by
  obtain ⟨d', offer, hr, hoffer, hturn⟩ := h.sound.exists_reception h.enabled .completed data
  obtain ⟨reply, hreply, hresponse⟩ := h.sound.exists_reply h.enabled hmode data
  obtain rfl : offer = some (.reply reply) := hoffer.symm.trans hreply
  have he : d'.Answered settings (some (.reply reply)) (d.onOutComplete .completed data) := by
    rw [← turn_received, hturn]
    exact (h.of_reception hr).answered
  have hidle := Transfer.mode_interrupted hmode
  -- all but the two commands that open a data phase are answered by a status
  have hstatus := he.sequel hresponse
  cases hr with
  | refused => exact hstatus rfl nofun hidle
  | last _ _ _ hdown => exact absurd hdown hmode
  | command text _ target events _ _ htext hrun =>
    have houtcome := Command.outcome_dispatch text
      { d.toTarget with transfer := d.transfer.interrupted, events }
    simp only [hrun] at houtcome
    cases houtcome with
    | answer response _ _ _ _ hdata =>
      refine hstatus ?_ nofun hidle
      rcases response with _ | _ | size
      · rfl
      · rfl
      · exact absurd rfl (hdata size)
    | exit => exact hstatus rfl nofun hidle
    | refuse => exact hstatus rfl nofun hidle
    | request => exact hstatus rfl nofun hidle
    | download size hverb =>
      refine absurd ⟨?_, ?_⟩ hnot
      · rw [htext]
        exact hverb
      · rw [← hresponse]
        rfl
    | upload =>
      -- the buffer holds what the exchange says it does
      have hsize := (h.sound.consistent.interrupted hmode).uploadSize_le
      rw [← h.sound.capacity_staging] at hsize
      obtain ⟨served, hserved⟩ : ∃ served,
          d.staging.take d.transfer.interrupted.uploadSize.toNat = .ok served :=
        Buffer.exists_read_eq_ok (by omega)
      exact .upload _ served hresponse.symm hserved
        (he.serving (by simp) (by simp) (by simp) (by simp) (by simpa using hserved))

end Device

namespace Host

open Device (frameOf Action)

/-- Deliver one after the other, and collect nothing in between. -/
def deliverAll : List ByteArray → Host → Except HostError Unit × Host
  | [], h => (.ok (), h)
  | bytes :: rest, h =>
    match h.deliver bytes with
    | (.error e, h) => (.error e, h)
    | (.ok (), h) => deliverAll rest h

/-- None of what is delivered is a download that the device accepts by then. -/
def StartsNoDownload : List ByteArray → Host → Prop
  | [], _ => True
  | bytes :: rest, h => ¬ h.device.AcceptsDownload bytes ∧ StartsNoDownload rest (h.deliver bytes).2

/-- The frames that answer a command on the device `d` by `response`: a status by itself, or the
announcement of an upload and the data it announces, from the start of the staging buffer. -/
inductive Collects (d : Device) (response : Response) : List ByteArray → Prop where
  | status (hresponse : response.announced? = none) : Collects d response [frameOf response]
  | upload (size : UInt32) (chunks : List ByteArray) (hresponse : response = .data size)
      (hserved : d.staging.take size.toNat = .ok (joined chunks)) :
      Collects d response (frameOf response :: (chunks ++ [frameOf (.okay "")]))

/-- A host whose next command gets across and is answered. -/
structure Waiting (h : Host) (settings : Settings) : Prop where
  live : h.device.Live settings none
  mode_ne : h.device.transfer.mode ≠ .downloading
  armed_eq : h.device.usb.armed = some settings.bufferSize

variable {h e : Host} {settings : Settings} {bytes last : ByteArray}
  {commands earlier : List ByteArray}

/-- The device while the host fills its request. -/
def taken (h : Host) : Device :=
  { h.device with usb := h.device.usb.takeOut.2 }

@[simp]
theorem answer_taken (h : Host) (bytes : ByteArray) :
    h.taken.answer bytes = h.device.answer bytes :=
  Device.answer_congr (show h.taken.toTarget = h.device.toTarget from rfl) bytes

/-- What a command that starts no download makes of the device. -/
structure Delivered (h : Host) (settings : Settings) (bytes : ByteArray) (e : Host) : Prop where
  waiting : e.Waiting settings
  device_eq : e.device = h.taken.call (.received .completed bytes)
  pending_eq : e.device.usb.pending = some (frameOf (h.device.answer bytes).fitted)
  sent_eq : e.device.usb.sent = h.device.usb.sent
  queued_eq : e.device.usb.queued = h.device.usb.queued + 1
  exits_eq : e.device.board.platform.exits = h.device.board.platform.exits
  sequel : h.taken.Sequel settings bytes e.device

/-- **One command gets across.** -/
theorem Waiting.deliver (hw : h.Waiting settings) (hsize : bytes.size ≤ settings.bufferSize)
    (hnot : ¬ h.device.AcceptsDownload bytes) :
    ∃ e, h.deliver bytes = (.ok (), e) ∧ h.Delivered settings bytes e := by
  have htaken : h.taken.Live settings none := hw.live.takeOut
  have hmode : h.taken.transfer.mode ≠ .downloading := hw.mode_ne
  have haccepts : (h.taken.usb.replaceIn (frameOf (h.taken.answer bytes).fitted)).1 = .ok () := by
    rw [Controller.replaceIn_eq, if_neg (by simp [htaken.failNext])]
  have hsequel := htaken.sequel hmode (by rwa [Device.AcceptsDownload, answer_taken])
  have hresponds := htaken.sound.responds htaken.enabled hmode bytes haccepts
  -- only the completion of a frame ends a session
  have hexits : ¬ h.taken.Exits (.received .completed bytes) := by
    intro hexits
    obtain ⟨_, _, hsent, -⟩ := htaken.sound.exits_iff.mp hexits
    cases hsent
  obtain ⟨hlive, harmed⟩ := htaken.received .completed bytes
  rw [answer_taken] at hresponds
  refine ⟨_, deliver_eq hw.live hw.armed_eq hsize, ?_⟩
  exact {
    waiting := {
      live := hlive
      mode_ne := hsequel.mode_ne
      armed_eq := harmed.trans (congrArg some (hlive.expected_eq hsequel.mode_ne)) }
    device_eq := rfl
    pending_eq := hresponds.pending_eq
    sent_eq := hresponds.sent_eq
    queued_eq := hresponds.queued_eq
    exits_eq := not_ne_iff.mp hexits
    sequel := hsequel }

/-- **All commands get across**, and each is answered by one frame. -/
theorem Waiting.deliverAll (hw : h.Waiting settings)
    (hsize : ∀ bytes ∈ commands, bytes.size ≤ settings.bufferSize)
    (hnone : StartsNoDownload commands h) :
    ∃ e, deliverAll commands h = (.ok (), e) ∧ e.Waiting settings ∧
      e.device.usb.sent = h.device.usb.sent ∧
      e.device.usb.queued = h.device.usb.queued + commands.length ∧
      e.device.board.platform.exits = h.device.board.platform.exits := by
  -- each command leaves a host that waits for the next
  induction commands generalizing h with
  | nil => exact ⟨h, rfl, hw, rfl, rfl, rfl⟩
  | cons bytes rest ih =>
    obtain ⟨hnot, hrest⟩ := hnone
    obtain ⟨e, hdeliver, hd⟩ := hw.deliver (hsize bytes List.mem_cons_self) hnot
    rw [hdeliver] at hrest
    obtain ⟨e', hall, hw', hsent, hqueued, hexits⟩ :=
      ih hd.waiting (fun b hb => hsize b (List.mem_cons_of_mem _ hb)) hrest
    refine ⟨e', ?_, hw', hsent.trans hd.sent_eq, ?_, hexits.trans hd.exits_eq⟩
    · rw [Host.deliverAll, hdeliver]
      exact hall
    · rw [hqueued, hd.queued_eq, List.length_cons]
      omega

/-- **What is collected** is the answer to what was delivered, and the data that the answer
announces. -/
theorem Delivered.collects (hd : h.Delivered settings bytes e) :
    Collects h.device (h.device.answer bytes).fitted e.pump.1 := by
  have hanswer := h.answer_taken bytes
  cases hd.sequel with
  | status hresponse _ hnext =>
    rw [hanswer] at hresponse
    have hpump : e.pump.1 = [frameOf (h.device.answer bytes).fitted] :=
      Device.completeFrames_of_ne hd.waiting.live.enabled hnext hd.pending_eq
        (e.device.transfer.uploadRemaining.toNat + 2)
    rw [hpump]
    exact .status (by rwa [Response.announced?_fitted])
  | upload size served hresponse hserved hserving =>
    obtain ⟨chunks, e', hdrain, rfl, -⟩ := drain_eq hserving
    have hpump : e.pump.1 = frameOf (.data size) :: (chunks ++ [frameOf (.okay "")]) :=
      congrArg Prod.fst hdrain
    -- an announcement always fits, so it has gone out as it is
    have hfitted : (h.device.answer bytes).fitted = .data size := by
      rw [← hanswer, hresponse]
      exact if_pos (Response.utf8ByteSize_text_data size)
    rw [hpump, hfitted]
    exact .upload size chunks rfl hserved

/-- An action that is run later was acknowledged by what was delivered, or by something that came
after it. -/
theorem Waiting.exits (hw : h.Waiting settings) (hd : h.Delivered settings bytes e)
    (after : List Action) {c : Device.Call} (hexits : (e.device.run after).Exits c) :
    ∃ actual action asked ask since, c = .sent .completed actual ∧
      .call (.received .completed bytes) :: after = asked ++ .call ask :: since ∧
      (h.taken.run asked).Acknowledges ask action ∧
      ((h.taken.run asked).call ask).QuietRun since := by
  have hsound : h.taken.Sound none := hw.live.takeOut.sound
  obtain ⟨reply, hoffer, -⟩ := hsound.exists_reply hw.live.enabled hw.mode_ne bytes
  obtain ⟨actual, action, rfl, -, hnext⟩ := (hd.waiting.live.sound.run after).exits_iff.mp hexits
  rw [hd.device_eq] at hnext
  obtain ⟨asked, ask, since, hafter, hask, hsince⟩ :=
    hsound.exists_acknowledges_of_offer hoffer after hnext
  exact ⟨actual, action, asked, ask, since, rfl, hafter, hask, hsince⟩

/-- What is delivered first starts no download either. -/
theorem StartsNoDownload.left {more : List ByteArray}
    (hnone : StartsNoDownload (commands ++ more) h) : StartsNoDownload commands h := by
  induction commands generalizing h with
  | nil => trivial
  | cons bytes rest ih => exact ⟨hnone.1, ih hnone.2⟩

/-- What is delivered last is delivered behind what went before. -/
theorem deliverAll_append (commands more : List ByteArray) {h e : Host}
    (hall : deliverAll commands h = (.ok (), e)) :
    deliverAll (commands ++ more) h = deliverAll more e ∧
      (StartsNoDownload (commands ++ more) h → StartsNoDownload more e) := by
  induction commands generalizing h with
  | nil =>
    cases hall
    exact ⟨rfl, id⟩
  | cons bytes rest ih =>
    rw [Host.deliverAll] at hall
    split at hall
    · cases hall
    · rename_i h' hdeliver
      obtain ⟨hmore, hnone⟩ := ih hall
      simp only [List.cons_append, Host.deliverAll, StartsNoDownload, hdeliver]
      exact ⟨hmore, fun hboth => hnone hboth.2⟩

/-- **The last command is the one that is answered.** Take any session that goes on, idle and with
nothing queued, and let commands come in that start no download, with nothing collected in between.
All get across. The one frame that is queued then is the answer to the last, by the device as it was
left by the others, and each of these has had a frame cancelled. What is collected next is that
answer and the data it announces. None of the commands has ended the session, and if the device is
asked to whatever happens next, then by the completion of a frame that the last command or a later
call has acknowledged. -/
theorem deliverAll_supersedes (hr : Reachable settings h) (hhalted : h.device.isHalted = false)
    (harmed : h.device.usb.armed.isSome = true) (hmode : h.device.transfer.mode = .idle)
    (hpending : h.device.usb.pending = none) (hfail : h.device.usb.failNext = false)
    (hsize : ∀ bytes ∈ earlier ++ [last], bytes.size ≤ settings.bufferSize)
    (hnone : StartsNoDownload (earlier ++ [last]) h) :
    ∃ e e' response, deliverAll earlier h = (.ok (), e) ∧
      deliverAll (earlier ++ [last]) h = (.ok (), e') ∧
      response = (e.device.answer last).fitted ∧
      e'.device.usb.pending = some (frameOf response) ∧
      e'.device.usb.sent = h.device.usb.sent ∧
      e'.device.usb.cancelled = h.device.usb.cancelled + earlier.length ∧
      Collects e.device response e'.pump.1 ∧
      e'.device.board.platform.exits = h.device.board.platform.exits ∧
      ∀ after c, (e'.device.run after).Exits c → ∃ actual action asked ask since,
        c = .sent .completed actual ∧
        .call (.received .completed last) :: after = asked ++ .call ask :: since ∧
        (e.taken.run asked).Acknowledges ask action ∧
        ((e.taken.run asked).call ask).QuietRun since := by
  have hdevice := hr.connected.device
  obtain ⟨length, hlength⟩ := Option.isSome_iff_exists.mp harmed
  have hidle : h.device.transfer.mode ≠ .downloading := by
    rw [hmode]
    nofun
  have hw : h.Waiting settings := {
    live := hr.connected.live hhalted hfail
    mode_ne := hidle
    armed_eq := by rw [hlength, hdevice.armed_eq hidle length hlength] }
  -- the commands before the last get across, and leave a host that waits for the last
  have hbefore : ∀ bytes ∈ earlier, bytes.size ≤ settings.bufferSize := fun bytes hbytes =>
    hsize bytes (List.mem_append_left _ hbytes)
  have hlast : last.size ≤ settings.bufferSize :=
    hsize last (List.mem_append_right _ (List.mem_singleton_self last))
  obtain ⟨e, hall, hw', hsent, hqueued, hexits⟩ := hw.deliverAll hbefore hnone.left
  obtain ⟨hsplit, hrest⟩ := deliverAll_append earlier [last] hall
  obtain ⟨hnot, -⟩ := hrest hnone
  obtain ⟨e', hdeliver, hd⟩ := hw'.deliver hlast hnot
  have hboth : deliverAll (earlier ++ [last]) h = (.ok (), e') := by
    rw [hsplit, Host.deliverAll, hdeliver]
    rfl
  refine ⟨e, e', _, hall, hboth, rfl, hd.pending_eq, hd.sent_eq.trans hsent, ?_, hd.collects,
    hd.exits_eq.trans hexits, fun after c => hw'.exits hd after⟩
  -- as many frames were queued as commands came in, and one of them still is
  have hcount := hd.queued_eq.trans (congrArg (· + 1) hqueued)
  simp only [Controller.queued, hd.sent_eq, hsent, hd.pending_eq, hpending, Option.isSome_some,
    Option.isSome_none, if_true, Bool.false_eq_true, if_false] at hcount
  omega

/-- A session with a download behind it. -/
def rested : Host :=
  let connected : Host := { device := started {} {}, chunk := ({} : Settings).bufferSize }
  (connected.download "abc".toUTF8).2

/-- An upload and a reset that the host has not waited for. When the answer to the third command has
gone out, there is no reset. -/
theorem deliverAll_supersedes_rested : ∃ e e' response,
    deliverAll ["upload".toUTF8, "reboot".toUTF8] rested = (.ok (), e) ∧
      deliverAll ["upload".toUTF8, "reboot".toUTF8, "getvar:version".toUTF8] rested = (.ok (), e') ∧
      response = (e.device.answer "getvar:version".toUTF8).fitted ∧
      e'.device.usb.pending = some "OKAY0.4".toUTF8 ∧
      e'.device.usb.cancelled = rested.device.usb.cancelled + 2 ∧
      Collects e.device response e'.pump.1 ∧ ¬ e'.device.Exits (.sent .completed 7) := by
  have hreachable : Reachable {} rested :=
    .download (.connect (connect_eq_ok_iff.mpr ⟨Settings.valid_default, rfl⟩)) "abc".toUTF8
  obtain ⟨e, e', response, hall, hboth, hresponse, -, -, hcancelled, hcollects, -, -⟩ :=
    deliverAll_supersedes hreachable (by decide +kernel) (by decide +kernel) (by decide +kernel)
      (by decide +kernel) (by decide +kernel)
      (show ∀ bytes ∈ ["upload".toUTF8, "reboot".toUTF8] ++ ["getvar:version".toUTF8],
        bytes.size ≤ ({} : Settings).bufferSize by decide +kernel)
      ⟨by decide +kernel, by decide +kernel, by decide +kernel, trivial⟩
  obtain rfl : (deliverAll ["upload".toUTF8, "reboot".toUTF8, "getvar:version".toUTF8]
      rested).2 = e' :=
    congrArg Prod.snd hboth
  exact ⟨e, _, response, hall, hboth, hresponse, by decide +kernel, hcancelled, hcollects,
    by decide +kernel⟩

end Host

end Fastboot
