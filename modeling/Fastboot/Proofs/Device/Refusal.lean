import Fastboot.Proofs.Device.Answer

/-!
# Frames that are refused

When the controller refuses a frame, what was to follow it is given up, and nothing is queued. What has been
set up before the frame was offered stays: a command that opens a data phase opens it before its header is
handed over, and an upload whose chunk is refused is the only one to end it. So the exchange is left in the
data phase that the refused frame announces (`Sound.phase?_of_refused`), and is idle exactly if the frame
announces none (`refused_run`).
-/

namespace Fastboot.Device

variable {d d' : Device} {c : Call} {o : Offer} {actual : Nat} {status : TransferStatus}

/-- A status frame that is refused takes no data phase with it. -/
theorem phase?_dropped_reply (t : Transfer) (r : Reply) :
    (t.dropped (.reply r)).phase? = t.phase? :=
  rfl

/-- What goes on from a frame announces nothing. If it is refused, the exchange is idle. -/
theorem Progression.phase?_dropped (hp : Progression d actual status d' (some o)) :
    (d'.transfer.dropped o).phase? = none ∧ o.announced? = none := by
  cases hp with
  | broken => exact ⟨rfl, rfl⟩
  | chunk => exact ⟨rfl, rfl⟩
  | last => exact ⟨rfl, rfl⟩

/-- A transfer is answered by a status frame. -/
theorem Reception.phase?_dropped {data : ByteArray} (hr : Reception d data status d' (some o)) :
    (d'.transfer.dropped o).phase? = o.announced? := by
  rw [← hr.phase?_eq]
  rcases o with r | chunk
  · exact phase?_dropped_reply _ r
  · cases hr

/-- Whatever a call was to go on with, a refusal of its frame leaves no more than what that announces. -/
theorem Taking.phase?_dropped (ht : Taking d c d' (some o)) :
    (d'.transfer.dropped o).phase? = o.announced? := by
  cases ht with
  | received _ hr => exact hr.phase?_dropped
  | sent _ hp =>
    obtain ⟨hphase, hannounced⟩ := hp.phase?_dropped
    exact hphase.trans hannounced.symm

/-- **A frame that is refused** is followed by nothing, and leaves behind the data phase that it announces. -/
theorem Sound.phase?_of_refused (h : d.Sound none) (hoffer : d.offer? c = some o)
    (hrefuses : ¬ d.Accepts o) : (d.call c).usb.pending = none ∧
      (d.call c).transfer.next = .done ∧ (d.call c).transfer.phase? = o.announced? := by
  have htake : (d.take c).2 = some o := hoffer
  have ht := taking_take h c
  rw [htake] at ht
  have hfail : d.usb.failNext = true := by
    rw [accepts_iff_failNext] at hrefuses
    exact Bool.not_eq_false _ ▸ hrefuses
  have hdropped : (d.call c).transfer = (d.take c).1.transfer.dropped o := by
    have hrefuses' : ¬ (d.take c).1.Accepts o := by
      rcases ht.usb_eq with rfl | rfl | husb
      · cases hoffer
      · cases hoffer
      · rw [accepts_iff_failNext, husb, hfail]
        nofun
    rw [toTarget_call, htake, transfer_hand_some, if_neg hrefuses']
  refine ⟨?_, ?_, ?_⟩
  · rw [h.pending_call_of_some hoffer, if_pos hfail]
  · rw [hdropped, Transfer.next_dropped]
  · rw [hdropped]
    exact ht.phase?_dropped

/-- **What a refusal leaves behind.** When the controller refuses the frame that a call offers, no frame is
queued and nothing is to follow. The exchange is idle exactly if the frame was no header. Otherwise it is in
the data phase that the host was not told of. -/
theorem refused_run {settings : Settings} {usb : Controller} {board : Board}
    (hbind : bind settings usb board = .ok d) (before : List Action)
    (hoffer : (d.run before).offer? c = some o)
    (hrefuses : ((d.run before).usb.replaceIn o.frame).1 ≠ .ok ()) :
    ∃ e, e = (d.run before).call c ∧ e.usb.pending = none ∧ e.transfer.next = .done ∧
      (e.transfer.mode = .idle ↔ ∀ size next, o ≠ .reply ⟨.data size, next⟩) ∧
      ∀ size next, o = .reply ⟨.data size, next⟩ →
        e.transfer.mode = .downloading ∧ e.transfer.downloadSize = size ∨
          e.transfer.mode = .uploading ∧ e.transfer.uploadSize = size := by
  obtain ⟨hpending, hnext, hphase⟩ :=
    ((sound_of_bind hbind).run before).phase?_of_refused hoffer hrefuses
  refine ⟨_, rfl, hpending, hnext, ?_, fun size next ho => ?_⟩
  · rw [← Transfer.phase?_eq_none_iff, hphase, Option.eq_none_iff_forall_ne_some]
    simp only [ne_eq, Offer.announced?_eq_some_iff, not_exists]
  · rw [← Transfer.phase?_eq_some_iff, hphase, Offer.announced?_eq_some_iff]
    exact ⟨next, ho⟩

/-- A session whose next frame will be refused. -/
def failing : List Action :=
  [.call .enable, .world (·.failNextQueue) id]

/-- The value of a variable is refused, and nothing is left of it. -/
theorem refused_run_getvar :
    (tiny.run failing).offer? (.received .completed "getvar:version".toUTF8) =
        some (.reply ⟨.okay "0.4", .done⟩) ∧
      ((tiny.run failing).call (.received .completed "getvar:version".toUTF8)).transfer.mode =
        .idle := by
  have hoffer : (tiny.run failing).offer? (.received .completed "getvar:version".toUTF8) =
      some (.reply ⟨.okay "0.4", .done⟩) := by
    decide +kernel
  obtain ⟨e, he, -, -, hidle, -⟩ := refused_run bind_tiny failing hoffer (by decide +kernel)
  refine ⟨hoffer, ?_⟩
  rw [← he]
  exact hidle.mpr nofun

/-- **A data phase that nobody knows of.** The header of a download is refused, and the download goes on: the
command that the host sends next is stored as its data. -/
theorem not_idle_of_refused :
    ∃ e, e = (tiny.run failing).call (.received .completed "download:00000004".toUTF8) ∧
      (tiny.run failing).lifecycle = .enabled ∧
      (tiny.run failing).offer? (.received .completed "download:00000004".toUTF8) =
        some (.reply ⟨.data 4, .done⟩) ∧
      ¬ (tiny.run failing).Accepts (.reply ⟨.data 4, .done⟩) ∧
      e.transfer.mode = .downloading ∧ e.usb.queued = 0 ∧
      (e.call (.received .completed "getvar:version".toUTF8)).usb.pending = some "OKAY".toUTF8 :=
  ⟨_, rfl, by decide +kernel, by decide +kernel, by decide +kernel, by decide +kernel,
    by decide +kernel, by decide +kernel⟩

end Fastboot.Device
