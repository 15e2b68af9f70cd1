import Fastboot.Proofs.Device.DataPhase
import Fastboot.Proofs.Device.Told

/-!
# Whoever follows the log

The log of a device can be followed (`Target.Followed`) while the changes of mode in it lead, each from where
the one before it has ended, from the mode of a new device to the mode that the device is in.

It can until a session starts or ends in a data phase. From then on the device is in a mode that its log does
not lead to, and the next change that is told of starts where the one before it has not ended: the log is
`Astray`, and nothing that happens later brings it back. So the log of a device can be followed exactly if no
data phase was cut off in its run (`followed_run`).
-/

namespace Fastboot

namespace Target

variable {t t' : Target} {texts : List String}

/-- The changes that the log tells of lead to the mode. -/
def Followed (t : Target) : Prop :=
  Mode.Chain .idle t.changes t.transfer.mode

/-- The changes that the log tells of lead elsewhere than to the idle mode that the device is in, or they lead
nowhere. -/
def Astray (t : Target) : Prop :=
  ∀ m, Mode.Chain .idle t.changes m → t.transfer.mode = .idle ∧ m ≠ .idle

/-- The mode is where the last change has ended, or that of a new device. -/
theorem Followed.mode_eq (h : t.Followed) :
    t.transfer.mode = (t.changes.getLast?.map Prod.snd).getD .idle :=
  h.eq_getLast?

theorem Astray.not_followed (h : t.Astray) : ¬ t.Followed := fun hfollowed =>
  (h _ hfollowed).2 (h _ hfollowed).1

/-- What is told of can be followed. -/
theorem Followed.tells (h : t.Followed) (ht : t.Tells texts t') : t'.Followed := by
  obtain ⟨told, hchanges, hchain⟩ := ht.exists_changes
  rw [Followed, hchanges]
  exact h.append hchain

/-- What is told later does not lead back. -/
theorem Astray.tells (h : t.Astray) (ht : t.Tells texts t') : t'.Astray := by
  obtain ⟨told, hchanges, hchain⟩ := ht.exists_changes
  intro m' hm'
  rw [hchanges] at hm'
  obtain ⟨m, hm, htold⟩ := hm'.exists_of_append
  obtain ⟨hidle, hne⟩ := h m hm
  cases told with
  | nil =>
    rw [hchain.end_eq (.nil _), htold.end_eq (.nil _)]
    exact ⟨hidle, hne⟩
  | cons change told =>
    -- the next change starts where the device is, and that is not where the log has led
    exact absurd (htold.start_eq.trans (hchain.start_eq.symm.trans hidle)) hne

end Target

namespace Device

variable {d : Device} {a : Action}

/-- What is cut off leaves a log that leads to the mode of the data phase. -/
theorem CutsOff.astray (ha : d.CutsOff a) (h : d.Followed ∨ d.Astray) : (d.act a).Astray := by
  have hmode : d.transfer.mode ≠ .idle := by
    cases ha with
    | enable _ hmode => exact hmode
    | disable _ hmode => exact hmode
  obtain ⟨hevents, hidle, -⟩ := ha.act
  intro m hm
  rw [Target.changes, hevents] at hm
  refine ⟨hidle, ?_⟩
  rcases h with hfollowed | hastray
  · rwa [hm.end_eq hfollowed]
  · exact absurd (hastray m hm).1 hmode

/-- Nothing that a device does brings its log back. -/
theorem Sound.astray_run (h : d.Sound none) (hastray : d.Astray) (actions : List Action) :
    (d.run actions).Astray := by
  induction actions generalizing d with
  | nil => exact hastray
  | cons a actions ih =>
    refine ih (h.act a) ?_
    by_cases ha : d.CutsOff a
    · exact ha.astray (.inr hastray)
    · exact hastray.tells (h.tells_act ha)

/-- From a log that can be followed on, one cut decides. -/
theorem Sound.followed_run_iff (h : d.Sound none) (hfollowed : d.Followed)
    (actions : List Action) : (d.run actions).Followed ↔
      ∀ before a after, actions = before ++ a :: after → ¬ (d.run before).CutsOff a := by
  induction actions generalizing d with
  | nil => exact iff_of_true hfollowed (by simp)
  | cons a actions ih =>
    by_cases ha : d.CutsOff a
    · have hastray := (h.act a).astray_run (ha.astray (.inl hfollowed)) actions
      exact iff_of_false hastray.not_followed fun hwhole => hwhole [] a actions rfl ha
    · rw [run_cons, ih (h.act a) (hfollowed.tells (h.tells_act ha))]
      constructor
      · rintro hrest (_ | ⟨b, before⟩) a' after hsplit
        · cases hsplit
          exact ha
        · cases hsplit
          exact hrest before a' after rfl
      · intro hwhole before a' after hsplit
        exact hwhole (a :: before) a' after (congrArg (a :: ·) hsplit)

/-- **Whoever follows the log of a device knows its mode**, as long as no session starts or ends in a data
phase, and no longer. Every action tells of the changes of mode that it makes, but for those: they end the data
phase, and nobody is told. -/
theorem followed_run {settings : Settings} {usb : Controller} {board : Board}
    (hbind : bind settings usb board = .ok d) (actions : List Action) :
    ((d.run actions).Followed ↔
      ∀ before a after, actions = before ++ a :: after → ¬ (d.run before).CutsOff a) ∧
    ∀ a, let e := d.run actions
      (¬ e.CutsOff a → ∃ told, (e.act a).changes = e.changes ++ told ∧
        Mode.Chain e.transfer.mode told (e.act a).transfer.mode) ∧
      (e.CutsOff a → (e.act a).changes = e.changes ∧ (e.act a).transfer.mode = .idle) := by
  have hsound := sound_of_bind hbind
  have hstart : d.Followed := by
    obtain ⟨-, rfl⟩ := bind_eq_ok_iff.mp hbind
    exact .nil .idle
  refine ⟨hsound.followed_run_iff hstart actions, fun a => ⟨fun ha => ?_, fun ha => ?_⟩⟩
  · exact ((hsound.run actions).tells_act ha).exists_changes
  · obtain ⟨hevents, hidle, -⟩ := ha.act
    exact ⟨by rw [Target.changes, hevents]; rfl, hidle⟩

/-- A session with a download of four bytes. -/
def downloadSession : List Action :=
  [.call .enable, asks "download:00000004", .call (.received .completed "abcd".toUTF8)]

/-- The log of a download can be followed, for nothing is cut off in it. -/
theorem followed_run_download :
    (tiny.run downloadSession).changes = [(.idle, .downloading), (.downloading, .idle)] ∧
      (tiny.run downloadSession).Followed ∧
      ∀ before a after, downloadSession = before ++ a :: after → ¬ (tiny.run before).CutsOff a := by
  have hchanges : (tiny.run downloadSession).changes =
      [(.idle, .downloading), (.downloading, .idle)] := by decide +kernel
  have hmode : (tiny.run downloadSession).transfer.mode = .idle := by decide +kernel
  have hfollowed : (tiny.run downloadSession).Followed := by
    rw [Target.Followed, hchanges, hmode]
    exact .cons nofun (.cons nofun (.nil .idle))
  exact ⟨hchanges, hfollowed, (followed_run bind_tiny downloadSession).1.mp hfollowed⟩

/-- A session that ends before the data has come. -/
def brokenSession : List Action :=
  [.call .enable, asks "download:00000004", .call .disable]

/-- **A log that cannot be followed.** A session that ends in a download leaves a log that leads to the
download. The next one starts where nobody has seen the device go. -/
theorem not_followed_run : bind tiny.settings {} {} = .ok tiny ∧
    ((tiny.run brokenSession).changes = [(.idle, .downloading)] ∧
      (tiny.run brokenSession).transfer.mode = .idle ∧ ¬ (tiny.run brokenSession).Followed) ∧
    (tiny.run (brokenSession ++ [.call .enable, asks "download:00000004"])).changes =
      [(.idle, .downloading), (.idle, .downloading)] := by
  have hchanges : (tiny.run brokenSession).changes = [(.idle, .downloading)] := by decide +kernel
  have hmode : (tiny.run brokenSession).transfer.mode = .idle := by decide +kernel
  refine ⟨bind_tiny, ⟨hchanges, hmode, fun hfollowed => ?_⟩, by decide +kernel⟩
  have hlast := hfollowed.mode_eq
  rw [hchanges, hmode] at hlast
  cases hlast

end Device

end Fastboot
