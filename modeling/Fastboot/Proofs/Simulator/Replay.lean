import Fastboot.Proofs.Simulator.Folder
import Fastboot.Proofs.Simulator.Layout

/-!
# Scripts, line by line

`Replays` gives a script by its lines, one rule for each way in which a line can end it or not: a line that
succeeds is recorded, a line that fails is named by its number, and neither a failure nor a device that leaves
the session lets a line behind it run. This is what `runScript` does (`replays_runScript`), and there is no
other way through a script (`Replays.unique`).

Two laws follow by induction on such a run. Once a line has stopped it, the lines behind do not matter
(`Replays.of_prefix`). And in two folders that differ in one file that none of the lines reads, the same lines
do the same, whatever their numbers (`Replays.of_agreesBut`).
-/

namespace Fastboot.Simulator

variable {input : ByteArray} {h h' : Host} {f f' f₁ f₂ g : Folder} {own : Option String}

/-! ### A line -/

namespace Action

/-- Whether an action reads no file of a given name. -/
def Spares (own : Option String) : Action → Prop
  | .download path => Avoids own path
  | .upload _ | .command _ => True

/-- A name, unless an action writes the file of that name. -/
def unwritten (own : Option String) : Action → Option String
  | .upload path => own.filter (fileName? path ≠ some ·)
  | .download _ | .command _ => own

end Action

/-- Whether actions, one after the other, leave a file alone: none reads it before one has written it. -/
def Spares (own : Option String) : List Action → Prop
  | [] => True
  | action :: actions => action.Spares own ∧ Spares (action.unwritten own) actions

instance Action.decidableSpares (own : Option String) :
    (action : Action) → Decidable (action.Spares own)
  | .download path => inferInstanceAs (Decidable (Avoids own path))
  | .upload _ | .command _ => .isTrue trivial

instance Spares.decidable :
    (own : Option String) → (actions : List Action) → Decidable (Spares own actions)
  | _, [] => .isTrue trivial
  | own, action :: actions =>
    have := Spares.decidable (action.unwritten own) actions
    inferInstanceAs (Decidable (_ ∧ _))

theorem Spares.take {actions : List Action} (h : Spares own actions) (count : Nat) :
    Spares own (actions.take count) := by
  induction actions generalizing own count with
  | nil => simpa using h
  | cons action actions ih =>
    cases count with
    | zero => trivial
    | succ count => exact ⟨h.1, ih h.2 count⟩

/-- Where there is no file to leave alone, all actions do. -/
theorem spares_none (actions : List Action) : Spares none actions := by
  induction actions with
  | nil => trivial
  | cons action actions ih =>
    cases action with
    | download path => exact ⟨nofun, ih⟩
    | upload path | command text => exact ⟨trivial, ih⟩

section
variable {action : Action}

theorem Folder.run_read (input : ByteArray) (path : String) (f : Folder) :
    ((Folder.files input).read path).run f = pure (f.read path, f) := rfl

theorem Folder.run_write (input : ByteArray) (path : String) (bytes : ByteArray) (f : Folder) :
    ((Folder.files input).write path bytes).run f =
      match f.write path bytes with
      | .ok f => pure (.ok (), f)
      | .error e => pure (.error e, f) := by
  simp only [Folder.files, StateT.run_bind, StateT.run_get, pure_bind]
  rcases f.write path bytes with e | f'
  · rfl
  · rfl

theorem runAction_download (input : ByteArray) (h : Host) (path : String) (f : Folder) :
    (runAction (Folder.files input) h (.download path)).run f =
      match f.read path with
      | .error e => ((.error (.reading path e), h), f)
      | .ok data =>
        match h.download data with
        | (.error e, h) => ((.error (.host e), h), f)
        | (.ok response, h) => ((.ok response.text, h), f) := by
  simp only [runAction, StateT.run_bind, Folder.run_read, pure_bind]
  rcases f.read path with e | data
  · rfl
  · simp only
    rcases h.download data with ⟨e | response, h'⟩
    · rfl
    · rfl

theorem runAction_upload (input : ByteArray) (h : Host) (path : String) (f : Folder) :
    (runAction (Folder.files input) h (.upload path)).run f =
      match h.upload with
      | (.error e, h) => ((.error (.host e), h), f)
      | (.ok data, h) =>
        match f.write path data with
        | .error e => ((.error (.writing path e), h), f)
        | .ok f => ((.ok s!"OKAY ({data.size} bytes)", h), f) := by
  rw [runAction]
  rcases h.upload with ⟨e | data, h'⟩
  · rfl
  · simp only [StateT.run_bind, Folder.run_write]
    rcases f.write path data with e | f'
    · rfl
    · rfl

theorem Folder.AgreesBut.of_unwritten (h : f.AgreesBut (action.unwritten own) g) :
    f.AgreesBut own g := by
  cases action with
  | upload path => exact h.filter
  | download path | command text => exact h

/-- An action that does not read the one file that two folders differ in does the same in both. -/
theorem runAction_of_agreesBut (hfg : f.AgreesBut own g) (hspares : action.Spares own)
    (input input' : ByteArray) (h : Host) :
    ∃ result f' g',
      (runAction (Folder.files input) h action).run f = (result, f') ∧
      (runAction (Folder.files input') h action).run g = (result, g') ∧
      f'.AgreesBut own g' ∧
      ∀ answer, result.1 = .ok answer → f'.AgreesBut (action.unwritten own) g' := by
  cases action with
  | command text =>
    rw [runAction, runAction]
    rcases h.command text with ⟨e | response, h'⟩
    · exact ⟨_, f, g, rfl, rfl, hfg, nofun⟩
    · exact ⟨_, f, g, rfl, rfl, hfg, fun _ _ => hfg⟩
  | download path =>
    simp only [runAction_download, hfg.read_eq hspares]
    rcases g.read path with e | data
    · exact ⟨_, f, g, rfl, rfl, hfg, nofun⟩
    · simp only
      rcases h.download data with ⟨e | response, h'⟩
      · exact ⟨_, f, g, rfl, rfl, hfg, nofun⟩
      · exact ⟨_, f, g, rfl, rfl, hfg, fun _ _ => hfg⟩
  | upload path =>
    simp only [runAction_upload]
    rcases h.upload with ⟨e | data, h'⟩
    · exact ⟨_, f, g, rfl, rfl, hfg, nofun⟩
    · rcases hfg.write_cases path data with ⟨e, hf, hg⟩ | ⟨name, hname, hf, hg⟩
      · simp only [hf, hg]
        exact ⟨_, f, g, rfl, rfl, hfg, nofun⟩
      · simp only [hf, hg]
        have hinsert := hfg.insert name data
        refine ⟨_, _, _, rfl, rfl, hinsert.filter, fun _ _ => ?_⟩
        simpa [Action.unwritten, hname, eq_comm] using hinsert

end

/-! ### A run -/

/-- A script against a host and a folder, by the lines that are not passed over and their numbers: what it
comes to, and the folder afterwards. -/
inductive Replays (input : ByteArray) :
    Host → Folder → List (String × Nat) → ScriptRun → Folder → Prop
  /-- All lines have been run. -/
  | finished (h : Host) (f : Folder) : Replays input h f [] { host := h } f
  /-- A line fails, and none behind it is run. -/
  | failed {line : String} {number : Nat} {lines : List (String × Nat)} {h h' : Host} {f f' : Folder}
      {e : LineError}
      (hline : (runAction (Folder.files input) h (.ofLine line)).run f = ((.error e, h'), f')) :
      Replays input h f ((line, number) :: lines) { failure := some (number, e), host := h' } f'
  /-- The device leaves the session, and no line behind is run. -/
  | left {line answer : String} {number : Nat} {lines : List (String × Nat)} {h h' : Host}
      {f f' : Folder}
      (hline : (runAction (Folder.files input) h (.ofLine line)).run f = ((.ok answer, h'), f'))
      (hhalted : h'.device.isHalted = true) :
      Replays input h f ((line, number) :: lines)
        { records := [line ++ " -> " ++ answer], host := h' } f'
  /-- A line is recorded, and the lines behind it are run. -/
  | next {line answer : String} {number : Nat} {lines : List (String × Nat)} {h h' : Host}
      {f f' f'' : Folder} {r : ScriptRun}
      (hline : (runAction (Folder.files input) h (.ofLine line)).run f = ((.ok answer, h'), f'))
      (hhalted : h'.device.isHalted = false) (hrest : Replays input h' f' lines r f'') :
      Replays input h f ((line, number) :: lines)
        { r with records := (line ++ " -> " ++ answer) :: r.records } f''

namespace ScriptRun

/-- How many lines a run has come to: those that it has recorded, and the one that failed. -/
def executed (r : ScriptRun) : Nat :=
  r.records.length + if r.failure.isSome then 1 else 0

/-- Whether a run ended on account of a line and not for want of lines. -/
def Stopped (r : ScriptRun) : Prop :=
  r.failure.isSome ∨ r.host.device.isHalted

theorem executed_cons (r : ScriptRun) (record : String) :
    { r with records := record :: r.records }.executed = r.executed + 1 :=
  Nat.add_right_comm ..

end ScriptRun

/-- A script is run by these rules. -/
theorem replays_runScript (input : ByteArray) (h : Host) (f : Folder) (number : Nat)
    (lines : List String) :
    let r := (runScript (Folder.files input) h number lines).run f
    Replays input h f (numbered number lines) r.1 r.2 := by
  induction lines generalizing h f number with
  | nil => exact .finished h f
  | cons line lines ih =>
    rw [runScript]
    cases hskipped : isSkipped (Text.trim line) with
    | true =>
      -- A line that is passed over takes a number and does nothing else.
      rw [numbered_cons_of_isSkipped hskipped]
      exact ih h f (number + 1)
    | false =>
      rw [numbered_cons hskipped]
      simp only [Bool.false_eq_true, if_false, StateT.run_bind]
      rcases hline : (runAction (Folder.files input) h (.ofLine (Text.trim line))).run f with
        ⟨⟨e | answer, h'⟩, f'⟩
      · exact .failed hline
      · cases hhalted : h'.device.isHalted with
        | true =>
          simp only [bind, hhalted, if_true]
          exact .left hline hhalted
        | false =>
          simp only [bind, hhalted, Bool.false_eq_true, if_false]
          exact .next hline hhalted (ih h' f' (number + 1))

namespace Replays

variable {r r' : ScriptRun} {lines lines' : List (String × Nat)}

/-- There is one way through a script: no two rules apply to the same line. -/
theorem unique (hr : Replays input h f lines r f₁) (hr' : Replays input h f lines r' f₂) :
    r = r' ∧ f₁ = f₂ := by
  induction hr generalizing r' f₂ with
  | finished h f =>
    cases hr'
    exact ⟨rfl, rfl⟩
  | failed hline =>
    cases hr' with
    | failed hline' =>
      cases hline.symm.trans hline'
      exact ⟨rfl, rfl⟩
    | left hline' | next hline' => cases hline.symm.trans hline'
  | left hline hhalted =>
    cases hr' with
    | failed hline' => cases hline.symm.trans hline'
    | left hline' =>
      cases hline.symm.trans hline'
      exact ⟨rfl, rfl⟩
    | next hline' hhalted' =>
      cases hline.symm.trans hline'
      exact absurd hhalted (by simp [hhalted'])
  | next hline hhalted hrest ih =>
    cases hr' with
    | failed hline' => cases hline.symm.trans hline'
    | left hline' hhalted' =>
      cases hline.symm.trans hline'
      exact absurd hhalted' (by simp [hhalted])
    | next hline' hhalted' hrest' =>
      cases hline.symm.trans hline'
      obtain ⟨rfl, rfl⟩ := ih hrest'
      exact ⟨rfl, rfl⟩

/-- A run that a line has stopped is the same whatever lines stand behind. -/
theorem of_prefix (hr : Replays input h f lines r f₁) (hstart : h.device.isHalted = false)
    (hstopped : r.Stopped) (hlines : lines.take r.executed <+: lines') :
    Replays input h f lines' r f₁ := by
  induction hr generalizing lines' with
  | finished h f =>
    rcases hstopped with hfailure | hhalted
    · cases hfailure
    · exact absurd hhalted (by simp [hstart])
  | failed hline =>
    obtain ⟨rest, rfl⟩ := hlines
    exact .failed hline
  | left hline hhalted =>
    obtain ⟨rest, rfl⟩ := hlines
    exact .left hline hhalted
  | @next line answer number lines h h' f f' f'' r hline hhalted hrest ih =>
    obtain ⟨rest, rfl⟩ := hlines
    rw [ScriptRun.executed_cons, List.take_succ_cons, List.cons_append]
    exact .next hline hhalted (ih hhalted hstopped (List.prefix_append _ rest))

/-- In two folders that differ in one file that no line reads, the same lines do the same, whatever their
numbers. -/
theorem of_agreesBut (hr : Replays input h f lines r f₁) (input' : ByteArray) (hfg : f.AgreesBut own g)
    (hlines : lines'.map Prod.fst = lines.map Prod.fst)
    (hspares : Spares own ((lines.take r.executed).map fun line => .ofLine line.1)) :
    ∃ r' g₁, Replays input' h g lines' r' g₁ ∧ r'.records = r.records ∧ r'.host = r.host ∧
      r'.failure.map Prod.snd = r.failure.map Prod.snd ∧ f₁.AgreesBut own g₁ := by
  -- A line may write the one file in both folders, and they agree in all from there on: so the file that
  -- they differ in is not the same along the run.
  induction hr generalizing g lines' own with
  | finished h f =>
    obtain rfl := List.map_eq_nil_iff.mp hlines
    exact ⟨_, g, .finished h g, rfl, rfl, rfl, hfg⟩
  | failed hline =>
    obtain ⟨⟨line', number'⟩, rest, rfl, rfl, -⟩ := List.map_eq_cons_iff.mp hlines
    obtain ⟨result, f', g', hf, hg, hagree, -⟩ := runAction_of_agreesBut hfg hspares.1 _ input' _
    cases hline.symm.trans hf
    exact ⟨_, g', .failed hg, rfl, rfl, rfl, hagree⟩
  | left hline hhalted =>
    obtain ⟨⟨line', number'⟩, rest, rfl, rfl, -⟩ := List.map_eq_cons_iff.mp hlines
    obtain ⟨result, f', g', hf, hg, hagree, -⟩ := runAction_of_agreesBut hfg hspares.1 _ input' _
    cases hline.symm.trans hf
    exact ⟨_, g', .left hg hhalted, rfl, rfl, rfl, hagree⟩
  | @next line answer number lines h h' f f' f'' r hline hhalted hrest ih =>
    obtain ⟨⟨line', number'⟩, rest, rfl, rfl, hrestlines⟩ := List.map_eq_cons_iff.mp hlines
    rw [ScriptRun.executed_cons, List.take_succ_cons, List.map_cons] at hspares
    obtain ⟨result, f₁, g₁, hf, hg, hagree, hwritten⟩ :=
      runAction_of_agreesBut hfg hspares.1 input input' h
    cases hline.symm.trans hf
    obtain ⟨r', g₂, hr', hrecords, hhost, hfailure, hagree'⟩ :=
      ih (hwritten answer rfl) hrestlines hspares.2
    exact ⟨_, g₂, .next hg hhalted hr', by rw [hrecords], hhost, hfailure, hagree'.of_unwritten⟩

end Replays

end Fastboot.Simulator
