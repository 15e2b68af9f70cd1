import Fastboot.Proofs.Host.Session
import Fastboot.Proofs.Simulator.Replay
import Fastboot.Proofs.Text.Utf8
import Fastboot.Simulator.Session

/-!
# Scripts in two layouts

The arguments name a script, which is a file or the standard input (`Arguments.Reads`), and the commands of the
command line stand in front of its lines. `Arguments.Relaid` gives the same script another layout where it
stands. Main statement: the session ends alike (`runArguments_relaid`), with the same output and the same files,
and a failure differs in the number of the line at most. The settings may be documents in any format.

A script that is a file can be read in another way too, by one of its own lines or as the settings, and then
its layout is data (`runArguments_relaid_read_again`). So the script is to be spared
(`Arguments.SparesScript`): its file is read as a script only, until a line has written it. And a script is
text, down to the lines that are passed over: of one that is not, no line is run.
-/

namespace Fastboot.Simulator

variable {format : Format} {a : Arguments} {f g : Folder} {input input' bytes : ByteArray} {h : Host} {path : String}
  {script script' : List String}

/-! ### The script -/

/-- The lines of a script, if it is a text. -/
def scriptText? (bytes : ByteArray) : Option (List String) :=
  (String.fromUTF8? bytes).map Text.textLines

/-- The lines of the script that the arguments name. -/
inductive Arguments.Reads (a : Arguments) (f : Folder) (input : ByteArray) : List String → Prop
  /-- The script is a file. -/
  | file {path : String} {bytes : ByteArray} {script : List String} (hpath : a.script = some path)
      (hread : f.read path = .ok bytes) (hscript : scriptText? bytes = some script) :
      a.Reads f input script
  /-- The script is the standard input. -/
  | input {script : List String} (hpath : a.script = none) (hcommands : a.commands = [])
      (hscript : scriptText? input = some script) : a.Reads f input script
  /-- There is no script, and there are commands in its place. -/
  | none (hpath : a.script = none) (hcommands : a.commands ≠ []) : a.Reads f input []

theorem run_scriptLines_file (hpath : a.script = some path) (hread : f.read path = .ok bytes)
    (input : ByteArray) :
    (scriptLines (Folder.files input) a).run f =
      match scriptText? bytes with
      | some script => pure (.ok (a.commands ++ script), f)
      | none => pure (.error ["reading script " ++ path, notText], f) := by
  simp only [scriptLines, hpath, StateT.run_bind, Folder.run_read, pure_bind, hread, scriptText?]
  cases String.fromUTF8? bytes with
  | none => rfl
  | some text => rfl

theorem run_scriptLines_input (hpath : a.script = none) (hcommands : a.commands = [])
    (input : ByteArray) (f : Folder) :
    (scriptLines (Folder.files input) a).run f =
      match scriptText? input with
      | some script => pure (.ok (a.commands ++ script), f)
      | none => pure (.error [notText], f) := by
  simp only [scriptLines, hpath, hcommands, scriptText?]
  cases hinput : String.fromUTF8? input with
  | none => simp [Folder.files, hinput]
  | some text => simp [Folder.files, hinput, Text.textLines]

theorem run_scriptLines (hreads : a.Reads f input script) :
    (scriptLines (Folder.files input) a).run f = pure (.ok (a.commands ++ script), f) := by
  cases hreads with
  | file hpath hread hscript => rw [run_scriptLines_file hpath hread, hscript]
  | input hpath hcommands hscript => rw [run_scriptLines_input hpath hcommands, hscript]
  | none hpath hcommands => simp [scriptLines, hpath, hcommands]

/-- A script that is not there, or is no text, has no lines. -/
theorem run_scriptLines_of_forall_not_reads (h : ∀ script, ¬ a.Reads f input script) :
    ∃ messages, (scriptLines (Folder.files input) a).run f = pure (.error messages, f) := by
  cases hpath : a.script with
  | some path =>
    cases hread : f.read path with
    | error e =>
      refine ⟨["reading script " ++ path, e.message], ?_⟩
      simp only [scriptLines, hpath, StateT.run_bind, Folder.run_read, pure_bind, hread]
      rfl
    | ok bytes =>
      refine ⟨["reading script " ++ path, notText], ?_⟩
      cases hscript : scriptText? bytes with
      | none => rw [run_scriptLines_file hpath hread, hscript]
      | some script => exact absurd (.file hpath hread hscript) (h script)
  | none =>
    by_cases hcommands : a.commands = []
    · refine ⟨[notText], ?_⟩
      cases hscript : scriptText? input with
      | none => rw [run_scriptLines_input hpath hcommands, hscript]
      | some script => exact absurd (.input hpath hcommands hscript) (h script)
    · exact absurd (.none hpath hcommands) (h [])

/-- There is one script. -/
theorem Arguments.Reads.unique (hreads : a.Reads f input script) (hreads' : a.Reads f input script') :
    script = script' := by
  have hrun := (run_scriptLines hreads).symm.trans (run_scriptLines hreads')
  exact List.append_cancel_left (Except.ok.inj (congrArg Prod.fst hrun))

/-! ### Another layout -/

/-- Whether the bytes are those of a script in another layout. Bytes that are no text have none. -/
def SameScript (bytes bytes' : ByteArray) : Prop :=
  Option.Rel Edits (String.fromUTF8? bytes) (String.fromUTF8? bytes')

theorem SameScript.of_edits {text text' : String} (h : Edits text text') :
    SameScript text.toUTF8 text'.toUTF8 := by
  rw [SameScript, Text.fromUTF8?_toUTF8, Text.fromUTF8?_toUTF8]
  exact .some h

/-- The file of the folder that the script is. -/
def Arguments.own (a : Arguments) : Option String :=
  a.script.bind fileName?

/-- A folder and a standard input in which the script, wherever it is read from, has another layout, and all
else is as it was. -/
inductive Arguments.Relaid (a : Arguments) (f : Folder) (input : ByteArray) : Folder → ByteArray → Prop
  | input {input' : ByteArray} (hpath : a.script = none) (hsame : SameScript input input') :
      a.Relaid f input f input'
  | file {path name : String} {bytes bytes' : ByteArray} (hpath : a.script = some path)
      (hname : fileName? path = some name) (hread : f.read path = .ok bytes)
      (hsame : SameScript bytes bytes') : a.Relaid f input (f.insert name bytes') input

/-- The bytes of both are no text, or they are lines and the same lines in another layout. -/
theorem SameScript.cases {bytes bytes' : ByteArray} (h : SameScript bytes bytes') :
    (scriptText? bytes = none ∧ scriptText? bytes' = none) ∨
      ∃ script script', scriptText? bytes = some script ∧ scriptText? bytes' = some script' ∧
        Relaid script script' := by
  unfold SameScript at h
  unfold scriptText?
  generalize String.fromUTF8? bytes = text, String.fromUTF8? bytes' = text' at h
  cases h with
  | none => exact .inl ⟨rfl, rfl⟩
  | some hedits => exact .inr ⟨_, _, rfl, rfl, hedits.relaid⟩

/-- When the file that a path reads is written anew, no other file changes, and the path reads what was
written. -/
theorem read_insert {name : String} (hname : fileName? path = some name) (hread : f.read path = .ok bytes)
    (bytes' : ByteArray) :
    f.AgreesBut (some name) (f.insert name bytes') ∧
      Folder.read (f.insert name bytes') path = .ok bytes' := by
  obtain ⟨e, he, -⟩ | ⟨name', bytes₀, -, hname', hfile, -⟩ :=
    (Folder.AgreesBut.refl none f).read_cases path
  · cases hread.symm.trans he
  · cases hname.symm.trans hname'
    have hagree := Folder.agreesBut_insert bytes' (Option.isSome_of_eq_some hfile)
    refine ⟨hagree, ?_⟩
    obtain ⟨e, he, -⟩ | ⟨name', -, bytes₁, hname', -, hfile', -, hread'⟩ := hagree.read_cases path
    · cases hread.symm.trans he
    · cases hname.symm.trans hname'
      rw [Table.get?_insert, if_pos rfl] at hfile'
      cases hfile'
      exact hread'

namespace Arguments.Relaid

theorem agreesBut (hr : a.Relaid f input g input') : f.AgreesBut a.own g := by
  cases hr with
  | input hpath hsame => exact .refl _ f
  | file hpath hname hread hsame =>
    rw [Arguments.own, hpath, Option.bind_some, hname]
    exact (read_insert hname hread _).1

/-- The script cannot be read in either layout, or its lines are the same but for their layout. -/
theorem scriptLines_cases (hr : a.Relaid f input g input') :
    (∃ messages, (scriptLines (Folder.files input) a).run f = pure (.error messages, f) ∧
      (scriptLines (Folder.files input') a).run g = pure (.error messages, g)) ∨
    ∃ script script', a.Reads f input script ∧ a.Reads g input' script' ∧
      Simulator.Relaid script script' := by
  cases hr with
  | input hpath hsame =>
    by_cases hcommands : a.commands = []
    · obtain ⟨hnone, hnone'⟩ | ⟨script, script', hsome, hsome', hrelaid⟩ := hsame.cases
      · refine .inl ⟨[notText], ?_, ?_⟩
        · rw [run_scriptLines_input hpath hcommands, hnone]
        · rw [run_scriptLines_input hpath hcommands, hnone']
      · exact .inr ⟨script, script', .input hpath hcommands hsome, .input hpath hcommands hsome', hrelaid⟩
    · exact .inr ⟨[], [], .none hpath hcommands, .none hpath hcommands, .nil⟩
  | @file path name bytes bytes' hpath hname hread hsame =>
    have hread' := (read_insert hname hread bytes').2
    obtain ⟨hnone, hnone'⟩ | ⟨script, script', hsome, hsome', hrelaid⟩ := hsame.cases
    · refine .inl ⟨["reading script " ++ path, notText], ?_, ?_⟩
      · rw [run_scriptLines_file hpath hread, hnone]
      · rw [run_scriptLines_file hpath hread', hnone']
    · exact .inr ⟨script, script', .file hpath hread hsome, .file hpath hread' hsome', hrelaid⟩

end Arguments.Relaid

/-! ### What comes before the lines -/

section
variable {settings : Settings} {messages : List String}

theorem run_of_settings_error
    (hsettings : (loadSettings format (Folder.files input) a.config).run f = pure (.error messages, f)) :
    (runArguments format (Folder.files input) a).run f = (failed messages, f) := by
  simp only [runArguments, StateT.run_bind, hsettings, pure_bind]
  rfl

theorem run_of_writeConfig
    (hsettings : (loadSettings format (Folder.files input) a.config).run f = pure (.ok settings, f))
    (hwrite : a.writeConfig = some path) :
    (runArguments format (Folder.files input) a).run f =
      match settings.save? format with
      | none => (failed [notWritten], f)
      | some text =>
        match f.write path text.toUTF8 with
        | .ok f => ({}, f)
        | .error e => (failed [e.message], f) := by
  simp only [runArguments, StateT.run_bind, hsettings, pure_bind, hwrite]
  cases settings.save? format with
  | none => rfl
  | some text =>
    simp only [StateT.run_bind, Folder.run_write]
    cases f.write path text.toUTF8 with
    | error e => rfl
    | ok f' => rfl

theorem run_of_session
    (hsettings : (loadSettings format (Folder.files input) a.config).run f = pure (.ok settings, f))
    (hwrite : a.writeConfig = none) :
    (runArguments format (Folder.files input) a).run f =
      (runSession (Folder.files input) a settings).run f := by
  simp only [runArguments, StateT.run_bind, hsettings, pure_bind, hwrite]

theorem run_of_connect_error {e : ConnectError}
    (hconnect : Host.connect settings simulatedBoard = .error e) :
    (runSession (Folder.files input) a settings).run f = (failed [e.message], f) := by
  rw [runSession, hconnect]
  rfl

theorem run_of_script_error (hconnect : Host.connect settings simulatedBoard = .ok h)
    (hscript : (scriptLines (Folder.files input) a).run f = (.error messages, f)) :
    (runSession (Folder.files input) a settings).run f = (failed messages, f) := by
  rw [runSession, hconnect]
  simp only [StateT.run_bind, hscript]
  rfl

end

/-! ### Sessions -/

/-- The start of a session: the host, and the lines that it is to run. -/
inductive Begins (format : Format) (a : Arguments) (f : Folder) (input : ByteArray) :
    Host → List String → Prop
  | mk {settings : Settings} {h : Host} {script : List String}
      (hsettings : (loadSettings format (Folder.files input) a.config).run f = (.ok settings, f))
      (hwrite : a.writeConfig = none) (hconnect : Host.connect settings simulatedBoard = .ok h)
      (hscript : a.Reads f input script) :
      Begins format a f input (a.chunk.elim h h.withChunk) (a.commands ++ script)

/-- What a script comes to is the outcome of its session. -/
theorem Begins.run_eq {lines : List String} (hb : Begins format a f input h lines) :
    (runArguments format (Folder.files input) a).run f =
      ((runScript (Folder.files input) h 1 lines).run f).map ScriptRun.outcome id := by
  obtain ⟨hsettings, hwrite, hconnect, hscript⟩ := hb
  rw [run_of_session hsettings hwrite, runSession, hconnect]
  simp only [StateT.run_bind, run_scriptLines hscript]
  cases a.chunk with
  | none => rfl
  | some chunk => rfl

theorem Begins.isHalted_eq {lines : List String} (hb : Begins format a f input h lines) :
    h.device.isHalted = false := by
  obtain ⟨hsettings, hwrite, hconnect, hscript⟩ := hb
  obtain ⟨-, rfl⟩ := Host.connect_eq_ok_iff.mp hconnect
  cases a.chunk with
  | none => rfl
  | some chunk => rfl

/-- Two outcomes that differ in nothing, or only in the number of the line that failed. -/
def Outcome.SameButNumber (o o' : Outcome) : Prop :=
  o.code = o'.code ∧ o.output = o'.output ∧
    (o.errors = o'.errors ∨
      ∃ (progress : String) (m n : Nat) (messages : List String),
        o.errors = progress ++ report (s!"script line {m}" :: messages) ∧
        o'.errors = progress ++ report (s!"script line {n}" :: messages))

theorem Outcome.SameButNumber.refl (o : Outcome) : o.SameButNumber o :=
  ⟨rfl, rfl, .inl rfl⟩

/-- Two runs with the same outcome but for a number, and the same files but for one. -/
def EndAlike (own : Option String) (x y : Outcome × Folder) : Prop :=
  x.1.SameButNumber y.1 ∧ x.2.AgreesBut own y.2

theorem ScriptRun.sameButNumber {r r' : ScriptRun} (hrecords : r'.records = r.records)
    (hhost : r'.host = r.host) (hfailure : r'.failure.map Prod.snd = r.failure.map Prod.snd) :
    r.outcome.SameButNumber r'.outcome := by
  obtain ⟨records, failure, host⟩ := r
  obtain ⟨records', failure', host'⟩ := r'
  obtain rfl : records' = records := hrecords
  obtain rfl : host' = host := hhost
  cases failure with
  | none =>
    obtain rfl := Option.map_eq_none_iff.mp hfailure
    exact ⟨rfl, rfl, .inl rfl⟩
  | some failure =>
    obtain ⟨⟨number', e⟩, rfl, rfl⟩ := Option.map_eq_some_iff.mp hfailure
    exact ⟨rfl, rfl, .inr ⟨_, failure.1, number', failure.2.messages, rfl, rfl⟩⟩

/-! ### Two runs -/

/-- Whether a run leaves the script alone as long as it is one: the settings are not read from its file, and
none of the lines that are run reads the file until one has written it. -/
structure Arguments.SparesScript (format : Format) (a : Arguments) (f : Folder) (input : ByteArray) :
    Prop where
  config : ∀ path ∈ a.config, Avoids a.own path
  lines {h : Host} {lines : List String} {r : ScriptRun} {f' : Folder} :
    Begins format a f input h lines → Replays input h f (numbered 1 lines) r f' →
      Spares a.own (((numbered 1 lines).take r.executed).map fun line => .ofLine line.1)

/-- Settings that are not read from the one file are the same in both folders. -/
theorem run_loadSettings (format : Format) {own config : Option String} (hfg : f.AgreesBut own g)
    (hconfig : ∀ path ∈ config, Avoids own path) (input input' : ByteArray) :
    ∃ result, (loadSettings format (Folder.files input) config).run f = (result, f) ∧
      (loadSettings format (Folder.files input') config).run g = (result, g) := by
  cases config with
  | none => exact ⟨_, rfl, rfl⟩
  | some path =>
    simp only [loadSettings, StateT.run_bind, Folder.run_read, pure_bind,
      hfg.read_eq (hconfig path rfl)]
    cases g.read path with
    | error e => exact ⟨_, rfl, rfl⟩
    | ok bytes =>
      simp only
      cases Settings.loadFrom format bytes with
      | error e => exact ⟨_, rfl, rfl⟩
      | ok settings => exact ⟨_, rfl, rfl⟩

/-- Two sessions that start with the same host, in folders that differ in the script only, with the same
lines in two layouts. -/
theorem Begins.endAlike {lines lines' : List String} (hb : Begins format a f input h lines)
    (hb' : Begins format a g input' h lines') (hfg : f.AgreesBut a.own g) (hlines : Relaid lines lines')
    (hspares : a.SparesScript format f input) :
    EndAlike a.own ((runArguments format (Folder.files input) a).run f)
      ((runArguments format (Folder.files input') a).run g) := by
  have hr := replays_runScript input h f 1 lines
  obtain ⟨r', g₁, hr', hrecords, hhost, hfailure, hagree⟩ :=
    hr.of_agreesBut input' hfg (hlines.map_fst_numbered 1 1) (hspares.lines hb hr)
  obtain ⟨rfl, rfl⟩ := hr'.unique (replays_runScript input' h g 1 lines')
  rw [hb.run_eq, hb'.run_eq]
  exact ⟨ScriptRun.sameButNumber hrecords hhost hfailure, hagree⟩

theorem Arguments.Relaid.endAlike (hr : a.Relaid f input g input')
    (hspares : a.SparesScript format f input) :
    EndAlike a.own ((runArguments format (Folder.files input) a).run f)
      ((runArguments format (Folder.files input') a).run g) := by
  have hfg := hr.agreesBut
  -- What comes before the first line does not see the script, but to read it: the same on both sides.
  obtain ⟨result, hf, hg⟩ := run_loadSettings format hfg hspares.config input input'
  cases result with
  | error messages =>
    rw [run_of_settings_error hf, run_of_settings_error hg]
    exact ⟨.refl _, hfg⟩
  | ok settings =>
    cases hwrite : a.writeConfig with
    | some path =>
      rw [run_of_writeConfig hf hwrite, run_of_writeConfig hg hwrite]
      cases settings.save? format with
      | none => exact ⟨.refl _, hfg⟩
      | some text =>
        obtain ⟨e, he, he'⟩ | ⟨name, -, hname, hname'⟩ := hfg.write_cases path text.toUTF8
        · simp only [he, he']
          exact ⟨.refl _, hfg⟩
        · simp only [hname, hname']
          exact ⟨.refl _, (hfg.insert name _).filter⟩
    | none =>
      cases hconnect : Host.connect settings simulatedBoard with
      | error e =>
        rw [run_of_session hf hwrite, run_of_session hg hwrite, run_of_connect_error hconnect,
          run_of_connect_error hconnect]
        exact ⟨.refl _, hfg⟩
      | ok h =>
        obtain ⟨messages, hnone, hnone'⟩ | ⟨script, script', hscript, hscript', hrelaid⟩ :=
          hr.scriptLines_cases
        · rw [run_of_session hf hwrite, run_of_session hg hwrite, run_of_script_error hconnect hnone,
            run_of_script_error hconnect hnone']
          exact ⟨.refl _, hfg⟩
        · have hb := Begins.mk hf hwrite hconnect hscript
          have hb' := Begins.mk hg hwrite hconnect hscript'
          exact hb.endAlike hb' hfg (hrelaid.append_left a.commands) hspares

/-- A script none of whose lines reads its file is left alone, whichever of them are run. -/
theorem Arguments.sparesScript_of_reads (hconfig : ∀ path ∈ a.config, Avoids a.own path)
    (hlines : ∀ script, a.Reads f input script →
      Spares a.own ((numbered 1 (a.commands ++ script)).map fun line => .ofLine line.1)) :
    a.SparesScript format f input where
  config := hconfig
  lines := by
    rintro _ _ r f' ⟨-, -, -, hscript⟩ -
    rw [List.map_take]
    exact (hlines _ hscript).take r.executed

/-- A script that is no file has none to be spared. -/
theorem Arguments.sparesScript_of_script_eq_none (hpath : a.script = none) : a.SparesScript format f input := by
  have hown : a.own = none := by rw [Arguments.own, hpath, Option.bind_none]
  refine sparesScript_of_reads (hown ▸ nofun) fun script _ => ?_
  rw [hown]
  exact spares_none _

/-- Where no script can be read, nothing is run. -/
theorem run_of_forall_not_reads (format : Format) (hreads : ∀ script, ¬ a.Reads f input script)
    (hwrite : a.writeConfig = none) :
    ∃ messages, (runArguments format (Folder.files input) a).run f = (failed messages, f) := by
  have hconfig : ∀ path ∈ a.config, Avoids none path := fun _ _ => nofun
  obtain ⟨result, hsettings, -⟩ := run_loadSettings format (.refl none f) hconfig input input
  cases result with
  | error messages => exact ⟨messages, run_of_settings_error hsettings⟩
  | ok settings =>
    rw [run_of_session hsettings hwrite]
    cases hconnect : Host.connect settings simulatedBoard with
    | error e => exact ⟨_, run_of_connect_error hconnect⟩
    | ok h =>
      obtain ⟨messages, hscript⟩ := run_scriptLines_of_forall_not_reads hreads
      exact ⟨messages, run_of_script_error hconnect hscript⟩

/-- The script is run line by line. Its layout does not matter, to neither what is printed nor what is
written, but to the number of a line that failed, as long as a script that is a file is not read by its own
lines. A run that a line has stopped is the same whatever lines stand behind. A script that is not text all
over fails before its first line. -/
theorem runArguments_relaid (format : Format) (a : Arguments) (f : Folder) (input : ByteArray) :
    (∀ g input', a.Relaid f input g input' →
      (a.script.isSome → a.SparesScript format f input) →
      EndAlike a.own ((runArguments format (Folder.files input) a).run f)
        ((runArguments format (Folder.files input') a).run g)) ∧
    (∀ h lines, Begins format a f input h lines →
      ∃ r f', Replays input h f (numbered 1 lines) r f' ∧
        (runArguments format (Folder.files input) a).run f = (r.outcome, f') ∧
        (r.Stopped → ∀ later, (numbered 1 lines).take r.executed <+: numbered 1 later →
          (runScript (Folder.files input) h 1 later).run f = (r, f'))) ∧
    ((∀ script, ¬ a.Reads f input script) → a.writeConfig = none →
      ∃ o, (runArguments format (Folder.files input) a).run f = (o, f) ∧ o.code = 1 ∧ o.output = "") := by
  refine ⟨fun g input' hrelaid hspares => ?_, fun h lines hb => ?_, fun hreads hwrite => ?_⟩
  · cases hpath : a.script with
    | none => exact hrelaid.endAlike (Arguments.sparesScript_of_script_eq_none hpath)
    | some path => exact hrelaid.endAlike (hspares (by rw [hpath, Option.isSome_some]))
  · have hr := replays_runScript input h f 1 lines
    refine ⟨_, _, hr, hb.run_eq, fun hstopped later hlater => ?_⟩
    have hr' := hr.of_prefix hb.isHalted_eq hstopped hlater
    obtain ⟨hscript, hfolder⟩ := (replays_runScript input h f 1 later).unique hr'
    exact Prod.ext hscript hfolder
  · obtain ⟨messages, hrun⟩ := run_of_forall_not_reads format hreads hwrite
    exact ⟨failed messages, hrun, rfl, rfl⟩

/-- A script that reads itself after it has written over itself, with a last line that fails; and one that is
no text. -/
theorem runArguments_relaid_overwritten :
    let a : Arguments := { script := some "s" }
    let rest := "\n@upload s\n@download s\n@download e"
    let text := "@download d" ++ rest
    let text' := "# d\n" ++ (" " ++ "@download d" ++ "\t") ++ rest
    let f : Folder := (Table.empty.insert "s" text.toUTF8).insert "d" "d".toUTF8
    let g : Folder := f.insert "s" text'.toUTF8
    let garbled : Folder := f.insert "s" (text.toUTF8 ++ ⟨#[0xFF]⟩)
    (a.Relaid f .empty g .empty ∧ a.SparesScript Document.format f .empty ∧
      EndAlike a.own ((runArguments Document.format (Folder.files .empty) a).run f)
        ((runArguments Document.format (Folder.files .empty) a).run g)) ∧
    (∃ h lines r f', Begins Document.format a f .empty h lines ∧
      Replays .empty h f (numbered 1 lines) r f' ∧
      (runArguments Document.format (Folder.files .empty) a).run f = (r.outcome, f')) ∧
    ∃ o, (runArguments Document.format (Folder.files .empty) a).run garbled = (o, garbled) ∧
      o.code = 1 ∧ o.output = "" := by
  intro a rest text text' f g garbled
  have hread : f.read "s" = .ok text.toUTF8 := by decide +kernel
  have hlines : scriptText? text.toUTF8 =
      some ["@download d", "@upload s", "@download s", "@download e"] := by decide +kernel
  have hreads : a.Reads f .empty _ := .file rfl hread hlines
  have hrelaid : a.Relaid f .empty g .empty := by
    have hcomment : Edit ("" ++ text) ("" ++ "# d" ++ "\n" ++ text) :=
      .inserted (.inl rfl) (by decide) (by decide)
    have hblanks : Edit ("# d\n" ++ "@download d" ++ rest) text' :=
      .padded (.inr ⟨"# d", by decide⟩) (.inr ⟨"@upload s\n@download s\n@download e", by decide⟩)
        (by decide) (by decide) (by decide)
    rw [String.empty_append] at hcomment
    exact .file rfl (by decide +kernel) hread (.of_edits (.head hcomment (.single hblanks)))
  have hspares : a.SparesScript Document.format f .empty := by
    refine Arguments.sparesScript_of_reads nofun fun lines hreads' => ?_
    rw [hreads'.unique hreads]
    decide +kernel
  have hgarbled : ∀ script, ¬ a.Reads garbled .empty script := by
    have hread' : garbled.read "s" = .ok (text.toUTF8 ++ ⟨#[0xFF]⟩) := by decide +kernel
    have hlines' : scriptText? (text.toUTF8 ++ ⟨#[0xFF]⟩) = none := by decide +kernel
    rintro script (⟨hpath, hread'', hscript⟩ | ⟨hpath⟩ | ⟨hpath⟩)
    · cases hpath
      cases hread'.symm.trans hread''
      cases hlines'.symm.trans hscript
    · cases hpath
    · cases hpath
  have hb : Begins Document.format a f .empty _ _ :=
    .mk rfl rfl (Host.connect_eq_ok_iff.mpr ⟨Settings.valid_default, rfl⟩) hreads
  obtain ⟨htwo, hone, -⟩ := runArguments_relaid Document.format a f .empty
  obtain ⟨-, -, hnone⟩ := runArguments_relaid Document.format a garbled .empty
  obtain ⟨r, f', hr, hrun, -⟩ := hone _ _ hb
  exact ⟨⟨hrelaid, hspares, htwo g .empty hrelaid fun _ => hspares⟩, ⟨_, _, r, f', hb, hr, hrun⟩,
    hnone hgarbled rfl⟩

/-- Three scripts of which the layout shows. One that sends itself sends its layout too. Settings have a layout
of their own: a script that they are read from may be a script still when they are none. And with a line that
is passed over, but is no text, a script is none either. -/
theorem runArguments_relaid_read_again :
    (let a : Arguments := { script := some "s" }
      let text := "@download s\n@upload o\n"
      let f : Folder := Table.empty.insert "s" text.toUTF8
      let g : Folder := f.insert "s" (text ++ "\n" ++ "").toUTF8
      a.Relaid f .empty g .empty ∧
        ((runArguments Document.format (Folder.files .empty) a).run f).1.output =
          "@download s -> OKAY\n@upload o -> OKAY (22 bytes)\n" ∧
        ((runArguments Document.format (Folder.files .empty) a).run g).1.output =
          "@download s -> OKAY\n@upload o -> OKAY (23 bytes)\n") ∧
    (let a : Arguments := { config := some "s", script := some "s" }
      let text := "" ++ "ep_buffer_size = 512" ++ "\n"
      let text' := "" ++ ("\u00a0" ++ "ep_buffer_size = 512" ++ "") ++ "\n"
      let f : Folder := Table.empty.insert "s" text.toUTF8
      let g : Folder := f.insert "s" text'.toUTF8
      a.Relaid f .empty g .empty ∧
        ((runArguments Document.format (Folder.files .empty) a).run f).1.code = 0 ∧
        ((runArguments Document.format (Folder.files .empty) a).run g).1.code = 1) ∧
    (let a : Arguments := { script := some "s" }
      let text := "getvar:version\n".toUTF8
      let comment : ByteArray := "# caf".toUTF8 ++ ⟨#[0xE9]⟩ ++ "\n".toUTF8
      let f : Folder := Table.empty.insert "s" text
      let g : Folder := Table.empty.insert "s" (text ++ comment)
      ((runArguments Document.format (Folder.files .empty) a).run f).1 =
          { output := "getvar:version -> OKAY0.4\n" } ∧
        ((runArguments Document.format (Folder.files .empty) a).run g).1.code = 1 ∧
        ((runArguments Document.format (Folder.files .empty) a).run g).1.output = "") := by
  refine ⟨?_, ?_, ?_⟩
  · intro a text f g
    have hread : f.read "s" = .ok text.toUTF8 := by decide +kernel
    have hedit : Edit text (text ++ "\n" ++ "") := .appended (by decide) (by decide)
    have hrelaid : a.Relaid f .empty g .empty :=
      .file rfl (by decide +kernel) hread (.of_edits (.single hedit))
    exact ⟨hrelaid, by decide +kernel, by decide +kernel⟩
  · intro a text text' f g
    have hread : f.read "s" = .ok text.toUTF8 := by decide +kernel
    have hedit : Edit text text' :=
      .padded (.inl rfl) (.inr ⟨"", by decide⟩) (by decide) (by decide) (by decide)
    have hrelaid : a.Relaid f .empty g .empty :=
      .file rfl (by decide +kernel) hread (.of_edits (.single hedit))
    exact ⟨hrelaid, by decide +kernel, by decide +kernel⟩
  · intro a text comment f g
    exact ⟨by decide +kernel, by decide +kernel, by decide +kernel⟩

end Fastboot.Simulator
