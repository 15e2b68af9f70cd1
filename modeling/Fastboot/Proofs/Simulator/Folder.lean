import Fastboot.Simulator.Files
import Mathlib.Data.List.Basic
import Mathlib.Tactic.Common

/-!
# Two folders that differ in one file

`fileName?` says which file of the folder a path stands for, from the path alone: what is read through a path
or written through it is the file of that name or nothing at all. So two folders with the same names in
them, whose files agree but for one (`Folder.AgreesBut`), give the same answers as long as that one is not
read (`AgreesBut.read_eq`). Once it is written they agree in all files (`AgreesBut.write_cases`).
-/

namespace Fastboot.Simulator

/-- The name at the end of a route that does not leave the folder. -/
def Route.name? (route : Route) : Option String :=
  if route.absolute ∨ route.onward then none
  else
    match route.steps.dropWhile (· == ".") with
    | [name] => if name = ".." then none else some name
    | _ => none

/-- The file of the folder that a path stands for, whether it is there or not. -/
def fileName? (path : String) : Option String :=
  match Route.ofText path with
  | .ok route => route.name?
  | .error _ => none

/-- Whether a path does not stand for the one file. -/
def Avoids (own : Option String) (path : String) : Prop :=
  ∀ name ∈ own, fileName? path ≠ some name

instance (own : Option String) (path : String) : Decidable (Avoids own path) :=
  inferInstanceAs (Decidable (∀ name ∈ own, fileName? path ≠ some name))

namespace Folder

variable {f g : Folder} {own : Option String} {path name : String} {steps : List String}
  {place next last : Place} {route : Route}

/-! ### Where paths lead -/

/-- What a step can do: stay, leave the folder, or go into a file of it. -/
theorem step_eq_ok (h : f.step place name = .ok next) :
    (name = "." ∧ next = place) ∨ (name = ".." ∧ next = .outside) ∨
      (name ≠ "." ∧ name ≠ ".." ∧ place = .folder ∧ next = .file name) := by
  cases place with
  | file other => cases h
  | folder =>
    simp only [step] at h
    split_ifs at h with hdot hup hlong hfile
    · exact .inl ⟨hdot, (Except.ok.inj h).symm⟩
    · exact .inr (.inl ⟨hup, (Except.ok.inj h).symm⟩)
    · exact .inr (.inr ⟨hdot, hup, rfl, (Except.ok.inj h).symm⟩)
  | outside =>
    simp only [step, reduceCtorEq, false_and, if_false] at h
    split_ifs at h with hdot hup hlong
    · exact .inl ⟨hdot, (Except.ok.inj h).symm⟩
    · exact .inr (.inl ⟨hup, (Except.ok.inj h).symm⟩)

theorem walk_cons_eq_ok (h : f.walk place (name :: steps) = .ok last) :
    ∃ next, f.step place name = .ok next ∧ f.walk next steps = .ok last := by
  rw [walk, List.foldlM_cons] at h
  cases hstep : f.step place name with
  | error e =>
    rw [hstep] at h
    cases h
  | ok next =>
    rw [hstep] at h
    exact ⟨next, rfl, h⟩

theorem walk_file_eq_ok (h : f.walk (.file name) steps = .ok last) :
    steps = [] ∧ last = .file name := by
  cases steps with
  | nil => exact ⟨rfl, (Except.ok.inj h).symm⟩
  | cons s steps =>
    obtain ⟨next, hstep, -⟩ := walk_cons_eq_ok h
    cases hstep

theorem walk_outside_eq_ok (h : f.walk .outside steps = .ok last) : last = .outside := by
  induction steps with
  | nil => exact (Except.ok.inj h).symm
  | cons s steps ih =>
    obtain ⟨next, hstep, h⟩ := walk_cons_eq_ok h
    obtain ⟨-, rfl⟩ | ⟨-, rfl⟩ | ⟨-, -, hplace, -⟩ := step_eq_ok hstep
    · exact ih h
    · exact ih h
    · cases hplace

/-- A walk that comes to a file takes one step into it, and none but stays before that. -/
theorem dropWhile_of_walk_eq_file (h : f.walk .folder steps = .ok (.file name)) :
    steps.dropWhile (· == ".") = [name] ∧ name ≠ ".." := by
  induction steps with
  | nil => cases h
  | cons s steps ih =>
    obtain ⟨next, hstep, h⟩ := walk_cons_eq_ok h
    obtain ⟨rfl, rfl⟩ | ⟨-, rfl⟩ | ⟨hdot, hup, -, rfl⟩ := step_eq_ok hstep
    · exact ih h
    · cases walk_outside_eq_ok h
    · obtain ⟨rfl, hname⟩ := walk_file_eq_ok h
      cases hname
      exact ⟨List.dropWhile_cons_of_neg (by simpa using hdot), hup⟩

/-- A walk that stays in the folder has only steps that stay. -/
theorem eq_dot_of_walk_eq_folder (h : f.walk .folder steps = .ok .folder) : ∀ s ∈ steps, s = "." := by
  induction steps with
  | nil => exact List.forall_mem_nil _
  | cons s steps ih =>
    obtain ⟨next, hstep, h⟩ := walk_cons_eq_ok h
    obtain ⟨hdot, rfl⟩ | ⟨-, rfl⟩ | ⟨-, -, -, rfl⟩ := step_eq_ok hstep
    · exact List.forall_mem_cons.mpr ⟨hdot, ih h⟩
    · cases walk_outside_eq_ok h
    · cases (walk_file_eq_ok h).2

/-- A walk that comes to the folder or into it does not start at the root. -/
theorem not_absolute_of_walk (h : f.walk (start route) steps = .ok place)
    (hplace : place ≠ .outside) : ¬ route.absolute := fun habsolute => by
  rw [start, if_pos habsolute] at h
  exact hplace (walk_outside_eq_ok h)

/-- The file that a route leads to is the one that it names. -/
theorem name?_of_walk_eq_file (honward : ¬ route.onward)
    (h : f.walk (start route) route.steps = .ok (.file name)) : route.name? = some name := by
  have habsolute := not_absolute_of_walk h nofun
  rw [start, if_neg habsolute] at h
  obtain ⟨hdrop, hup⟩ := dropWhile_of_walk_eq_file h
  rw [Route.name?, if_neg (not_or.mpr ⟨habsolute, honward⟩), hdrop]
  exact if_neg hup

/-- A route whose last step is still to be taken from the folder names the file of that step. -/
theorem name?_of_walk_eq_folder (honward : ¬ route.onward)
    (hlast : route.steps.getLast? = some name) (hdot : name ≠ ".") (hup : name ≠ "..")
    (h : f.walk (start route) route.steps.dropLast = .ok .folder) : route.name? = some name := by
  have habsolute := not_absolute_of_walk h nofun
  rw [start, if_neg habsolute] at h
  have hdrop : route.steps.dropWhile (· == ".") = [name] := by
    rw [← List.dropLast_append_getLast? name hlast, List.dropWhile_append_of_pos fun s hs => by
      rw [eq_dot_of_walk_eq_folder h s hs]; rfl]
    exact List.dropWhile_cons_of_neg (by simpa using hdot)
  rw [Route.name?, if_neg (not_or.mpr ⟨habsolute, honward⟩), hdrop]
  exact if_neg hup

/-! ### Two folders -/

/-- The same names stand in both folders, and the files agree but for one of a given name. -/
structure AgreesBut (own : Option String) (f g : Folder) : Prop where
  isSome_eq (name : String) : (f.get? name).isSome = (g.get? name).isSome
  get?_eq {name : String} : own ≠ some name → f.get? name = g.get? name

theorem AgreesBut.refl (own : Option String) (f : Folder) : f.AgreesBut own f :=
  ⟨fun _ => rfl, fun _ => rfl⟩

/-- To write a file that is there changes that one only. -/
theorem agreesBut_insert (bytes : ByteArray) (h : (f.get? name).isSome) :
    f.AgreesBut (some name) (f.insert name bytes) where
  isSome_eq j := by
    rw [Table.get?_insert]
    split_ifs with hj
    · rw [hj, h, Option.isSome_some]
    · rfl
  get?_eq {j} hj := by
    rw [Table.get?_insert, if_neg fun hj' => hj (congrArg some hj'.symm)]

namespace AgreesBut

theorem filter {p : String → Bool} (h : f.AgreesBut (own.filter p) g) : f.AgreesBut own g where
  isSome_eq := h.isSome_eq
  get?_eq hname := h.get?_eq fun heq => hname (Option.filter_eq_some_iff.mp heq).1

/-- A file that is written in both folders is the same in both. -/
theorem insert (h : f.AgreesBut own g) (name : String) (bytes : ByteArray) :
    AgreesBut (own.filter (· ≠ name)) (f.insert name bytes) (g.insert name bytes) where
  isSome_eq j := by
    simp only [Table.get?_insert]
    split_ifs
    · rfl
    · exact h.isSome_eq j
  get?_eq {j} hj := by
    simp only [Table.get?_insert]
    split_ifs with hname
    · rfl
    · exact h.get?_eq fun hown => hj (by simp [hown, hname])

/-- A walk asks which files there are and not what is in them. -/
theorem walk_eq (h : f.AgreesBut own g) : f.walk = g.walk := by
  have hstep : f.step = g.step := by
    funext place name
    simp only [step, h.isSome_eq name]
  funext place steps
  rw [walk, walk, hstep]

/-- A path is read in both folders, from the file that it stands for, or in neither. -/
theorem read_cases (h : f.AgreesBut own g) (path : String) :
    (∃ e, f.read path = .error e ∧ g.read path = .error e) ∨
      ∃ name bytes bytes', fileName? path = some name ∧ f.get? name = some bytes ∧
        g.get? name = some bytes' ∧ f.read path = .ok bytes ∧ g.read path = .ok bytes' := by
  unfold Folder.read
  rw [h.walk_eq]
  cases hroute : Route.ofText path with
  | error e => exact .inl ⟨e, rfl, rfl⟩
  | ok route =>
    simp only [bind, Except.bind]
    cases hwalk : g.walk (start route) route.steps with
    | error e => exact .inl ⟨e, rfl, rfl⟩
    | ok place =>
      cases place with
      | folder | outside => exact .inl ⟨.isDirectory, rfl, rfl⟩
      | file name =>
        simp only
        split_ifs with honward
        · exact .inl ⟨.notADirectory, rfl, rfl⟩
        · have hname : fileName? path = some name := by
            simp only [fileName?, hroute]
            exact name?_of_walk_eq_file honward hwalk
          have hisSome := h.isSome_eq name
          cases hf : f.get? name with
          | none =>
            rw [hf, Option.isSome_none, eq_comm, Option.isSome_eq_false_iff, Option.isNone_iff_eq_none]
              at hisSome
            exact .inl ⟨.notFound, rfl, by rw [hisSome]⟩
          | some bytes =>
            rw [hf, Option.isSome_some, eq_comm, Option.isSome_iff_exists] at hisSome
            obtain ⟨bytes', hg⟩ := hisSome
            exact .inr ⟨name, bytes, bytes', hname, hf, hg, rfl, by rw [hg]⟩

/-- A path that does not stand for the one file reads the same in both folders. -/
theorem read_eq (h : f.AgreesBut own g) (hpath : Avoids own path) : f.read path = g.read path := by
  obtain ⟨e, hf, hg⟩ | ⟨name, bytes, bytes', hname, hfile, hfile', hf, hg⟩ := h.read_cases path
  · rw [hf, hg]
  · have hget := h.get?_eq fun hown => hpath name hown hname
    rw [hfile, hfile'] at hget
    rw [hf, hg, Option.some.inj hget]

/-- A path is written in both folders, in the file that it stands for, or in neither. -/
theorem write_cases (h : f.AgreesBut own g) (path : String) (bytes : ByteArray) :
    (∃ e, f.write path bytes = .error e ∧ g.write path bytes = .error e) ∨
      ∃ name, fileName? path = some name ∧ f.write path bytes = .ok (f.insert name bytes) ∧
        g.write path bytes = .ok (g.insert name bytes) := by
  unfold Folder.write
  rw [h.walk_eq]
  cases hroute : Route.ofText path with
  | error e => exact .inl ⟨e, rfl, rfl⟩
  | ok route =>
    simp only [bind, Except.bind]
    cases hlast : route.steps.getLast? with
    | none => exact .inl ⟨_, rfl, rfl⟩
    | some name =>
      cases hwalk : g.walk (start route) route.steps.dropLast with
      | error e => exact .inl ⟨e, by simp, by simp⟩
      | ok place =>
        cases place with
        | file other => exact .inl ⟨.notADirectory, by simp, by simp⟩
        | outside =>
          simp only [reduceCtorEq, if_false]
          split_ifs
          all_goals exact .inl ⟨_, rfl, rfl⟩
        | folder =>
          simp only [if_true]
          split_ifs with hdirectory hlong
          · exact .inl ⟨_, rfl, rfl⟩
          · exact .inl ⟨_, rfl, rfl⟩
          · refine .inr ⟨name, ?_, rfl, rfl⟩
            simp only [not_or] at hdirectory
            obtain ⟨hdot, hup, honward⟩ := hdirectory
            simp only [fileName?, hroute]
            exact name?_of_walk_eq_folder honward hlast hdot hup hwalk

end AgreesBut

end Folder

end Fastboot.Simulator
