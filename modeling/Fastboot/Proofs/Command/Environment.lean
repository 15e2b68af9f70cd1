import Fastboot.Proofs.Command.Retry

/-!
# Variables and the environment

A variable that is not built in is read from the environment, under its name with a prefix. What is stored there
cannot stand in for a built-in one, whatever its name. Of those only the serial number is read from the
environment, under a name without the prefix.

`consulted?` tells from the name of a variable which value of the environment it reads, if any. It speaks about
names alone, and `key?_ofName` says that the variable behind the name reads just that. Where two environments
agree on the one value, they cannot be told apart (`getvar_environment`).
-/

namespace Fastboot

/-- The target with another environment, or with none. -/
def Target.withEnvironment (t : Target) (environment : Option (Table String String)) : Target :=
  { t with board := { t.board with environment } }

namespace Command

open Text

variable {t : Target} {name command : String} {environment other : Option (Table String String)}

/-! ### The value that is read -/

/-- The built-in names with a parameter, without it. -/
def parameterKeys : List String :=
  ["has-slot", "slot-unbootable", "slot-successful", "slot-retry-count", "partition-type",
    "partition-size"]

/-- The name is a key, alone or with a parameter behind a colon. -/
def Parameterised (name : String) : Prop :=
  ∃ key ∈ parameterKeys, name = key ∨ ∃ parameter, name = key ++ (":" ++ parameter)

theorem parameterised_iff : Parameterised name ↔ (splitArgument name).1 ∈ parameterKeys := by
  have hcolon : ∀ key ∈ parameterKeys, ':' ∉ key.toList := by decide
  constructor
  · rintro ⟨key, hkey, hname⟩
    have hfront : (splitArgument name).1 = key := (cut_fst_eq_iff (hcolon key hkey)).mpr hname
    rwa [hfront]
  · exact fun hkey => ⟨_, hkey, (cut_fst_eq_iff (hcolon _ hkey)).mp rfl⟩

instance (name : String) : Decidable (Parameterised name) :=
  decidable_of_iff _ parameterised_iff.symm

/-- The name in the environment of the one value that a variable of that name reads, if it reads any. -/
def consulted? (name : String) : Option String :=
  if name = "serialno" then some "serial#"
  else if name ∈ Variable.plain.map (·.1) ∨ Parameterised name then none
  else some ("fastboot." ++ name)

/-- The environments have the same value of that name, or both have none. -/
def AgreeOn (key? : Option String) (environment other : Option (Table String String)) : Prop :=
  ∀ key ∈ key?, environment.bind (·.get? key) = other.bind (·.get? key)

namespace Variable

/-- The name in the environment of the value that the variable reads. -/
def key? : Variable → Option String
  | serialNumber => some "serial#"
  | custom name => some (environmentName name)
  | _ => none

theorem lookup_eq_none_iff_notMem {α : Type} {table : List (String × α)} {key : String} :
    table.lookup key = none ↔ key ∉ table.map (·.1) := by
  simp only [List.lookup_eq_none_iff, List.mem_map, bne_iff_ne, ne_eq, not_exists, not_and]
  exact ⟨fun h e he hkey => h e he hkey.symm, fun h e he hkey => h e he hkey.symm⟩

/-- A name that is not built in stands for itself. -/
theorem ofName_eq_custom (hplain : name ∉ plain.map (·.1)) (hparam : ¬ Parameterised name) :
    ofName name = custom name := by
  have hkey : withParameter.lookup (splitArgument name).1 = none :=
    lookup_eq_none_iff_notMem.mpr fun h => hparam (parameterised_iff.mpr h)
  simp only [ofName, lookup_eq_none_iff_notMem.mpr hplain, hkey]

/-- **A variable reads what its name says.** -/
theorem key?_ofName (name : String) : (ofName name).key? = consulted? name := by
  by_cases hplain : name ∈ plain.map (·.1)
  · have hbuiltin : ∀ plainName ∈ plain.map (·.1),
        (ofName plainName).key? = consulted? plainName := by decide +kernel
    exact hbuiltin name hplain
  · have hserial : name ≠ "serialno" := fun h => hplain (h ▸ by decide)
    by_cases hparam : Parameterised name
    · rw [consulted?, if_neg hserial, if_pos (.inr hparam)]
      have hnone : ∀ e ∈ withParameter, ∀ param, (e.2 param).key? = none := by
        simp [withParameter, key?]
      cases hkey : withParameter.lookup (splitArgument name).1 with
      | none => exact absurd (parameterised_iff.mp hparam) (lookup_eq_none_iff_notMem.mp hkey)
      | some v =>
        simp only [ofName, lookup_eq_none_iff_notMem.mpr hplain, hkey]
        exact hnone _ (mem_of_lookup hkey) _
    · rw [ofName_eq_custom hplain hparam, consulted?, if_neg hserial,
        if_neg (not_or.mpr ⟨hplain, hparam⟩)]
      rfl

/-! ### Two environments -/

theorem value_withEnvironment {v : Variable} (hagree : AgreeOn v.key? environment other) :
    v.value (t.withEnvironment environment) = v.value (t.withEnvironment other) := by
  cases v with
  | serialNumber =>
    show require (environment.bind _) _ = require (other.bind _) _
    rw [hagree _ rfl]
  | custom name =>
    show require (environment.bind _) _ = require (other.bind _) _
    rw [hagree _ rfl]
  | _ => rfl

/-- To read a variable does not change the environment. -/
theorem afterRead_withEnvironment (v : Variable) (t : Target)
    (environment : Option (Table String String)) :
    v.afterRead (t.withEnvironment environment) = (v.afterRead t).withEnvironment environment := by
  cases v with
  | slotRetryCount param =>
    have hslot : knownSlot (t.withEnvironment environment).board param = knownSlot t.board param := rfl
    simp only [afterRead, hslot]
    split
    · rfl
    · rfl
  | _ => rfl

end Variable

theorem getvar_withEnvironment (hasks : argument? command = some name)
    (hagree : AgreeOn (consulted? name) environment other) :
    getvar command (t.withEnvironment other) =
      (getvar command (t.withEnvironment environment)).map
        (Prod.map id (·.withEnvironment other)) := by
  rw [← Variable.key?_ofName] at hagree
  have hargument : argument command "missing var" = .ok name := require_eq_ok_iff.mpr hasks
  have hvalue := Variable.value_withEnvironment (t := t) hagree
  have hafter (e : Option (Table String String)) :=
    (Variable.ofName name).afterRead_withEnvironment t e
  simp only [getvar, hargument, ← hvalue, bind, Except.bind, hafter]
  cases (Variable.ofName name).value (t.withEnvironment environment) with
  | error fault => rfl
  | ok value =>
    dsimp only
    cases (Response.okay value).frame with
    | error overflow => rfl
    | ok frame => rfl

/-- **Environments that agree on the one value cannot be told apart.** -/
theorem execute_getvar_withEnvironment (hasks : argument? command = some name)
    (hagree : AgreeOn (consulted? name) environment other) :
    execute .getvar command (t.withEnvironment other) =
      Prod.map id (·.withEnvironment other)
        (execute .getvar command (t.withEnvironment environment)) := by
  simp only [execute, Target.attempt, getvar_withEnvironment hasks hagree]
  cases getvar command (t.withEnvironment environment) with
  | error fault => rfl
  | ok result => rfl

/-! ### Variables that are not built in -/

/-- The answer for a variable that the environment has a value of, or has none of. -/
def storedAnswer : Option String → Response
  | none => .fail "Variable not implemented"
  | some value => if value.utf8ByteSize ≤ 60 then .okay value else .fail "response too long"

/-- A value that goes out goes out whole. -/
theorem execute_getvar_custom (hasks : argument? command = some name)
    (hcustom : Variable.ofName name = .custom name) :
    replyOf (execute .getvar command t).1 =
        ⟨storedAnswer (t.board.env? (environmentName name)), .done⟩ ∧
      (execute .getvar command t).2 = t := by
  have hargument : argument command "missing var" = .ok name := require_eq_ok_iff.mpr hasks
  simp only [execute, Target.attempt, getvar, hargument, hcustom, Variable.value, Variable.afterRead,
    bind, Except.bind]
  cases t.board.env? (environmentName name) with
  | none => exact ⟨rfl, rfl⟩
  | some value =>
    have hsize : (Response.okay value).text.utf8ByteSize = 4 + value.utf8ByteSize := by
      rw [Response.text, String.utf8ByteSize_append, Response.utf8ByteSize_tag]
      rfl
    dsimp only [require, storedAnswer]
    cases hframe : (Response.okay value).frame with
    | error overflow =>
      have hlong := (Response.frame_eq_error_iff.mp hframe).1
      rw [hsize, Frame.capacity] at hlong
      rw [if_neg (by omega)]
      exact ⟨rfl, rfl⟩
    | ok frame =>
      have hfits := frame.fits
      rw [Response.frame_eq_ok_iff.mp hframe, hsize, Frame.capacity] at hfits
      rw [if_pos (by omega)]
      exact ⟨rfl, rfl⟩

/-- **The environment replaces no variable that is built in.** Let a command ask for a variable by any name but
the empty one, of a target in any state. Only one value of the environment matters, and for a name that is built
in it is that of the serial number or none at all. What comes of the command and what it leaves behind is the
same for any two environments that have the same value there, or both none. A name that is not built in is
answered by that value, all of it if it fits. -/
theorem getvar_environment (hname : name ≠ "") :
    (Verb.ofCommand? ("getvar:" ++ name) = some .getvar ∧
        argument? ("getvar:" ++ name) = some name) ∧
      ∀ command, argument? command = some name → ∀ t : Target,
        (∀ environment other, AgreeOn (consulted? name) environment other →
          execute .getvar command (t.withEnvironment other) =
            Prod.map id (·.withEnvironment other)
              (execute .getvar command (t.withEnvironment environment))) ∧
        (name ∉ Variable.plain.map (·.1) → ¬ Parameterised name →
          replyOf (execute .getvar command t).1 =
              ⟨storedAnswer (t.board.env? ("fastboot." ++ name)), .done⟩ ∧
            (execute .getvar command t).2 = t) := by
  obtain ⟨hverb, -, hargument⟩ := (asks_iff_of_getvar hname).mpr rfl
  refine ⟨⟨hverb, hargument⟩, fun command hasks t => ⟨fun environment other hagree => ?_,
    fun hplain hparam => ?_⟩⟩
  · exact execute_getvar_withEnvironment hasks hagree
  · exact execute_getvar_custom hasks (Variable.ofName_eq_custom hplain hparam)

/-- An environment with values for two names that are built in, and for one that is not. -/
def shadowing : Table String String :=
  ((Table.empty.insert "fastboot.version" "9.9").insert "fastboot.partition-size:boot" "0x0").insert
    "fastboot.version-baseband" "1.0"

/-- The version is what it is without an environment, and so is the size of a partition. A name that goes on
behind a built-in one is read from the environment. -/
theorem getvar_environment_shadowing :
    let bare : Target := { staging := .empty 64 }
    let shadowed := bare.withEnvironment (some shadowing)
    (∀ name ∈ ["version", "partition-size:boot"], ∀ command, argument? command = some name →
        execute .getvar command shadowed =
          Prod.map id (·.withEnvironment (some shadowing))
            (execute .getvar command (bare.withEnvironment none))) ∧
      replyOf (execute .getvar "getvar:version-baseband" shadowed).1 = ⟨.okay "1.0", .done⟩ := by
  intro bare shadowed
  constructor
  · intro name hmem command hasks
    have hnone : ∀ name ∈ ["version", "partition-size:boot"],
        name ≠ "" ∧ consulted? name = none := by decide +kernel
    obtain ⟨hname, hkey⟩ := hnone name hmem
    refine ((getvar_environment hname).2 command hasks bare).1 _ _ fun key hmem => ?_
    rw [hkey] at hmem
    cases hmem
  · obtain ⟨⟨-, hargument⟩, hanswer⟩ :=
      getvar_environment (show "version-baseband" ≠ "" by decide)
    exact ((hanswer _ hargument shadowed).2 (by decide) (by decide +kernel)).1

end Command

end Fastboot
