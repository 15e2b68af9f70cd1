import Fastboot.Text.Parts
import Mathlib.Data.List.Basic
import Mathlib.Tactic.Common

/-!
# Lines put together

A text that is made of two with a line feed between has the lines of both (`lines_append_cons`). So lines
that are written with a line feed behind each are read back, and the empty line behind the last of them too
(`lines_flatMap`).
-/

namespace Fastboot.Text

variable {line rest : List Char} {ls : List (List Char)}

theorem dropReturn_of_notMem (h : '\r' ∉ line) : dropReturn line = line :=
  if_neg fun hlast => h (List.mem_of_getLast? hlast)

/-- What stands in front of a line feed has lines that all end there. -/
theorem lines_append_cons (cs rest : List Char) :
    lines (cs ++ '\n' :: rest) = (cs.splitOn '\n').map dropReturn ++ lines rest := by
  have hsplit : (cs ++ '\n' :: rest).splitOn '\n' = cs.splitOn '\n' ++ rest.splitOn '\n' :=
    List.splitOnP_append_cons cs rest (beq_self_eq_true '\n')
  have hne := List.splitOn_ne_nil '\n' rest
  rw [lines, lines, hsplit, List.dropLast_append_of_ne_nil hne, List.map_append,
    List.getLast?_append_of_ne_nil _ hne, List.append_assoc]

theorem splitOn_of_notMem (h : '\n' ∉ line) : line.splitOn '\n' = [line] := by
  have hsplit : (['\n'].intercalate [line]).splitOn '\n' = [line] :=
    List.splitOn_intercalate '\n' (by simpa using h) (by simp)
  simpa using hsplit

theorem lines_cons (h : '\n' ∉ line) : lines (line ++ '\n' :: rest) = dropReturn line :: lines rest := by
  rw [lines_append_cons, splitOn_of_notMem h]
  rfl

/-- Lines without line ends in them are read as they were written. -/
theorem lines_flatMap (h : ∀ line ∈ ls, '\n' ∉ line ∧ '\r' ∉ line) :
    lines (ls.flatMap (· ++ ['\n'])) = ls ++ [[]] := by
  induction ls with
  | nil => rfl
  | cons line ls ih =>
    rw [List.forall_mem_cons] at h
    rw [List.flatMap_cons, List.append_assoc, List.singleton_append, lines_cons h.1.1,
      dropReturn_of_notMem h.1.2, ih h.2, List.cons_append]

end Fastboot.Text
