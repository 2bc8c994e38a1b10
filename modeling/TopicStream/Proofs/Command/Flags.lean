import Mathlib.Data.List.Basic
import TopicStream.Command.Flags

/-!
# Flags read back

Flags are read by position, and yet settings that are written one after the other, each as a flag
and its value, are read back: no value that is given is missed, and nothing else is read unless a
value is the name of the flag that is asked for. That does no harm in the last setting, behind
which nothing stands.

## Main results

* `value?_eq_getElem?` and `values_eq_map_zip_tail`: the positions that are read;
* `value?_eq_head?_values`: the value of a flag is the first of its values;
* `values_append`: what is read of two lists of arguments one behind the other;
* `given_sublist_values`: no value that is given is missed;
* `values_argumentsOf_eq_given_iff`: when nothing else is read.
-/

namespace TopicStream.Command.Flags

variable {flag : String}

/-! ### Reading by position -/

/-- The value of a flag stands behind its first occurrence. -/
theorem value?_eq_getElem? (flag : String) (arguments : List String) :
    value? flag arguments = arguments[arguments.idxOf flag + 1]? := by
  induction arguments with
  | nil => rfl
  | cons argument rest ih =>
    by_cases h : argument = flag
    · subst h
      simp [value?, List.head?_eq_getElem?]
    · simp [value?, h, ih, List.idxOf_cons_ne rest h]

/-- What one argument adds to the values of a flag: the argument behind it, if it is the flag. -/
theorem values_cons (argument : String) (rest : List String) :
    values flag (argument :: rest) =
      (if argument = flag then rest.head?.toList else []) ++ values flag rest := by
  rw [values]
  split <;> rfl

/-- The values of a flag are the right neighbours of its occurrences. -/
theorem values_eq_map_zip_tail (flag : String) (arguments : List String) :
    values flag arguments =
      ((arguments.zip arguments.tail).filter (·.1 = flag)).map (·.2) := by
  induction arguments with
  | nil => rfl
  | cons argument rest ih =>
    rw [values_cons, ih]
    cases rest with
    | nil => simp
    | cons next rest => by_cases h : argument = flag <;> simp [h]

/-- The value of a flag is the first of its values. -/
theorem value?_eq_head?_values (flag : String) (arguments : List String) :
    value? flag arguments = (values flag arguments).head? := by
  induction arguments with
  | nil => rfl
  | cons argument rest ih =>
    rw [values_cons, value?]
    split
    · -- an occurrence at the very end has no value, and there is no later one
      cases rest with
      | nil => rfl
      | cons next rest => rfl
    · exact ih

/-- Of two lists of arguments one behind the other, the values in both are read, and between them
the first argument of the second list if the first list ends with the flag. -/
theorem values_append (arguments others : List String) :
    values flag (arguments ++ others) = values flag arguments ++
      (if arguments.getLast? = some flag then others.head?.toList else []) ++
        values flag others := by
  induction arguments with
  | nil => rfl
  | cons argument rest ih =>
    rw [List.cons_append, values_cons, ih, values_cons]
    -- only the last argument of the first list has its neighbour in the second
    cases rest with
    | nil => simp [values]
    | cons next rest => simp [List.getLast?_cons_cons]

/-- One more argument is a value of the flag that the others end with, and nothing else. -/
theorem values_concat_eq_iff (arguments : List String) (last : String) :
    values flag (arguments ++ [last]) = values flag arguments ↔
      arguments.getLast? ≠ some flag := by
  rw [values_append]
  by_cases h : arguments.getLast? = some flag <;> simp [h, values]

/-! ### Settings -/

/-- A flag with its value. -/
structure Setting where
  /-- The flag. -/
  flag : String
  /-- Its value. -/
  value : String
  deriving DecidableEq, Repr

/-- The arguments that settings are written as. -/
def argumentsOf : List Setting → List String
  | [] => []
  | s :: rest => s.flag :: s.value :: argumentsOf rest

/-- The values that settings give a flag, in order. -/
def given (flag : String) (settings : List Setting) : List String :=
  (settings.filter (·.flag = flag)).map (·.value)

theorem given_cons (s : Setting) (rest : List Setting) :
    given flag (s :: rest) = (if s.flag = flag then [s.value] else []) ++ given flag rest := by
  by_cases h : s.flag = flag <;> simp [given, h]

theorem getLast?_argumentsOf (settings : List Setting) :
    (argumentsOf settings).getLast? = settings.getLast?.map (·.value) := by
  induction settings with
  | nil => rfl
  | cons s rest ih =>
    cases rest with
    | nil => rfl
    | cons next rest => simpa [argumentsOf, List.getLast?_cons_cons] using ih

/-- What one setting adds to the values of a flag: its own value, and the next flag if the value is
the flag that is asked for. -/
theorem values_argumentsOf_cons (s : Setting) (rest : List Setting) :
    values flag (argumentsOf (s :: rest)) = (if s.flag = flag then [s.value] else []) ++
      ((if s.value = flag then (rest.head?.map (·.flag)).toList else []) ++
        values flag (argumentsOf rest)) := by
  rw [argumentsOf, values_cons, values_cons]
  cases rest <;> rfl

/-- No value that is given is missed, whatever the other values are. -/
theorem given_sublist_values (flag : String) (settings : List Setting) :
    (given flag settings).Sublist (values flag (argumentsOf settings)) := by
  induction settings with
  | nil => exact List.Sublist.refl _
  | cons s rest ih =>
    rw [given_cons, values_argumentsOf_cons]
    exact (List.Sublist.refl _).append (ih.trans (List.sublist_append_right _ _))

/-- Exactly the values that are given are read if no value but the last is the flag that is asked
for, and only then. -/
theorem values_argumentsOf_eq_given_iff (settings : List Setting) :
    values flag (argumentsOf settings) = given flag settings ↔
      ∀ s ∈ settings.dropLast, s.value ≠ flag := by
  induction settings with
  | nil => exact iff_of_true rfl nofun
  | cons s rest ih =>
    rw [values_argumentsOf_cons, given_cons, List.append_cancel_left_eq]
    cases rest with
    | nil => exact iff_of_true (by simp [argumentsOf, values, given]) nofun
    | cons next rest =>
      rw [List.dropLast_cons_cons, List.forall_mem_cons, ← ih]
      by_cases h : s.value = flag
      · -- the next flag is read as a value, and so more is read than is given
        refine iff_of_false (fun heq => ?_) fun hboth => hboth.1 h
        have hmissed := (given_sublist_values flag (next :: rest)).length_le
        have hlength := congrArg List.length heq
        simp only [if_pos h, List.head?_cons, Option.map_some, Option.toList_some,
          List.singleton_append, List.length_cons] at hlength
        omega
      · rw [if_neg h, List.nil_append]
        exact (and_iff_right h).symm

example : values "--lang" (argumentsOf [⟨"--topic", "--lang"⟩, ⟨"--url", "u"⟩]) = ["--url"] := by
  decide

end TopicStream.Command.Flags
