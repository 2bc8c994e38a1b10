import Mathlib.Tactic.ByContra
import TopicStream.Engine.Step

/-!
# Runs

A run is what a list of actions leads to from a state. Runs from reachable states end in reachable
ones (`Reachable.run`). What every step keeps a run keeps (`run_invariant`), and what begins to hold
along a run begins to hold in one of its steps (`exists_passes`). Whether a state is quiescent can be
evaluated (`quiescent_iff`): whether a task can go on does not depend on what it would rather see.
-/

namespace TopicStream.Engine

/-- What a list of actions leads to; nothing if one of them cannot happen. -/
def run (e : Engine) : List Action → Option Engine
  | [] => some e
  | action :: actions => (e.step action).bind fun e' => e'.run actions

/-- A run goes on from where its first action leads to. -/
theorem run_cons {e e₁ : Engine} {action : Action} (h : e.step action = some e₁)
    (actions : List Action) : e.run (action :: actions) = e₁.run actions := by
  rw [run, h]
  rfl

theorem run_append (e : Engine) (actions more : List Action) :
    e.run (actions ++ more) = (e.run actions).bind fun e' => e'.run more := by
  induction actions generalizing e with
  | nil => rfl
  | cons action actions ih =>
    rw [List.cons_append, run, run, Option.bind_assoc]
    exact congrArg _ (funext fun e' => ih e')

/-- Runs from reachable states end in reachable ones. -/
theorem Reachable.run {settings : Settings} {credential : Option String} {e e' : Engine}
    (he : Reachable settings credential e) {actions : List Action}
    (h : e.run actions = some e') : Reachable settings credential e' := by
  induction actions generalizing e with
  | nil =>
    cases h
    exact he
  | cons action actions ih =>
    obtain ⟨e₁, hstep, hrun⟩ := Option.bind_eq_some_iff.1 h
    exact ih (he.step action hstep) hrun

/-- What all steps of some actions keep, runs of such actions keep. -/
theorem run_invariant {p : Engine → Prop} {q : Action → Prop} {e e' : Engine}
    {actions : List Action} (hrun : e.run actions = some e') (hq : ∀ action ∈ actions, q action)
    (hstep : ∀ {e₁ e₂ : Engine} {action : Action}, q action → e₁.step action = some e₂ →
      p e₁ → p e₂) (he : p e) : p e' := by
  induction actions generalizing e with
  | nil =>
    cases hrun
    exact he
  | cons action actions ih =>
    obtain ⟨hfirst, hothers⟩ := List.forall_mem_cons.1 hq
    obtain ⟨e₁, hfirstStep, hrest⟩ := Option.bind_eq_some_iff.1 hrun
    exact ih hrest hothers (hstep hfirst hfirstStep he)

/-! ### The steps of a run -/

/-- On its way from one state to another a run takes a step. -/
structure Passes (e : Engine) (actions : List Action) (e' e₁ : Engine) (action : Action)
    (e₂ : Engine) : Prop where
  /-- The step is that of the action. -/
  step : e₁.step action = some e₂
  /-- The run comes to the state before the step, and goes on from the one after it. -/
  split : ∃ before after, actions = before ++ action :: after ∧ e.run before = some e₁ ∧
    e₂.run after = some e'

section Passes

variable {e e' e₁ e₂ : Engine} {action : Action} {actions : List Action}

theorem Passes.cons {first : Action} {e₀ : Engine} (hfirst : e.step first = some e₀)
    (h : e₀.Passes actions e' e₁ action e₂) : e.Passes (first :: actions) e' e₁ action e₂ := by
  obtain ⟨hstep, before, after, rfl, hbefore, hafter⟩ := h
  refine ⟨hstep, first :: before, after, rfl, ?_, hafter⟩
  rw [run, hfirst]
  exact hbefore

theorem Passes.reachable {settings : Settings} {credential : Option String}
    (h : e.Passes actions e' e₁ action e₂) (he : Reachable settings credential e) :
    Reachable settings credential e₁ := by
  obtain ⟨-, before, after, -, hbefore, -⟩ := h
  exact he.run hbefore

/-- What does not hold at the beginning of a run, but at its end, begins to hold in one of its
steps. -/
theorem exists_passes {p : Engine → Prop} (hrun : e.run actions = some e') (hnot : ¬ p e)
    (h : p e') : ∃ e₁ action e₂, e.Passes actions e' e₁ action e₂ ∧ ¬ p e₁ ∧ p e₂ := by
  induction actions generalizing e with
  | nil =>
    cases hrun
    exact absurd h hnot
  | cons action actions ih =>
    obtain ⟨e₁, hstep, hrest⟩ := Option.bind_eq_some_iff.1 hrun
    by_cases hp : p e₁
    · exact ⟨e, action, e₁, ⟨hstep, [], actions, rfl, rfl, hrest⟩, hnot, hp⟩
    · obtain ⟨e₂, action', e₃, hpasses, hchange⟩ := ih hrest hp
      exact ⟨e₂, action', e₃, hpasses.cons hstep, hchange⟩

end Passes

/-! ### Quiescence -/

/-- Whether a call can go on does not depend on what it would rather see. -/
theorem isSome_takeAnswer (e : Engine) (watched : Option Nat) (answer : Option Answer)
    (preferAnswer : Bool) :
    (e.takeAnswer watched answer preferAnswer).isSome =
      (e.takeAnswer watched answer true).isSome := by
  unfold takeAnswer
  cases answer <;> cases e.isGone watched <;> rfl

/-- Whether a task can go on does not depend on what it would rather see. -/
theorem isSome_resume (e : Engine) (task : Task) (preferAnswer : Bool) :
    (e.resume task preferAnswer).isSome = e.canResume task := by
  cases task with
  | worker w => rfl
  | call c =>
    unfold canResume resume resumeCall
    simp only
    cases e.calls[c]? with
    | none => rfl
    | some call =>
      -- the preference matters only to a call that waits for an answer
      simp only
      split
      · rfl
      · rw [Option.isSome_map, Option.isSome_map, isSome_takeAnswer]
      · rw [Option.isSome_map, Option.isSome_map, isSome_takeAnswer]
      · rfl
      · rfl

/-- A task that can go on is one of those that there are. -/
theorem mem_tasks_of_canResume {e : Engine} {task : Task} (h : e.canResume task = true) :
    task ∈ e.tasks := by
  unfold tasks
  rw [List.mem_append, List.mem_map, List.mem_map]
  cases task with
  | worker w =>
    left
    refine ⟨w, ?_, rfl⟩
    rw [List.mem_range]
    -- no worker is there beyond the last one
    by_contra hlt
    unfold canResume resume resumeWorker at h
    simp [List.getElem?_eq_none (Nat.le_of_not_lt hlt)] at h
  | call c =>
    right
    refine ⟨c, ?_, rfl⟩
    rw [List.mem_range]
    by_contra hlt
    unfold canResume resume resumeCall at h
    simp [List.getElem?_eq_none (Nat.le_of_not_lt hlt)] at h

/-- A state is quiescent exactly if none of its tasks can go on. -/
theorem quiescent_iff {e : Engine} : Quiescent e ↔ e.isQuiescent = true := by
  unfold Quiescent isQuiescent
  rw [List.all_eq_true]
  constructor
  · intro h task _
    have hnone : e.resume task true = none := h task true
    simp [canResume, hnone]
  · intro h task preferAnswer
    change e.resume task preferAnswer = none
    rw [← Option.not_isSome_iff_eq_none, isSome_resume]
    intro hcan
    simpa [hcan] using h task (mem_tasks_of_canResume hcan)

/-- Where nothing can go on, a worker that has not ended waits for something. -/
theorem continueWorker_of_quiescent {e : Engine} (hquiet : Quiescent e) {w : Nat} {k : Worker}
    (hk : e.workers[w]? = some k) (hover : k.phase.isOver = false) :
    e.continueWorker w k.epoch k.phase = none := by
  have hnone : e.resumeWorker w = none := hquiet (.worker w) true
  unfold resumeWorker at hnone
  rw [hk] at hnone
  simp only [hover, Bool.false_eq_true, if_false] at hnone
  split at hnone
  · -- one that has been told to end could go on
    cases hnone
  · exact hnone

/-! ### Short runs -/

/-- A run whose end can be evaluated. -/
theorem exists_run (e : Engine) (actions : List Action) (p : Engine → Bool)
    (h : (e.run actions).any p = true) : ∃ e', e.run actions = some e' ∧ p e' = true := by
  cases hrun : e.run actions with
  | none =>
    rw [hrun] at h
    cases h
  | some e' =>
    rw [hrun] at h
    exact ⟨e', rfl, h⟩

/-- Settings for short runs. -/
def Settings.sample : Settings where
  url := "https://example.org/stream"
  lang := "en"
  userAgent := "client"
  connectTimeout := 5000
  reconnectDelay := 1000

/-- A listener that crashes or not. -/
def Listener.sample (name : String) (crashes : Bool) : Listener := ⟨name, .payload, crashes⟩

/-- The bytes of a greeting. -/
def greetingBytes (clientId : String) : Bytes :=
  Text.Utf8.encode
    ("event: PB_CONNECT\ndata: \x7b\"clientId\":\"" ++ clientId ++ "\"\x7d\n\n").toList

/-- A worker opens a stream, from which the given bytes arrive, and takes them. -/
def openingActions (w serial : Nat) (bytes : Bytes) : List Action :=
  [.resume (.worker w) true, .answer (.worker w) .success, .resume (.worker w) true,
    .arrive serial (.ok bytes), .resume (.worker w) true]

end TopicStream.Engine
