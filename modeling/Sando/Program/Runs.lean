/-
Runs of a labelled transition system.

A run is the list of its steps, each with the state it starts from and its label. The rules carry an
invariant along a run: `Run.invariant` when every step keeps it, `Run.invariant_of_meets` when the
steps that meet a condition keep it, and `Run.meets_of_invariant` when only those do. A function that
computes the next state is a transition system too (`functional`), with one run for every list of
labels.
-/

import Mathlib.Data.List.Induction

namespace Sando.Program

variable {σ ι : Type}

/-- A run from `start`: its steps, and the state it ends in. -/
inductive Run (step : σ → ι → σ → Prop) (start : σ) : List (σ × ι) → σ → Prop
  | nil : Run step start [] start
  | snoc {steps : List (σ × ι)} {state next : σ} {label : ι} (run : Run step start steps state)
      (last : step state label next) : Run step start (steps ++ [(state, label)]) next

/-- Every step of a run meets a condition on its label and on the state it starts from. -/
def Meets (condition : σ → ι → Prop) (steps : List (σ × ι)) : Prop :=
  ∀ taken ∈ steps, condition taken.1 taken.2

section Rules

variable {step : σ → ι → σ → Prop} {start last : σ} {steps : List (σ × ι)} {inv : σ → Prop}
  {condition : σ → ι → Prop}

theorem Meets.snoc {state : σ} {label : ι} :
    Meets condition (steps ++ [(state, label)]) ↔ Meets condition steps ∧ condition state label := by
  simp only [Meets, List.forall_mem_append, List.forall_mem_singleton]

/-- A condition on the labels alone. -/
theorem meets_of_labels {allowed : ι → Prop} (labels : ∀ label ∈ steps.map Prod.snd, allowed label) :
    Meets (fun _ label => allowed label) steps :=
  fun _ mem => labels _ (List.mem_map_of_mem mem)

/-- The steps of a run that meets a condition are steps that meet it. -/
theorem Run.restrict (run : Run step start steps last) (meets : Meets condition steps) :
    Run (fun state label next => condition state label ∧ step state label next) start steps last := by
  induction run with
  | nil => exact Run.nil
  | snoc run taken ih =>
    obtain ⟨earlier, here⟩ := Meets.snoc.mp meets
    exact (ih earlier).snoc ⟨here, taken⟩

/-- An invariant that the steps with a condition keep holds at the end of a run of such steps, and in
front of each of them. -/
theorem Run.invariant_of_meets (run : Run step start steps last) (initial : inv start)
    (keeps : ∀ state label next, inv state → condition state label → step state label next → inv next)
    (meets : Meets condition steps) : inv last ∧ Meets (fun state _ => inv state) steps := by
  induction run with
  | nil => exact ⟨initial, fun _ mem => absurd mem List.not_mem_nil⟩
  | snoc run taken ih =>
    obtain ⟨earlier, here⟩ := Meets.snoc.mp meets
    obtain ⟨before, visited⟩ := ih earlier
    exact ⟨keeps _ _ _ before here taken, Meets.snoc.mpr ⟨visited, before⟩⟩

/-- An invariant that every step keeps. -/
theorem Run.invariant (run : Run step start steps last) (initial : inv start)
    (keeps : ∀ state label next, inv state → step state label next → inv next) :
    inv last ∧ Meets (fun state _ => inv state) steps := by
  have always : Meets (fun _ _ => True) steps := fun _ _ => trivial
  exact run.invariant_of_meets initial
    (fun state label next before _ taken => keeps state label next before taken) always

/-- When only the steps with a condition keep an invariant, a run that keeps it has such steps only. -/
theorem Run.meets_of_invariant (run : Run step start steps last)
    (needs : ∀ state label next, inv state → step state label next → inv next → condition state label)
    (visited : Meets (fun state _ => inv state) steps) (final : inv last) : Meets condition steps := by
  induction run with
  | nil => exact fun _ mem => absurd mem List.not_mem_nil
  | snoc run taken ih =>
    obtain ⟨earlier, before⟩ := Meets.snoc.mp visited
    exact Meets.snoc.mpr ⟨ih earlier before, needs _ _ _ before taken final⟩

/-- A measure that no step lowers is nowhere above the one at the end. -/
theorem Run.le_last {measure : σ → ℕ} (run : Run step start steps last)
    (grows : ∀ state label next, step state label next → measure state ≤ measure next) :
    ∀ taken ∈ steps, measure taken.1 ≤ measure last := by
  induction run with
  | nil => exact fun _ mem => absurd mem List.not_mem_nil
  | snoc run taken ih =>
    intro earlier mem
    rcases List.mem_append.mp mem with before | here
    · exact Nat.le_trans (ih earlier before) (grows _ _ _ taken)
    · obtain rfl := List.mem_singleton.mp here
      exact grows _ _ _ taken

/-- A run that goes on where another one ends. -/
theorem Run.append {middle : σ} {others : List (σ × ι)} (run : Run step start steps middle)
    (after : Run step middle others last) : Run step start (steps ++ others) last := by
  induction after with
  | nil => rwa [List.append_nil]
  | snoc after taken ih =>
    rw [← List.append_assoc]
    exact ih.snoc taken

/-- A run up to one of its steps is a run. -/
theorem Run.before {state : σ} {label : ι} (run : Run step start steps last)
    (mem : (state, label) ∈ steps) : ∃ earlier next, Run step start earlier state
      ∧ step state label next := by
  induction run with
  | nil => exact absurd mem List.not_mem_nil
  | snoc run taken ih =>
    rcases List.mem_append.mp mem with earlier | here
    · exact ih earlier
    · obtain ⟨rfl, rfl⟩ := Prod.mk.inj (List.mem_singleton.mp here)
      exact ⟨_, _, run, taken⟩

end Rules

/-! ### Functions -/

/-- The steps of a function. -/
def functional (next : σ → ι → σ) (state : σ) (label : ι) (after : σ) : Prop :=
  after = next state label

section Functional

variable {next : σ → ι → σ} {start last : σ} {steps : List (σ × ι)}

/-- Every list of labels has a run. -/
theorem Run.exists_of_labels (next : σ → ι → σ) (start : σ) (labels : List ι) :
    ∃ steps, steps.map Prod.snd = labels
      ∧ Run (functional next) start steps (labels.foldl next start) := by
  induction labels using List.reverseRecOn with
  | nil => exact ⟨[], rfl, Run.nil⟩
  | append_singleton labels label ih =>
    obtain ⟨steps, rfl, run⟩ := ih
    refine ⟨steps ++ [((steps.map Prod.snd).foldl next start, label)], by simp, ?_⟩
    rw [List.foldl_append]
    exact run.snoc rfl

/-- One step of a partial function behind a run. -/
theorem Run.take {next : σ → ι → Option σ} {state after : σ}
    (run : Run (fun state label after => next state label = some after) start steps state) (label : ι)
    (taken : next state label = some after) :
    Run (fun state label after => next state label = some after) start (steps ++ [(state, label)]) after :=
  run.snoc taken

/-- Labels that a partial function can take one after the other have a run. -/
theorem Run.exists_of_foldlM (next : σ → ι → Option σ) (start last : σ) (labels : List ι)
    (taken : labels.foldlM next start = some last) : ∃ steps, steps.map Prod.snd = labels
      ∧ Run (fun state label after => next state label = some after) start steps last := by
  induction labels using List.reverseRecOn generalizing last with
  | nil =>
    obtain rfl := Option.some.inj taken
    exact ⟨[], rfl, Run.nil⟩
  | append_singleton labels label ih =>
    simp only [List.foldlM_append, List.foldlM_cons, List.foldlM_nil, bind_pure] at taken
    obtain ⟨state, earlier, here⟩ := Option.bind_eq_some_iff.mp taken
    obtain ⟨steps, rfl, run⟩ := ih state earlier
    exact ⟨steps ++ [(state, label)], by simp, run.snoc here⟩

/-- A run whose steps meet a condition, from a check of each of them. -/
theorem Run.exists_of_checked (next : σ → ι → Option σ) (condition : σ → ι → Prop)
    [∀ state label, Decidable (condition state label)] (start last : σ) (labels : List ι)
    (taken : labels.foldlM (fun state label => if condition state label then next state label else none)
      start = some last) : ∃ steps,
      Run (fun state label after => next state label = some after) start steps last
        ∧ Meets condition steps := by
  obtain ⟨steps, -, run⟩ := Run.exists_of_foldlM _ start last labels taken
  refine ⟨steps, ?_⟩
  clear taken
  induction run with
  | nil => exact ⟨Run.nil, fun _ mem => absurd mem List.not_mem_nil⟩
  | snoc run here ih =>
    obtain ⟨earlier, meets⟩ := ih
    split at here
    · next holds => exact ⟨earlier.snoc here, Meets.snoc.mpr ⟨meets, holds⟩⟩
    · cases here

end Functional

end Sando.Program
