/-
Rules for programs that change a state and may fail.

The programs are those of `EStateM`: a failure keeps the state it happened in, so a triple has one
postcondition for the runs that succeed and one for those that fail. `Keeps` is a triple whose three
assertions are one invariant. A run that succeeded is also taken apart by `bind_eq_ok`.
-/

import Mathlib.Init

namespace Sando.Program

variable {ε σ α β : Type}

/-- The state a run ends in. -/
def final : EStateM.Result ε σ α → σ
  | .ok _ state => state
  | .error _ state => state

/-- A value that may be missing. -/
def ofOption (failure : ε) : Option α → EStateM ε σ α
  | some value => pure value
  | none => throw failure

theorem bind_apply (program : EStateM ε σ α) (rest : α → EStateM ε σ β) (state : σ) :
    (program >>= rest) state = match program state with
      | .ok value between => rest value between
      | .error failure between => .error failure between := rfl

/-! ### Runs that succeed -/

section Success

variable {program : EStateM ε σ α} {rest : α → EStateM ε σ β} {state state' : σ} {value : β}

/-- A sequence that succeeded is two runs that succeeded. -/
theorem bind_eq_ok : (program >>= rest) state = .ok value state' ↔
    ∃ first between, program state = .ok first between ∧ rest first between = .ok value state' := by
  rw [bind_apply]
  cases program state with
  | ok first between =>
    refine ⟨fun run => ⟨first, between, rfl, run⟩, ?_⟩
    rintro ⟨_, _, same, run⟩
    cases same
    exact run
  | error failure between =>
    refine ⟨fun run => (by cases run), ?_⟩
    rintro ⟨_, _, same, _⟩
    cases same

theorem pure_eq_ok {result other : α} :
    (pure result : EStateM ε σ α) state = .ok other state' ↔ result = other ∧ state = state' := by
  change EStateM.Result.ok result state = _ ↔ _
  simp

theorem throw_ne_ok {failure : ε} {result : α} :
    (throw failure : EStateM ε σ α) state ≠ .ok result state' := by
  intro impossible
  cases impossible

theorem ofOption_eq_ok {failure : ε} {option : Option α} {result : α} :
    (ofOption failure option : EStateM ε σ α) state = .ok result state'
      ↔ option = some result ∧ state = state' := by
  cases option with
  | none => exact ⟨fun run => absurd run throw_ne_ok, fun both => (by cases both.1)⟩
  | some found =>
    refine pure_eq_ok.trans ?_
    simp

end Success

/-! ### Triples -/

/-- From a state with `pre`, a run succeeds with `post` or fails with `failed`. -/
def Triple (pre : σ → Prop) (program : EStateM ε σ α) (post : α → σ → Prop)
    (failed : ε → σ → Prop) : Prop :=
  ∀ state, pre state → match program state with
    | .ok value state' => post value state'
    | .error failure state' => failed failure state'

section Triple

variable {pre pre' : σ → Prop} {post post' : α → σ → Prop} {after : β → σ → Prop}
  {failed failed' : ε → σ → Prop} {program other : EStateM ε σ α} {rest : α → EStateM ε σ β}

theorem triple_pure {value : α} (holds : ∀ state, pre state → post value state) :
    Triple pre (pure value : EStateM ε σ α) post failed := holds

theorem triple_throw {failure : ε} (holds : ∀ state, pre state → failed failure state) :
    Triple pre (throw failure : EStateM ε σ α) post failed := holds

theorem triple_modify {change : σ → σ} {post : PUnit → σ → Prop}
    (holds : ∀ state, pre state → post ⟨⟩ (change state)) :
    Triple pre (modify change : EStateM ε σ PUnit) post failed := holds

theorem triple_ofOption {failure : ε} {option : Option α}
    (found : ∀ value, option = some value → ∀ state, pre state → post value state)
    (missing : option = none → ∀ state, pre state → failed failure state) :
    Triple pre (ofOption failure option : EStateM ε σ α) post failed := by
  cases option with
  | none => exact triple_throw (missing rfl)
  | some value => exact triple_pure (found value rfl)

/-- Sequencing. A failure of either program is a failure of both. -/
theorem triple_bind (between : α → σ → Prop) (first : Triple pre program between failed)
    (second : ∀ value, Triple (between value) (rest value) after failed) :
    Triple pre (program >>= rest) after failed := by
  intro state holds
  have middle := first state holds
  rw [bind_apply]
  cases run : program state with
  | error failure state' =>
    rw [run] at middle
    exact middle
  | ok value state' =>
    rw [run] at middle
    exact second value state' middle

theorem triple_ite {condition : Prop} [Decidable condition]
    (yes : condition → Triple pre program post failed)
    (no : ¬ condition → Triple pre other post failed) :
    Triple pre (if condition then program else other) post failed := by
  by_cases holds : condition
  · rw [if_pos holds]
    exact yes holds
  · rw [if_neg holds]
    exact no holds

/-- A fact holds after every program. -/
theorem triple_trivial {fact : Prop} (holds : fact) :
    Triple pre program (fun _ _ => fact) fun _ _ => True := by
  intro state _
  cases program state with
  | ok _ _ => exact holds
  | error _ _ => trivial

/-- The state before may be fixed. -/
theorem triple_assume (fixed : ∀ state, pre state →
    Triple (fun start => start = state) program post failed) : Triple pre program post failed :=
  fun state holds => fixed state holds state rfl

/-- A fact that does not depend on the state. -/
theorem triple_fact {fact : Prop} (holds : fact → Triple pre program post failed) :
    Triple (fun state => fact ∧ pre state) program post failed := by
  rintro state ⟨fact, before⟩
  exact holds fact state before

theorem triple_exists {ι : Type} {pre : ι → σ → Prop}
    (each : ∀ index, Triple (pre index) program post failed) :
    Triple (fun state => ∃ index, pre index state) program post failed := by
  rintro state ⟨index, holds⟩
  exact each index state holds

/-- Consequence. -/
theorem Triple.weaken (triple : Triple pre program post failed)
    (before : ∀ state, pre' state → pre state)
    (after : ∀ value state, post value state → post' value state)
    (failing : ∀ failure state, failed failure state → failed' failure state) :
    Triple pre' program post' failed' := by
  intro state holds
  have ends := triple state (before state holds)
  cases run : program state with
  | ok value state' =>
    rw [run] at ends
    exact after value state' ends
  | error failure state' =>
    rw [run] at ends
    exact failing failure state' ends

theorem Triple.of_ok (triple : Triple pre program post failed) {state state' : σ} {value : α}
    (holds : pre state) (run : program state = .ok value state') : post value state' := by
  have ends := triple state holds
  rwa [run] at ends

theorem Triple.of_error (triple : Triple pre program post failed) {state state' : σ} {failure : ε}
    (holds : pre state) (run : program state = .error failure state') : failed failure state' := by
  have ends := triple state holds
  rwa [run] at ends

/-- An assertion that holds however a run ends. -/
theorem Triple.of_final {ending : σ → Prop}
    (triple : Triple pre program (fun _ => ending) fun _ => ending) {state : σ} (holds : pre state) :
    ending (final (program state)) := by
  have ends := triple state holds
  cases run : program state <;> rwa [run] at ends

/-- Two triples of one program. -/
theorem Triple.and (first : Triple pre program post failed)
    (second : Triple pre' program post' failed') :
    Triple (fun state => pre state ∧ pre' state) program
      (fun value state => post value state ∧ post' value state)
      fun failure state => failed failure state ∧ failed' failure state := by
  intro state holds
  have one := first state holds.1
  have two := second state holds.2
  cases run : program state <;> rw [run] at one two <;> exact ⟨one, two⟩

end Triple

/-! ### Invariants -/

/-- An invariant of every run, failed ones included. -/
def Keeps (invariant : σ → Prop) (program : EStateM ε σ α) : Prop :=
  Triple invariant program (fun _ => invariant) fun _ => invariant

section Keeps

variable {invariant : σ → Prop} {program other : EStateM ε σ α} {rest : α → EStateM ε σ β}

/-- An invariant as a triple. Of a run that fails, less may be kept. -/
theorem Keeps.triple (keeps : Keeps invariant program) {failed : ε → σ → Prop}
    (failing : ∀ failure state, invariant state → failed failure state) :
    Triple invariant program (fun _ => invariant) failed :=
  keeps.weaken (fun _ holds => holds) (fun _ _ holds => holds) failing

theorem keeps_pure (value : α) : Keeps invariant (pure value : EStateM ε σ α) :=
  triple_pure fun _ holds => holds

theorem keeps_throw (failure : ε) : Keeps invariant (throw failure : EStateM ε σ α) :=
  triple_throw fun _ holds => holds

theorem keeps_ofOption (failure : ε) (option : Option α) :
    Keeps invariant (ofOption failure option : EStateM ε σ α) :=
  triple_ofOption (fun _ _ _ holds => holds) fun _ _ holds => holds

theorem keeps_modify {change : σ → σ} (holds : ∀ state, invariant state → invariant (change state)) :
    Keeps invariant (modify change : EStateM ε σ PUnit) := triple_modify holds

theorem keeps_bind (first : Keeps invariant program) (second : ∀ value, Keeps invariant (rest value)) :
    Keeps invariant (program >>= rest) := triple_bind _ first second

theorem keeps_ite {condition : Prop} [Decidable condition]
    (yes : Keeps invariant program) (no : Keeps invariant other) :
    Keeps invariant (if condition then program else other) :=
  triple_ite (fun _ => yes) fun _ => no

end Keeps

end Sando.Program
