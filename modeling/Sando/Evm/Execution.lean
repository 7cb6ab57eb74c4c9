/-
Rules for executions.

`Leads context code machine code' machine'` — whatever happens from the first configuration is what
happens from the second one, some blocks later. `Ends context code machine outcome` — enough fuel
reaches the outcome. Runs are put together block by block (`Leads.jump`, `Leads.taken`,
`Leads.fall`), chains by transitivity, and an outcome is unique (`Ends.unique`), so that a proof that
finds one outcome has found the only one.

`Attempts` is the shape of a transaction step: straight-line code that makes its calls and then either
jumps on or reverts. `Attempts.leads` and `Attempts.reverts` are its two ways out.
-/

import Sando.Evm.Machine

namespace Sando.Evm

variable {Label : Type} [DecidableEq Label]

namespace Context

variable {context : Context Label} {code behind rest : Code Label}
  {machine next : Machine} {outcome other : Outcome}

/-! ### One block -/

theorem run_halt {how : Halt} (ends : context.block code machine = .halt how next) (fuel : ℕ) :
    context.run (fuel + 1) code machine = some ⟨how, next.events⟩ := by
  rw [run, ends]

theorem run_jump {target : Word} (jumps : context.block code machine = .jump target next)
    (lands : codeAt context.program target.toNat = some behind) (fuel : ℕ) :
    context.run (fuel + 1) code machine = context.run fuel behind next := by
  rw [run, jumps]
  simp only [lands]

theorem run_jump_invalid {target : Word} (jumps : context.block code machine = .jump target next)
    (misses : codeAt context.program target.toNat = none) (fuel : ℕ) :
    context.run (fuel + 1) code machine = some ⟨.invalid, next.events⟩ := by
  rw [run, jumps]
  simp only [misses]

theorem run_taken {target condition : Word}
    (branches : context.block code machine = .branch target condition rest next)
    (holds : condition ≠ 0) (lands : codeAt context.program target.toNat = some behind)
    (fuel : ℕ) :
    context.run (fuel + 1) code machine = context.run fuel behind next := by
  rw [run, branches]
  simp only [lands, if_neg holds]

theorem run_taken_invalid {target condition : Word}
    (branches : context.block code machine = .branch target condition rest next)
    (holds : condition ≠ 0) (misses : codeAt context.program target.toNat = none) (fuel : ℕ) :
    context.run (fuel + 1) code machine = some ⟨.invalid, next.events⟩ := by
  rw [run, branches]
  simp only [misses, if_neg holds]

theorem run_fall {target condition : Word}
    (branches : context.block code machine = .branch target condition rest next)
    (fails : condition = 0) (fuel : ℕ) :
    context.run (fuel + 1) code machine = context.run fuel rest next := by
  rw [run, branches]
  simp only [if_pos fails]

/-- A run depends on its first block only. -/
theorem run_congr (same : context.block code machine = context.block behind next) (fuel : ℕ) :
    context.run fuel code machine = context.run fuel behind next := by
  cases fuel with
  | zero => rfl
  | succ fuel => rw [run, run, same]

/-- More fuel does not change an outcome. -/
theorem run_succ {fuel : ℕ} (ends : context.run fuel code machine = some outcome) :
    context.run (fuel + 1) code machine = some outcome := by
  induction fuel generalizing code machine with
  | zero => simp [run] at ends
  | succ fuel ih =>
    rw [run] at ends ⊢
    cases atEnd : context.block code machine with
    | halt how last => simpa only [atEnd] using ends
    | jump target last =>
      simp only [atEnd] at ends ⊢
      cases landing : codeAt context.program target.toNat with
      | none => simpa only [landing] using ends
      | some behind =>
        simp only [landing] at ends ⊢
        exact ih ends
    | branch target condition rest last =>
      simp only [atEnd] at ends ⊢
      by_cases zero : condition = 0
      · simp only [if_pos zero] at ends ⊢
        exact ih ends
      · simp only [if_neg zero] at ends ⊢
        cases landing : codeAt context.program target.toNat with
        | none => simpa only [landing] using ends
        | some behind =>
          simp only [landing] at ends ⊢
          exact ih ends

theorem run_add {fuel : ℕ} (ends : context.run fuel code machine = some outcome) (more : ℕ) :
    context.run (fuel + more) code machine = some outcome := by
  induction more with
  | zero => exact ends
  | succ more ih => exact run_succ ih

/-! ### Runs -/

/-- Enough fuel reaches the outcome. -/
def Ends (context : Context Label) (code : Code Label) (machine : Machine) (outcome : Outcome) :
    Prop :=
  ∃ fuel, context.run fuel code machine = some outcome

/-- The whole program, run on a fresh frame, reaches the outcome. -/
def Executes (context : Context Label) (outcome : Outcome) : Prop :=
  context.Ends context.program Machine.initial outcome

/-- The first configuration continues as the second one. -/
def Leads (context : Context Label) (code : Code Label) (machine : Machine) (behind : Code Label)
    (next : Machine) : Prop :=
  ∃ blocks, ∀ fuel, context.run (fuel + blocks) code machine = context.run fuel behind next

theorem Ends.unique (first : context.Ends code machine outcome)
    (second : context.Ends code machine other) : outcome = other := by
  obtain ⟨fuel, first⟩ := first
  obtain ⟨more, second⟩ := second
  have left := run_add first more
  have right := run_add second fuel
  rw [Nat.add_comm, left] at right
  exact Option.some.inj right

/-- A frame that ends in another way does not stop. -/
theorem Ends.not_stop {how : Halt} {made events : List Event}
    (ends : context.Ends code machine ⟨how, made⟩) (different : how ≠ .stop) :
    ¬ context.Ends code machine ⟨.stop, events⟩ :=
  fun stops => different (congrArg Outcome.halt (ends.unique stops))

theorem Ends.halt {how : Halt} (ends : context.block code machine = .halt how next) :
    context.Ends code machine ⟨how, next.events⟩ :=
  ⟨1, run_halt ends 0⟩

theorem Ends.invalid {target : Word} (jumps : context.block code machine = .jump target next)
    (misses : codeAt context.program target.toNat = none) :
    context.Ends code machine ⟨.invalid, next.events⟩ :=
  ⟨1, run_jump_invalid jumps misses 0⟩

theorem Ends.taken_invalid {target condition : Word}
    (branches : context.block code machine = .branch target condition rest next)
    (holds : condition ≠ 0) (misses : codeAt context.program target.toNat = none) :
    context.Ends code machine ⟨.invalid, next.events⟩ :=
  ⟨1, run_taken_invalid branches holds misses 0⟩

theorem Leads.refl : context.Leads code machine code machine := ⟨0, fun _ => rfl⟩

/-- Straight-line code leads to what is behind it. -/
theorem Leads.straight (same : context.block code machine = context.block behind next) :
    context.Leads code machine behind next := ⟨0, run_congr same⟩

theorem Leads.jump {target : Word} (jumps : context.block code machine = .jump target next)
    (lands : codeAt context.program target.toNat = some behind) :
    context.Leads code machine behind next :=
  ⟨1, run_jump jumps lands⟩

theorem Leads.taken {target condition : Word}
    (branches : context.block code machine = .branch target condition rest next)
    (holds : condition ≠ 0) (lands : codeAt context.program target.toNat = some behind) :
    context.Leads code machine behind next :=
  ⟨1, run_taken branches holds lands⟩

theorem Leads.fall {target condition : Word}
    (branches : context.block code machine = .branch target condition rest next)
    (fails : condition = 0) : context.Leads code machine rest next :=
  ⟨1, run_fall branches fails⟩

theorem Leads.trans {further : Code Label} {last : Machine}
    (first : context.Leads code machine behind next)
    (second : context.Leads behind next further last) :
    context.Leads code machine further last := by
  obtain ⟨blocks, first⟩ := first
  obtain ⟨more, second⟩ := second
  refine ⟨more + blocks, fun fuel => ?_⟩
  rw [← Nat.add_assoc, first, second]

theorem Leads.ends (leads : context.Leads code machine behind next)
    (ends : context.Ends behind next outcome) : context.Ends code machine outcome := by
  obtain ⟨blocks, leads⟩ := leads
  obtain ⟨fuel, ends⟩ := ends
  exact ⟨fuel + blocks, (leads fuel).trans ends⟩

/-- What a configuration ends in, it ends in from every configuration it leads to. -/
theorem Ends.of_leads (ends : context.Ends code machine outcome)
    (leads : context.Leads code machine behind next) : context.Ends behind next outcome := by
  obtain ⟨fuel, ends⟩ := ends
  obtain ⟨blocks, leads⟩ := leads
  exact ⟨fuel, by rw [← leads]; exact run_add ends blocks⟩

/-! ### Attempts -/

/-- Straight-line code that leaves `stack` and `events` behind and then jumps to `label` when
`passed` holds and reverts when it does not. -/
def Attempts (context : Context Label) (code : Code Label) (machine : Machine) (passed : Prop)
    (label : ℕ) (stack : List Word) (events : List Event) : Prop :=
  ∃ target condition rest last final,
    context.block code machine = .branch target condition rest ⟨stack, last, events⟩
      ∧ target.toNat = label ∧ (condition ≠ 0 ↔ passed)
      ∧ context.block rest ⟨stack, last, events⟩ = .halt .revert ⟨final, last, events⟩

section Attempts

variable {passed : Prop} {label : ℕ} {stack : List Word} {events : List Event}

theorem Attempts.leads (attempts : context.Attempts code machine passed label stack events)
    (holds : passed) (lands : codeAt context.program label = some behind) :
    ∃ last, context.Leads code machine behind ⟨stack, last, events⟩ := by
  obtain ⟨target, condition, rest, last, final, branches, target_eq, decides, -⟩ := attempts
  exact ⟨last, Leads.taken branches (decides.mpr holds) (target_eq ▸ lands)⟩

theorem Attempts.reverts (attempts : context.Attempts code machine passed label stack events)
    (fails : ¬ passed) : context.Ends code machine ⟨.revert, events⟩ := by
  obtain ⟨target, condition, rest, last, final, branches, -, decides, halts⟩ := attempts
  have zero : condition = 0 := by
    by_contra nonzero
    exact fails (decides.mp nonzero)
  exact (Leads.fall branches zero).ends (Ends.halt halts)

/-- A label without code behind it is an exceptional halt. -/
theorem Attempts.invalid (attempts : context.Attempts code machine passed label stack events)
    (holds : passed) (misses : codeAt context.program label = none) :
    context.Ends code machine ⟨.invalid, events⟩ := by
  obtain ⟨target, condition, rest, last, final, branches, target_eq, decides, -⟩ := attempts
  exact Ends.taken_invalid branches (decides.mpr holds) (target_eq ▸ misses)

/-- Code decides in one way only. -/
theorem Attempts.passed_iff {decided : Prop}
    (attempts : context.Attempts code machine decided label stack events) :
    context.Attempts code machine passed label stack events ↔ (decided ↔ passed) := by
  obtain ⟨target, condition, rest, last, final, branches, lands, decides, reverts⟩ := attempts
  constructor
  · rintro ⟨target', condition', rest', last', final', branches', -, decides', -⟩
    have same : condition = condition' := by
      rw [branches] at branches'
      injection branches'
    rw [← decides, same, decides']
  · intro equal
    exact ⟨target, condition, rest, last, final, branches, lands, decides.trans equal, reverts⟩

end Attempts

end Context

end Sando.Evm
