/-
The block oracle against the pending recipes.

For each block of the stream the block oracle refreshes the nonce, clears the pending sandwiches,
updates the oracle and starts a timer, which later makes the mega sandwich of the block's successor.
Meanwhile tasks read the oracle, simulate, and add a recipe for the block they have read. `next` is one
step of any of them. A recipe is kept with the oracle its task has read. A slow task adds a stale
recipe behind the clear, and a late timer finds the recipes for another block: `readsCurrent_iff`
proves that the runs without stale recipes, in which each mega sandwich reads the recipes of its own
block only, are those whose steps are all `InTime`.
-/

import Sando.Program.Runs
import Sando.Runner.Block

namespace Sando.Runner

open Sando.Evm Sando.Program Sando.Simulate

variable {ρ : Type}

/-! ### States -/

/-- Where the loop over the block stream stands. -/
inductive Phase
  | waiting
  | refreshing (block : Block)
  | clearing (block : Block)
  | updating (block : Block)
  | starting (block : Block)

/-- A recipe, with the oracle that its task has read. -/
structure Computed (ρ : Type) where
  recipe : ρ
  blockOracle : BlockOracle

/-- The simulation for a pool, with its recipe when there is one. -/
structure Task (ρ : Type) where
  blockOracle : BlockOracle
  sandwichablePool : TargetPool
  optimalSandwich : Option ρ

/-- What the tasks of a bot share. `current` is the number of the block that the pending sandwiches have
been cleared for, and `megaSandwiches` is what the mega sandwiches have read so far. -/
structure Oracles (ρ : Type) where
  nonce : Word
  pendingSandwiches : PendingSandwiches (Computed ρ)
  megaSandwiches : List (TargetBlock × PendingSandwiches (Computed ρ))
  latestBlockOracle : BlockOracle
  phase : Phase
  timers : List Block
  tasks : List (Task ρ)
  current : U64

/-- A new bot. -/
def Oracles.new (nonce : Word) (blockOracle : BlockOracle) : Oracles ρ where
  nonce
  pendingSandwiches := []
  megaSandwiches := []
  latestBlockOracle := blockOracle
  phase := .waiting
  timers := []
  tasks := []
  current := blockOracle.latestBlock.number

/-! ### Steps -/

inductive Event (ρ : Type)
  /-- The block stream, of this connection or another one, gives a block. -/
  | newBlock (block : Block)
  | updateSearcherNonce (nonce : Word)
  | clear
  | update
  | startTimer
  /-- A timer has run out. -/
  | makeMegaSandwich (n : ℕ)
  /-- A transaction is seen: the oracle is read, and there is a task for each of its pools. -/
  | read (sandwichablePools : List TargetPool)
  /-- A simulation is done, with a recipe or without. -/
  | simulate (n : ℕ) (optimalSandwich : Option ρ)
  | addRecipe (n : ℕ)

/-- The state behind an event. None where there is nothing to do, and where the code panics. -/
def Oracles.next (state : Oracles ρ) : Event ρ → Option (Oracles ρ)
  | .newBlock block =>
    match state.phase with
    | .waiting => some { state with phase := .refreshing block }
    | _ => none
  | .updateSearcherNonce nonce =>
    match state.phase with
    | .refreshing block => some { state with nonce, phase := .clearing block }
    | _ => none
  | .clear =>
    match state.phase with
    | .clearing block =>
      some { state with
        pendingSandwiches := [], current := block.number.getD 0, phase := .updating block }
    | _ => none
  | .update =>
    match state.phase with
    | .updating block =>
      match state.latestBlockOracle.update block with
      | .ok latestBlockOracle => some { state with latestBlockOracle, phase := .starting block }
      | .error _ => none
    | _ => none
  | .startTimer =>
    match state.phase with
    | .starting block => some { state with timers := state.timers ++ [block], phase := .waiting }
    | _ => none
  | .makeMegaSandwich n =>
    match state.timers[n]? with
    | some block =>
      match findNextBlockInfo block with
      | .ok nextBlock =>
        some { state with
          timers := state.timers.eraseIdx n
          megaSandwiches := state.megaSandwiches ++ [(nextBlock, state.pendingSandwiches)] }
      | .error _ => none
    | none => none
  | .read sandwichablePools =>
    some { state with
      tasks := state.tasks ++ sandwichablePools.map fun pool => ⟨state.latestBlockOracle, pool, none⟩ }
  | .simulate n optimalSandwich =>
    match state.tasks[n]? with
    | some ⟨blockOracle, pool, none⟩ =>
      match optimalSandwich with
      | some recipe =>
        some { state with tasks := state.tasks.set n ⟨blockOracle, pool, some recipe⟩ }
      | none => some { state with tasks := state.tasks.eraseIdx n }
    | _ => none
  | .addRecipe n =>
    match state.tasks[n]? with
    | some ⟨blockOracle, pool, some recipe⟩ =>
      some { state with
        tasks := state.tasks.eraseIdx n
        pendingSandwiches := addRecipe ⟨recipe, blockOracle⟩ pool state.pendingSandwiches }
    | _ => none

/-- A run of a new bot. -/
abbrev OraclesRun (nonce : Word) (blockOracle : BlockOracle) :
    List (Oracles ρ × Event ρ) → Oracles ρ → Prop :=
  Run (fun state event after => state.next event = some after) (.new nonce blockOracle)

/-! ### Stale recipes -/

/-- All pending recipes are for the block with a number. -/
def AllFor (number : U64) (pending : PendingSandwiches (Computed ρ)) : Prop :=
  ∀ entry ∈ pending, ∀ computed ∈ entry.2, computed.blockOracle.nextBlock.number = number

/-- Every mega sandwich has read recipes for its own block only. `fresh` goes beyond what is asked for: no
pending recipe is stale, which makes the condition on the steps necessary. -/
structure ReadsCurrent (state : Oracles ρ) : Prop where
  reads : ∀ read ∈ state.megaSandwiches, AllFor read.1.number read.2
  fresh : AllFor (state.current + 1) state.pendingSandwiches

/-- A task adds its recipe before the sandwiches are cleared for another block than the one it has read,
and a timer runs out before they are cleared for another block than its own, unless nothing is pending. -/
def InTime (state : Oracles ρ) : Event ρ → Prop
  | .addRecipe n => ∀ task, state.tasks[n]? = some task
      → task.blockOracle.nextBlock.number = state.current + 1
  | .makeMegaSandwich n => ∀ block, state.timers[n]? = some block
      → block.number.getD 0 = state.current ∨ state.pendingSandwiches = []
  | _ => True

section Pending

variable {pending : PendingSandwiches (Computed ρ)}

theorem allFor_addRecipe_iff (number : U64) (computed : Computed ρ) (pool : TargetPool) :
    AllFor number (addRecipe computed pool pending)
      ↔ computed.blockOracle.nextBlock.number = number ∧ AllFor number pending := by
  induction pending with
  | nil => simp [addRecipe, AllFor]
  | cons entry rest ih =>
    obtain ⟨other, recipes⟩ := entry
    unfold AllFor at ih ⊢
    unfold addRecipe
    split
    · simp only [List.forall_mem_cons, List.forall_mem_append]
      tauto
    · simp only [List.forall_mem_cons, ih]
      tauto

theorem addRecipe_listed (computed : Computed ρ) (pool : TargetPool)
    (listed : ∀ entry ∈ pending, entry.2 ≠ []) :
    ∀ entry ∈ addRecipe computed pool pending, entry.2 ≠ [] := by
  induction pending with
  | nil => simp [addRecipe]
  | cons entry rest ih =>
    obtain ⟨first, others⟩ := List.forall_mem_cons.mp listed
    unfold addRecipe
    split
    · exact List.forall_mem_cons.mpr ⟨by simp, others⟩
    · exact List.forall_mem_cons.mpr ⟨first, ih others⟩

/-- Recipes that are there are for one block only. -/
theorem AllFor.unique {first second : U64} (listed : ∀ entry ∈ pending, entry.2 ≠ [])
    (present : pending ≠ []) (one : AllFor first pending) (other : AllFor second pending) :
    first = second := by
  obtain ⟨entry, mem⟩ := List.exists_mem_of_ne_nil pending present
  obtain ⟨computed, here⟩ := List.exists_mem_of_ne_nil entry.2 (listed entry mem)
  exact (one entry mem computed here).symm.trans (other entry mem computed here)

end Pending

theorem nextNumber_eq {number next : U64} (found : nextNumber number = .ok next) :
    next = number + 1 := by
  unfold nextNumber at found
  split at found
  · exact (Except.ok.inj found).symm
  · cases found

theorem findNextBlockInfo_number {block : Block} {nextBlock : TargetBlock}
    (found : findNextBlockInfo block = .ok nextBlock) :
    nextBlock.number = block.number.getD 0 + 1 := by
  unfold findNextBlockInfo at found
  obtain ⟨number, behind, found⟩ := except_bind found
  obtain ⟨timestamp, -, found⟩ := except_bind found
  obtain ⟨baseFee, -, found⟩ := except_bind found
  obtain rfl := Except.ok.inj found
  exact nextNumber_eq behind

section Steps

variable {state after : Oracles ρ} {event : Event ρ}

/-- Only three events touch what is read and what is pending. -/
theorem next_cases (taken : state.next event = some after) :
    ((∀ other : Oracles ρ, InTime other event) ∧ after.pendingSandwiches = state.pendingSandwiches
        ∧ after.megaSandwiches = state.megaSandwiches ∧ after.current = state.current)
    ∨ (event = .clear ∧ after.pendingSandwiches = []
        ∧ after.megaSandwiches = state.megaSandwiches)
    ∨ (∃ n block nextBlock, event = .makeMegaSandwich n ∧ state.timers[n]? = some block
        ∧ findNextBlockInfo block = .ok nextBlock
        ∧ after.pendingSandwiches = state.pendingSandwiches
        ∧ after.megaSandwiches = state.megaSandwiches ++ [(nextBlock, state.pendingSandwiches)]
        ∧ after.current = state.current)
    ∨ ∃ n blockOracle pool recipe, event = .addRecipe n
        ∧ state.tasks[n]? = some ⟨blockOracle, pool, some recipe⟩
        ∧ after.pendingSandwiches
          = Runner.addRecipe ⟨recipe, blockOracle⟩ pool state.pendingSandwiches
        ∧ after.megaSandwiches = state.megaSandwiches ∧ after.current = state.current := by
  cases event with
  | newBlock block =>
    simp only [Oracles.next] at taken
    split at taken <;> cases taken
    exact .inl ⟨fun _ => trivial, rfl, rfl, rfl⟩
  | updateSearcherNonce nonce =>
    simp only [Oracles.next] at taken
    split at taken <;> cases taken
    exact .inl ⟨fun _ => trivial, rfl, rfl, rfl⟩
  | clear =>
    simp only [Oracles.next] at taken
    split at taken <;> cases taken
    exact .inr (.inl ⟨rfl, rfl, rfl⟩)
  | update =>
    simp only [Oracles.next] at taken
    split at taken
    · split at taken <;> cases taken
      exact .inl ⟨fun _ => trivial, rfl, rfl, rfl⟩
    · cases taken
  | startTimer =>
    simp only [Oracles.next] at taken
    split at taken <;> cases taken
    exact .inl ⟨fun _ => trivial, rfl, rfl, rfl⟩
  | makeMegaSandwich n =>
    simp only [Oracles.next] at taken
    split at taken
    · next block timer =>
      split at taken <;> cases taken
      next nextBlock found =>
      exact .inr (.inr (.inl ⟨n, block, nextBlock, rfl, timer, found, rfl, rfl, rfl⟩))
    · cases taken
  | read sandwichablePools =>
    obtain rfl := Option.some.inj taken
    exact .inl ⟨fun _ => trivial, rfl, rfl, rfl⟩
  | simulate n optimalSandwich =>
    simp only [Oracles.next] at taken
    split at taken
    · split at taken <;> cases taken <;> exact .inl ⟨fun _ => trivial, rfl, rfl, rfl⟩
    · cases taken
  | addRecipe n =>
    simp only [Oracles.next] at taken
    split at taken <;> cases taken
    next blockOracle pool recipe task =>
    exact .inr (.inr (.inr ⟨n, blockOracle, pool, recipe, rfl, task, rfl, rfl, rfl⟩))

/-- The entries of the pending sandwiches have recipes. -/
def Listed (state : Oracles ρ) : Prop := ∀ entry ∈ state.pendingSandwiches, entry.2 ≠ []

theorem listed_next (listed : Listed state) (taken : state.next event = some after) :
    Listed after := by
  unfold Listed at listed ⊢
  obtain ⟨-, pending, -⟩ | ⟨-, pending, -⟩ | ⟨_, _, _, -, -, -, pending, -⟩
    | ⟨n, blockOracle, pool, recipe, -, -, pending, -⟩ := next_cases taken <;> rw [pending]
  · exact listed
  · exact fun _ mem => absurd mem List.not_mem_nil
  · exact listed
  · exact addRecipe_listed _ pool listed

/-- A step keeps what is read current exactly when it is in time. -/
theorem readsCurrent_next_iff (listed : Listed state) (right : ReadsCurrent state)
    (taken : state.next event = some after) : ReadsCurrent after ↔ InTime state event := by
  obtain ⟨reads, fresh⟩ := right
  obtain ⟨allowed, pending, megas, current⟩ | ⟨rfl, pending, megas⟩
    | ⟨n, block, nextBlock, rfl, timer, found, pending, megas, current⟩
    | ⟨n, blockOracle, pool, recipe, rfl, task, pending, megas, current⟩ := next_cases taken
  · refine iff_of_true ⟨?_, ?_⟩ (allowed state)
    · rw [megas]
      exact reads
    · rw [pending, current]
      exact fresh
  · refine iff_of_true ⟨?_, ?_⟩ trivial
    · rw [megas]
      exact reads
    · rw [pending]
      exact fun _ mem => absurd mem List.not_mem_nil
  · have number := findNextBlockInfo_number found
    constructor
    · rintro ⟨reads', -⟩ other same
      obtain rfl := Option.some.inj (timer.symm.trans same)
      rw [megas] at reads'
      have here : AllFor nextBlock.number state.pendingSandwiches :=
        reads' (nextBlock, state.pendingSandwiches) (List.mem_append_right _ List.mem_cons_self)
      by_cases present : state.pendingSandwiches = []
      · exact .inr present
      · have numbers := AllFor.unique listed present here fresh
        rw [number] at numbers
        exact .inl (add_right_cancel numbers)
    · intro inTime
      refine ⟨?_, ?_⟩
      · rw [megas]
        refine List.forall_mem_append.mpr ⟨reads, List.forall_mem_singleton.mpr ?_⟩
        rcases inTime block timer with same | nothing
        · rw [number, same]
          exact fresh
        · rw [nothing]
          exact fun _ mem => absurd mem List.not_mem_nil
      · rw [pending, current]
        exact fresh
  · constructor
    · rintro ⟨-, fresh'⟩ other same
      obtain rfl := Option.some.inj (task.symm.trans same)
      rw [pending, current, allFor_addRecipe_iff] at fresh'
      exact fresh'.1
    · intro inTime
      refine ⟨?_, ?_⟩
      · rw [megas]
        exact reads
      · rw [pending, current, allFor_addRecipe_iff]
        exact ⟨inTime _ task, fresh⟩

end Steps

/-! ### Every run -/

section Runs

variable {nonce : Word} {blockOracle : BlockOracle} {steps : List (Oracles ρ × Event ρ)}
  {last : Oracles ρ}

theorem listed_new (nonce : Word) (blockOracle : BlockOracle) :
    Listed (Oracles.new nonce blockOracle : Oracles ρ) := fun _ mem => absurd mem List.not_mem_nil

/-- A run in time keeps what is read current. -/
theorem readsCurrent_run (run : OraclesRun nonce blockOracle steps last) (inTime : Meets InTime steps) :
    Meets (fun state _ => ReadsCurrent state) steps ∧ ReadsCurrent last := by
  have right : ReadsCurrent (Oracles.new nonce blockOracle : Oracles ρ) :=
    ⟨fun _ mem => absurd mem List.not_mem_nil, fun _ mem => absurd mem List.not_mem_nil⟩
  have keeps (state : Oracles ρ) (event : Event ρ) (after : Oracles ρ)
      (before : Listed state ∧ ReadsCurrent state) (inTime : InTime state event)
      (taken : state.next event = some after) : Listed after ∧ ReadsCurrent after :=
    ⟨listed_next before.1 taken, (readsCurrent_next_iff before.1 before.2 taken).mpr inTime⟩
  obtain ⟨⟨-, final⟩, visited⟩ :=
    run.invariant_of_meets ⟨listed_new nonce blockOracle, right⟩ keeps inTime
  exact ⟨fun taken mem => (visited taken mem).2, final⟩

/-- When the tasks and the timers are in time, every mega sandwich has read recipes for its own block
only. -/
theorem megaSandwiches_allFor (run : OraclesRun nonce blockOracle steps last)
    (inTime : Meets InTime steps) : ∀ read ∈ last.megaSandwiches, AllFor read.1.number read.2 :=
  (readsCurrent_run run inTime).2.reads

/-- In every run, what is read is current in all states exactly when all steps are in time. -/
theorem readsCurrent_iff (nonce : Word) (blockOracle : BlockOracle)
    (steps : List (Oracles ρ × Event ρ)) (last : Oracles ρ)
    (run : OraclesRun nonce blockOracle steps last) :
    Meets (fun state _ => ReadsCurrent state) steps ∧ ReadsCurrent last ↔ Meets InTime steps := by
  refine ⟨fun ⟨visited, final⟩ => ?_, readsCurrent_run run⟩
  obtain ⟨filled, always⟩ := run.invariant (listed_new nonce blockOracle) fun _ _ _ => listed_next
  have both : Meets (fun state _ => Listed state ∧ ReadsCurrent state) steps :=
    fun taken mem => ⟨always taken mem, visited taken mem⟩
  refine run.meets_of_invariant ?_ both ⟨filled, final⟩
  rintro state event after ⟨listed, right⟩ taken ⟨-, right'⟩
  exact (readsCurrent_next_iff listed right taken).mp right'

end Runs

/-- A half full block. -/
def halfFull (number : U64) : Block where
  number := some number
  timestamp := 1700000000
  baseFeePerGas := some 20000000000
  gasUsed := 15000000
  gasLimit := 30000000

/-- The oracle behind block 99. -/
def behind99 : BlockOracle :=
  ⟨⟨⟨99, 20000000000⟩, 1700000000⟩, ⟨⟨100, 20000000000⟩, 1700000012⟩⟩

example : BlockOracle.new (halfFull 99) = .ok behind99 := rfl

/-- A recipe for block 101 is added in time, and read. -/
theorem readsCurrent_iff_101 : ∃ (steps : List (Oracles Unit × Event Unit)) (last : Oracles Unit),
    OraclesRun 0 behind99 steps last ∧ ReadsCurrent last
      ∧ last.megaSandwiches.map (fun read => (read.1.number, read.2.map (·.2.length))) = [(101, [1])] := by
  have run : OraclesRun 0 behind99 [] (.new 0 behind99 : Oracles Unit) := Run.nil
  have run := (((run.take (.newBlock (halfFull 100)) rfl).take (.updateSearcherNonce 1) rfl).take
    .clear rfl).take .update rfl
  have run := (((run.take .startTimer rfl).take (.read [usdcPair]) rfl).take
    (.simulate 0 (some ())) rfl)
  have run := (run.take (.addRecipe 0) rfl).take (.makeMegaSandwich 0) rfl
  refine ⟨_, _, run, ((readsCurrent_iff _ _ _ _ run).mpr ?_).2, rfl⟩
  refine Meets.snoc.mpr ⟨Meets.snoc.mpr ⟨?_, fun task same => ?_⟩, fun block same => .inl ?_⟩
  · iterate 7 refine Meets.snoc.mpr ⟨?_, trivial⟩
    exact fun _ mem => absurd mem List.not_mem_nil
  · have computed : (⟨_, usdcPair, some ()⟩ : Task Unit) = task := Option.some.inj same
    rw [← computed]
    rfl
  · have timer : halfFull 100 = block := Option.some.inj same
    rw [← timer]

/-- A task that has read the oracle behind block 99 adds its recipe behind the clear for block 100, and
the mega sandwich of block 101 reads it. -/
theorem not_readsCurrent_stale :
    ∃ (steps : List (Oracles Unit × Event Unit)) (last : Oracles Unit),
      OraclesRun 0 behind99 steps last
      ∧ ∃ read ∈ last.megaSandwiches, ¬ AllFor read.1.number read.2 := by
  have run : OraclesRun 0 behind99 [] (.new 0 behind99 : Oracles Unit) := Run.nil
  have run := (((run.take (.read [usdcPair]) rfl).take (.newBlock (halfFull 100)) rfl).take
    (.updateSearcherNonce 1) rfl).take .clear rfl
  have run := (((run.take .update rfl).take (.simulate 0 (some ())) rfl).take (.addRecipe 0) rfl)
  have run := (run.take .startTimer rfl).take (.makeMegaSandwich 0) rfl
  refine ⟨_, _, run, _, List.mem_singleton_self _, fun current => ?_⟩
  have number := current _ (List.mem_singleton_self _) _ (List.mem_singleton_self _)
  exact absurd number (by decide)

end Sando.Runner
