/-
The first call of a piece of code.

A `Sketch` is what is known of a machine before the code runs: some of the words on its stack, and the
memory word at one place. `openings` follows the code with nothing but a sketch, along both sides of
every branch, and collects the sizes of the calls it can meet first, with the argument word at that
place. `openings_sound`: whatever a frame does that ends in a stop, the first thing it adds to its
events is one of these calls.
-/

import Mathlib.Data.List.Forall2
import Sando.Evm.Execution

namespace Sando.Evm

variable {Label : Type} [DecidableEq Label]

/-! ### Events only grow -/

/-- The machine a block leaves. -/
def BlockEnd.machine : BlockEnd Label → Machine
  | .jump _ machine | .branch _ _ _ machine | .halt _ machine => machine

namespace Context

variable {context : Context Label} {code : Code Label} {machine : Machine}

theorem straight_events {instr : Instr Label} {next : Machine}
    (runs : context.straight instr machine = some next) : machine.events <+: next.events := by
  unfold straight at runs
  split at runs
  case h_27 | h_28 =>
    split at runs
    · obtain rfl := Option.some.inj runs
      exact List.prefix_rfl
    · exact nomatch runs
  case h_29 =>
    obtain rfl := Option.some.inj runs
    exact List.prefix_append _ _
  case h_30 => exact nomatch runs
  all_goals
    obtain rfl := Option.some.inj runs
    exact List.prefix_rfl

theorem block_events (code : Code Label) (machine : Machine) :
    machine.events <+: (context.block code machine).machine.events := by
  fun_induction context.block code machine with
  | case6 => exact List.prefix_append _ _
  | case7 _ _ _ _ _ _ _ _ next runs ih => exact (straight_events runs).trans ih
  | _ => exact List.prefix_rfl

/-- If runs of `fuel` blocks keep what the frame has done, so does a run of one more. -/
theorem run_block_events {fuel : ℕ} {outcome : Outcome}
    (grows : ∀ {code machine}, context.run fuel code machine = some outcome →
      machine.events <+: outcome.events)
    (ends : context.run (fuel + 1) code machine = some outcome) :
    (context.block code machine).machine.events <+: outcome.events := by
  rw [run] at ends
  cases finish : context.block code machine with
  | halt how last =>
    simp only [finish, Option.some.injEq] at ends
    subst ends
    exact List.prefix_rfl
  | jump target next =>
    simp only [finish] at ends
    split at ends
    · exact grows ends
    · obtain rfl := Option.some.inj ends
      exact List.prefix_rfl
  | branch target condition rest next =>
    simp only [finish] at ends
    split at ends
    · exact grows ends
    · split at ends
      · exact grows ends
      · obtain rfl := Option.some.inj ends
        exact List.prefix_rfl

/-- What a frame has done stays done. -/
theorem run_events {fuel : ℕ} {outcome : Outcome}
    (ends : context.run fuel code machine = some outcome) : machine.events <+: outcome.events := by
  induction fuel generalizing code machine with
  | zero => exact nomatch ends
  | succ fuel ih => exact (context.block_events code machine).trans (run_block_events ih ends)

end Context

/-! ### Sketches -/

/-- Nothing is known of a word, or all of it. -/
def Fits (known : Option Word) (word : Word) : Prop := ∀ value ∈ known, word = value

theorem fits_none (word : Word) : Fits none word := fun _ impossible => nomatch impossible

theorem fits_some {value word : Word} : Fits (some value) word ↔ word = value :=
  ⟨fun fits => fits value rfl, fun same _ known => same.trans (Option.some.inj known)⟩

theorem fits_replicate (stack : List Word) :
    List.Forall₂ Fits (List.replicate stack.length none) stack := by
  induction stack with
  | nil => exact List.Forall₂.nil
  | cons word stack ih => exact List.Forall₂.cons (fits_none word) ih

/-- What is known of a machine: words on its stack, and one word of its memory. -/
structure Sketch where
  stack : List (Option Word)
  word : Option Word

/-- The machine looks like the sketch, whose memory word lies at `place`. -/
structure Sketch.Describes (sketch : Sketch) (place : ℕ) (machine : Machine) : Prop where
  stack : List.Forall₂ Fits sketch.stack machine.stack
  word : Fits sketch.word (wordAt machine.memory place)

/-- The first call: how much calldata it has, and the word at the place. -/
structure Opening where
  size : Word
  word : Option Word
  deriving DecidableEq

/-- A call looks like the opening. -/
def Opening.Describes (opening : Opening) (place : ℕ) (event : Event) : Prop :=
  ∃ target value input, event = .call target value input ∧ input.length = opening.size.toNat
    ∧ (place + 32 ≤ opening.size.toNat → Fits opening.word (wordAt (byteAt input) place))

/-! ### One instruction -/

/-- How many words an instruction replaces by one, for those that do nothing else. -/
def Instr.arity : Instr Label → Option ℕ
  | .add | .sub | .lt | .gt | .eq | .and | .byte | .shl | .shr | .sha3 => some 2
  | .iszero | .calldataload | .mload => some 1
  | .address | .origin | .caller | .callvalue | .number | .chainid | .selfbalance | .gas => some 0
  | _ => none

/-- It neither transfers control nor calls. -/
def Instr.isPlain : Instr Label → Bool
  | .call | .jump | .jumpi | .stop | .revert | .selfdestruct => false
  | _ => true

/-- The memory word at `place` after a store. -/
def stored (place : ℕ) (offset value word : Option Word) : Option Word :=
  match offset with
  | none => none
  | some offset =>
    if offset.toNat = place then value
    else if offset.toNat + 32 ≤ place ∨ place + 32 ≤ offset.toNat then word
    else none

/-- A plain instruction, seen through a sketch; `none` on stack underflow. -/
def Sketch.step (program : Code Label) (place : ℕ) : Sketch → Instr Label → Option Sketch
  | ⟨stack, word⟩, .push value => some ⟨some value :: stack, word⟩
  | ⟨stack, word⟩, .pushLabel label =>
    some ⟨some (BitVec.ofNat 256 (offsetOf program label)) :: stack, word⟩
  | sketch, .label _ => some sketch
  | ⟨_ :: stack, word⟩, .pop => some ⟨stack, word⟩
  | ⟨offset :: value :: stack, word⟩, .mstore => some ⟨stack, stored place offset value word⟩
  | ⟨stack, word⟩, .dup depth => stack[depth - 1]?.map fun value => ⟨value :: stack, word⟩
  | ⟨top :: stack, word⟩, .swap depth =>
    stack[depth - 1]?.map fun value => ⟨value :: stack.set (depth - 1) top, word⟩
  | ⟨stack, word⟩, instr =>
    match instr.arity with
    | some count => if count ≤ stack.length then some ⟨none :: stack.drop count, word⟩ else none
    | none => none

section Step

variable {sketch : Sketch} {place : ℕ} {machine : Machine} {instr : Instr Label}

/-- Instructions that compute a word compute some word. -/
theorem straight_arity (context : Context Label) {count : ℕ}
    (computes : instr.arity = some count) (stack : List Word) (memory : Memory) (events : List Event) :
    (count ≤ stack.length ∧ ∃ word,
      context.straight instr ⟨stack, memory, events⟩ = some ⟨word :: stack.drop count, memory, events⟩)
    ∨ (stack.length < count ∧ context.straight instr ⟨stack, memory, events⟩ = none) := by
  cases instr <;> simp only [Instr.arity, Option.some.injEq, reduceCtorEq] at computes <;>
    subst computes <;> rcases stack with _ | ⟨first, _ | ⟨second, stack⟩⟩ <;>
    simp [Context.straight]

/-- A store, seen at the place. -/
theorem fits_stored {known offset value : Option Word} {memory : Memory} {start word : Word}
    (before : Fits known (wordAt memory place)) (target : Fits offset start) (written : Fits value word) :
    Fits (stored place offset value known) (wordAt (memory.mstore start.toNat word) place) := by
  cases offset with
  | none => exact fits_none _
  | some offset =>
    obtain rfl := fits_some.mp target
    rw [stored]
    split
    case isTrue same =>
      have whole : wordAt (memory.mstore start.toNat word) place = word := by
        apply BitVec.eq_of_toNat_eq
        rw [toNat_wordAt, same, Memory.window_mstore_same]
      rwa [whole]
    case isFalse =>
      split
      case isTrue apart =>
        have unchanged : wordAt (memory.mstore start.toNat word) place = wordAt memory place := by
          apply BitVec.eq_of_toNat_eq
          rw [toNat_wordAt, toNat_wordAt, Memory.window_mstore_outside (by omega)]
        rwa [unchanged]
      case isFalse => exact fits_none _

theorem forall₂_getElem? {known : List (Option Word)} {stack : List Word}
    (fits : List.Forall₂ Fits known stack) (place : ℕ) :
    (known[place]? = none ∧ stack[place]? = none)
    ∨ ∃ value word, known[place]? = some value ∧ stack[place]? = some word ∧ Fits value word := by
  induction fits generalizing place with
  | nil => exact Or.inl ⟨rfl, rfl⟩
  | cons first _ ih =>
    cases place with
    | zero => exact Or.inr ⟨_, _, rfl, rfl, first⟩
    | succ place => simpa using ih place

theorem forall₂_set {known : List (Option Word)} {stack : List Word} {value : Option Word}
    {word : Word} (fits : List.Forall₂ Fits known stack) (first : Fits value word) (place : ℕ) :
    List.Forall₂ Fits (known.set place value) (stack.set place word) := by
  induction fits generalizing place with
  | nil => exact List.Forall₂.nil
  | cons head tail ih =>
    cases place with
    | zero => exact List.Forall₂.cons first tail
    | succ place => exact List.Forall₂.cons head (ih place)

/-- An instruction does what its sketch says, or underflows in both. -/
def Agrees (context : Context Label) (place : ℕ) (instr : Instr Label) (sketch : Sketch)
    (machine : Machine) : Prop :=
  (∃ after next, sketch.step context.program place instr = some after
    ∧ context.straight instr machine = some next ∧ next.events = machine.events
    ∧ after.Describes place next)
  ∨ (sketch.step context.program place instr = none ∧ context.straight instr machine = none)

section Agrees

variable {known : List (Option Word)} {stack : List Word} {word : Option Word} {memory : Memory}
  {events : List Event} {count : ℕ}

theorem agrees_arity (context : Context Label) (computes : instr.arity = some count)
    (steps : Sketch.step context.program place ⟨known, word⟩ instr
      = if count ≤ known.length then some ⟨none :: known.drop count, word⟩ else none)
    (fits : List.Forall₂ Fits known stack) (memoryFits : Fits word (wordAt memory place)) :
    Agrees context place instr ⟨known, word⟩ ⟨stack, memory, events⟩ := by
  rw [Agrees, steps, fits.length_eq]
  rcases straight_arity context computes stack memory events with
    ⟨enough, value, runs⟩ | ⟨short, fails⟩
  · rw [if_pos enough]
    exact Or.inl ⟨_, _, rfl, runs, rfl,
      ⟨List.Forall₂.cons (fits_none value) (List.forall₂_drop count fits), memoryFits⟩⟩
  · rw [if_neg (not_le.mpr short)]
    exact Or.inr ⟨rfl, fails⟩

theorem agrees_dup (context : Context Label) (depth : ℕ) (fits : List.Forall₂ Fits known stack)
    (memoryFits : Fits word (wordAt memory place)) :
    Agrees context place (.dup depth) ⟨known, word⟩ ⟨stack, memory, events⟩ := by
  rcases forall₂_getElem? fits (depth - 1) with ⟨missing, absent⟩ | ⟨value, top, here, there, same⟩
  · refine Or.inr ⟨?_, ?_⟩
    · rw [Sketch.step, missing]
      rfl
    · rw [Context.straight, absent]
  · refine Or.inl ⟨⟨value :: known, word⟩, ⟨top :: stack, memory, events⟩, ?_, ?_, rfl,
      ⟨List.Forall₂.cons same fits, memoryFits⟩⟩
    · rw [Sketch.step, here]
      rfl
    · rw [Context.straight, there]

theorem agrees_swap (context : Context Label) (depth : ℕ) (fits : List.Forall₂ Fits known stack)
    (memoryFits : Fits word (wordAt memory place)) :
    Agrees context place (.swap depth) ⟨known, word⟩ ⟨stack, memory, events⟩ := by
  cases fits with
  | nil => exact Or.inr ⟨rfl, rfl⟩
  | @cons first top known stack head fits =>
    rcases forall₂_getElem? fits (depth - 1) with
      ⟨missing, absent⟩ | ⟨value, deep, here, there, same⟩
    · refine Or.inr ⟨?_, ?_⟩
      · rw [Sketch.step, missing]
        rfl
      · rw [Context.straight, absent]
    · refine Or.inl ⟨⟨value :: known.set (depth - 1) first, word⟩,
        ⟨deep :: stack.set (depth - 1) top, memory, events⟩, ?_, ?_, rfl,
        ⟨List.Forall₂.cons same (forall₂_set fits head _), memoryFits⟩⟩
      · rw [Sketch.step, here]
        rfl
      · rw [Context.straight, there]

end Agrees

theorem agrees_of_plain (context : Context Label) (plain : instr.isPlain = true)
    (describes : sketch.Describes place machine) : Agrees context place instr sketch machine := by
  obtain ⟨known, word⟩ := sketch
  obtain ⟨stack, memory, events⟩ := machine
  obtain ⟨fits, memoryFits⟩ := describes
  simp only at fits memoryFits
  cases instr with
  | push value =>
    exact Or.inl ⟨_, _, rfl, rfl, rfl, ⟨List.Forall₂.cons (fits_some.mpr rfl) fits, memoryFits⟩⟩
  | pushLabel label =>
    exact Or.inl ⟨_, _, rfl, rfl, rfl, ⟨List.Forall₂.cons (fits_some.mpr rfl) fits, memoryFits⟩⟩
  | label name => exact Or.inl ⟨_, _, rfl, rfl, rfl, ⟨fits, memoryFits⟩⟩
  | pop =>
    cases fits with
    | nil => exact Or.inr ⟨rfl, rfl⟩
    | cons first fits => exact Or.inl ⟨_, _, rfl, rfl, rfl, ⟨fits, memoryFits⟩⟩
  | mstore =>
    rcases fits with _ | ⟨offset, _ | ⟨value, fits⟩⟩
    · exact Or.inr ⟨rfl, rfl⟩
    · exact Or.inr ⟨rfl, rfl⟩
    · exact Or.inl ⟨_, _, rfl, rfl, rfl, ⟨fits, fits_stored memoryFits offset value⟩⟩
  | dup depth => exact agrees_dup context depth fits memoryFits
  | swap depth => exact agrees_swap context depth fits memoryFits
  | call | jump | jumpi | stop | revert | selfdestruct => exact nomatch plain
  | _ => exact agrees_arity context rfl rfl fits memoryFits

end Step

/-! ### One block -/

/-- Where a block ends, seen through a sketch. -/
inductive Scan (Label : Type)
  | halt
  | jump (target : Option Word) (after : Sketch)
  | branch (target : Option Word) (rest : Code Label) (after : Sketch)
  | call (opening : Option Opening)

/-- The opening a call makes, when its size is known and its calldata starts the memory. -/
def opening (offset size word : Option Word) : Option Opening :=
  match offset, size with
  | some 0, some size => some ⟨size, word⟩
  | _, _ => none

/-- Follow a block up to its first call or its end. -/
def scan (program : Code Label) (place : ℕ) : Code Label → Sketch → Scan Label
  | .jump :: _, ⟨target :: stack, word⟩ => .jump target ⟨stack, word⟩
  | .jumpi :: rest, ⟨target :: _ :: stack, word⟩ => .branch target rest ⟨stack, word⟩
  | .call :: _, ⟨_ :: _ :: _ :: offset :: size :: _ :: _ :: _, word⟩ =>
    .call (opening offset size word)
  | instr :: rest, sketch =>
    match sketch.step program place instr with
    | some after => scan program place rest after
    | none => .halt
  | [], _ => .halt

/-- What a scan says about the end of the block, which started behind `events`. -/
def Scan.Describes (place : ℕ) (events : List Event) : Scan Label → BlockEnd Label → Prop
  | .halt, finish => ∃ how last, finish = .halt how last ∧ (how = .stop → last.events = events)
  | .jump target after, finish =>
    ∃ word next, finish = .jump word next ∧ Fits target word ∧ next.events = events
      ∧ after.Describes place next
  | .branch target rest after, finish =>
    ∃ word condition next, finish = .branch word condition rest next ∧ Fits target word
      ∧ next.events = events ∧ after.Describes place next
  | .call opening, finish => ∀ first ∈ opening, ∃ event, first.Describes place event
      ∧ events ++ [event] <+: finish.machine.events

section Scan

variable {place : ℕ} {code rest : Code Label} {sketch : Sketch}
  {machine : Machine} {instr : Instr Label}

theorem block_plain (context : Context Label) (plain : instr.isPlain = true) :
    context.block (instr :: rest) machine = match context.straight instr machine with
      | some next => context.block rest next
      | none => .halt .invalid machine := by
  obtain ⟨stack, memory, events⟩ := machine
  cases instr <;> first | rfl | exact nomatch plain

theorem scan_plain {program : Code Label} (plain : instr.isPlain = true) :
    scan program place (instr :: rest) sketch = match sketch.step program place instr with
      | some after => scan program place rest after
      | none => .halt := by
  obtain ⟨stack, word⟩ := sketch
  cases instr <;> first | rfl | exact nomatch plain

/-- A call whose size is known, and whose calldata starts the memory. -/
theorem opening_describes {offset size word : Option Word} {start count : Word} {memory : Memory}
    (offsetFits : Fits offset start) (sizeFits : Fits size count)
    (wordFits : Fits word (wordAt memory place)) {first : Opening}
    (found : first ∈ opening offset size word) (target : Address) (value : Word) :
    first.Describes place (.call target value (slice memory start.toNat count.toNat)) := by
  unfold opening at found
  split at found
  case h_1 size =>
    obtain rfl := Option.some.inj found
    obtain rfl := fits_some.mp offsetFits
    obtain rfl := fits_some.mp sizeFits
    refine ⟨target, value, _, rfl, length_slice _ _ _, fun inside => ?_⟩
    have same : wordAt (byteAt (slice memory 0 count.toNat)) place = wordAt memory place := by
      apply BitVec.eq_of_toNat_eq
      rw [toNat_wordAt, toNat_wordAt, window_slice inside, Nat.zero_add]
    exact same.symm ▸ wordFits
  case h_2 => exact nomatch found

/-- A call is on record before the block goes on. -/
theorem block_call (context : Context Label) (rest : Code Label)
    (gas target value inOffset inSize outOffset outSize : Word) (stack : List Word) (memory : Memory)
    (events : List Event) : ∃ event next,
      event = .call (target.setWidth 160) value (slice memory inOffset.toNat inSize.toNat)
      ∧ context.block (.call :: rest)
          ⟨gas :: target :: value :: inOffset :: inSize :: outOffset :: outSize :: stack, memory, events⟩
        = context.block rest next
      ∧ next.events = events ++ [event] :=
  ⟨_, _, rfl, rfl, rfl⟩

/-- A scan says what the block does. -/
theorem scan_sound (context : Context Label) (code : Code Label)
    (describes : sketch.Describes place machine) :
    (scan context.program place code sketch).Describes place machine.events
      (context.block code machine) := by
  induction code generalizing sketch machine with
  | nil => exact ⟨.stop, machine, rfl, fun _ => rfl⟩
  | cons instr rest ih =>
    by_cases plain : instr.isPlain = true
    · rw [scan_plain plain, block_plain context plain]
      rcases agrees_of_plain context plain describes with ⟨after, next, steps, runs, same, further⟩ | ⟨stuck, fails⟩
      · simp only [steps, runs]
        exact same ▸ ih further
      · simp only [stuck, fails]
        exact ⟨.invalid, machine, rfl, fun _ => rfl⟩
    · obtain ⟨known, word⟩ := sketch
      obtain ⟨stack, memory, events⟩ := machine
      obtain ⟨fits, memoryFits⟩ := describes
      simp only at fits memoryFits
      cases instr with
      | jump =>
        cases fits with
        | nil => exact ⟨.invalid, _, rfl, fun _ => rfl⟩
        | cons target fits => exact ⟨_, _, rfl, target, rfl, ⟨fits, memoryFits⟩⟩
      | jumpi =>
        rcases fits with _ | ⟨target, _ | ⟨condition, fits⟩⟩
        · exact ⟨.invalid, _, rfl, fun _ => rfl⟩
        · exact ⟨.invalid, _, rfl, fun _ => rfl⟩
        · exact ⟨_, _, _, rfl, target, rfl, ⟨fits, memoryFits⟩⟩
      | stop => exact ⟨.stop, _, rfl, fun _ => rfl⟩
      | revert =>
        rcases fits with _ | ⟨first, _ | ⟨second, fits⟩⟩
        · exact ⟨.invalid, _, rfl, fun _ => rfl⟩
        · exact ⟨.invalid, _, rfl, fun _ => rfl⟩
        · exact ⟨.revert, _, rfl, fun impossible => nomatch impossible⟩
      | selfdestruct =>
        cases fits with
        | nil => exact ⟨.invalid, _, rfl, fun _ => rfl⟩
        | cons first fits => exact ⟨.selfdestruct, _, rfl, fun impossible => nomatch impossible⟩
      | call =>
        rcases fits with _ | ⟨_, _ | ⟨_, _ | ⟨_, _ | ⟨offset, _ | ⟨size, _ | ⟨_, _ | ⟨_, fits⟩⟩⟩⟩⟩⟩⟩
        case cons.cons.cons.cons.cons.cons.cons =>
          intro first found
          obtain ⟨event, next, same, runs, grows⟩ := block_call context rest _ _ _ _ _ _ _ _ memory events
          rw [runs]
          refine ⟨event, ?_, grows ▸ context.block_events rest next⟩
          exact same ▸ opening_describes offset size memoryFits found _ _
        all_goals exact ⟨.invalid, _, rfl, fun _ => rfl⟩
      | _ => exact absurd rfl plain

end Scan

/-! ### All paths -/

/-- What is found behind a jump. A jump to where no label is halts. -/
def landings (program : Code Label) (follow : Code Label → Sketch → Option (List Opening))
    (target : Word) (after : Sketch) : Option (List Opening) :=
  match codeAt program target.toNat with
  | some behind => follow behind after
  | none => some []

/-- The calls the code can make first, along all its paths; `none` when a path leaves the known. -/
def openings (program : Code Label) (place : ℕ) :
    ℕ → Code Label → Sketch → Option (List Opening)
  | 0, _, _ => none
  | fuel + 1, code, sketch =>
    match scan program place code sketch with
    | .halt => some []
    | .call opening => opening.map fun opening => [opening]
    | .jump target after => do landings program (openings program place fuel) (← target) after
    | .branch target rest after => do
      let fallen ← openings program place fuel rest after
      let jumped ← landings program (openings program place fuel) (← target) after
      return fallen ++ jumped

/-- From `before` to `after` nothing happened, or one of the openings did first. -/
def Begins (found : List Opening) (place : ℕ) (before after : List Event) : Prop :=
  after = before
    ∨ ∃ opening ∈ found, ∃ event, opening.Describes place event ∧ before ++ [event] <+: after

section Openings

variable {place : ℕ} {code : Code Label} {sketch : Sketch} {machine : Machine}
  {found wider : List Opening} {before events : List Event}

theorem Begins.mono (begins : Begins found place before events) (subset : found ⊆ wider) :
    Begins wider place before events := by
  rcases begins with nothing | ⟨opening, member, made⟩
  · exact Or.inl nothing
  · exact Or.inr ⟨opening, subset member, made⟩

/-- A frame that stops has done nothing more, or one of the openings first. -/
theorem openings_sound (context : Context Label) {fuel blocks : ℕ}
    (listed : openings context.program place fuel code sketch = some found)
    (describes : sketch.Describes place machine)
    (stops : context.run blocks code machine = some ⟨.stop, events⟩) :
    Begins found place machine.events events := by
  induction fuel generalizing code sketch machine found blocks with
  | zero => simp only [openings, reduceCtorEq] at listed
  | succ fuel ih =>
    cases blocks with
    | zero => simp only [Context.run, reduceCtorEq] at stops
    | succ blocks =>
      have scanned := scan_sound context code describes
      have grows := context.run_block_events Context.run_events stops
      rw [openings] at listed
      rw [Context.run] at stops
      cases seen : scan context.program place code sketch with
      | halt =>
        rw [seen] at scanned
        obtain ⟨how, last, ends, same⟩ := scanned
        rw [ends] at stops
        obtain ⟨rfl, rfl⟩ := Outcome.mk.inj (Option.some.inj stops)
        exact Or.inl (same rfl)
      | call opening =>
        rw [seen] at scanned listed
        obtain ⟨first, rfl, rfl⟩ := Option.map_eq_some_iff.mp listed
        obtain ⟨event, fits, called⟩ := scanned first rfl
        exact Or.inr ⟨first, List.mem_singleton_self first, event, fits, called.trans grows⟩
      | jump target after =>
        rw [seen] at scanned
        obtain ⟨word, next, ends, fits, same, further⟩ := scanned
        simp only [seen, Option.bind_eq_bind, Option.bind_eq_some_iff, landings] at listed
        obtain ⟨target, rfl, listed⟩ := listed
        obtain rfl := fits_some.mp fits
        simp only [ends] at stops
        split at stops
        case h_1 behind lands =>
          simp only [lands] at listed
          exact same ▸ ih listed further stops
        case h_2 => simp at stops
      | branch target rest after =>
        rw [seen] at scanned
        obtain ⟨word, condition, next, ends, fits, same, further⟩ := scanned
        simp only [seen, Option.bind_eq_bind, Option.bind_eq_some_iff, landings, Option.pure_def,
          Option.some.injEq] at listed
        obtain ⟨fallen, below, target, rfl, jumped, beyond, rfl⟩ := listed
        obtain rfl := fits_some.mp fits
        simp only [ends] at stops
        split at stops
        case isTrue =>
          exact same ▸ (ih below further stops).mono (List.subset_append_left fallen jumped)
        case isFalse =>
          split at stops
          case h_1 behind lands =>
            simp only [lands] at beyond
            exact same ▸ (ih beyond further stops).mono (List.subset_append_right fallen jumped)
          case h_2 => simp at stops

end Openings

end Sando.Evm
