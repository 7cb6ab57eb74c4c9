/-
Where the arguments of calls come from.

An `Origin` is what is known of a word on the stack: its value, that it is the call value, the caller
or the balance of the account, or that it is a byte. `follows` traces the origins through a piece of
code and checks every call and every jump against a `Policy`, which allows calls by the origins of
their target and their value, and says what the stack holds at each jump target. `checks` does so
from every label. When both checks pass, every event in every state that a frame reaches is one the
policy permits (`reaches_permitted`).
-/

import Sando.Evm.Openings

namespace Sando.Evm

variable {Label : Type}

/-! ### Origins -/

/-- What is known of a word. -/
inductive Origin
  | value (word : Word)
  | callvalue
  | caller
  | selfBalance
  | byte
  | unknown
  deriving DecidableEq

/-- A word has an origin, behind some events. -/
def Origin.Fits (context : Context Label) (events : List Event) : Origin → Word → Prop
  | .value known, word => word = known
  | .callvalue, word => word = context.frame.callvalue
  | .caller, word => word = context.frame.caller.setWidth 256
  | .selfBalance, word => word = context.world.selfBalance events
  | .byte, word => word.toNat < 256
  | .unknown, _ => True

/-- The origin behind a call, which may change the balance. -/
def Origin.past : Origin → Origin
  | .selfBalance => .unknown
  | origin => origin

/-- The origin at some depth of the stack, of which only the top is known. -/
def originAt (known : List Origin) (depth : ℕ) : Origin := known.getD depth .unknown

/-- The top of the stack changes places with the word below `depth` others. -/
def swapped (known : List Origin) (depth : ℕ) : List Origin :=
  (List.range (max known.length (depth + 2))).map fun place =>
    if place = 0 then originAt known (depth + 1)
    else if place = depth + 1 then originAt known 0
    else originAt known place

/-- The stack looks as known. -/
def Known (context : Context Label) (known : List Origin) (machine : Machine) : Prop :=
  ∀ depth word, machine.stack[depth]? = some word →
    (originAt known depth).Fits context machine.events word

section Known

variable {context : Context Label} {known : List Origin} {origin : Origin} {word : Word}
  {stack : List Word} {memory : Memory} {events : List Event}

@[simp] theorem originAt_nil (depth : ℕ) : originAt [] depth = .unknown := rfl

@[simp] theorem originAt_cons_zero : originAt (origin :: known) 0 = origin := rfl

@[simp] theorem originAt_cons_succ (depth : ℕ) :
    originAt (origin :: known) (depth + 1) = originAt known depth := by
  simp [originAt]

@[simp] theorem originAt_drop (count depth : ℕ) :
    originAt (known.drop count) depth = originAt known (count + depth) := by
  simp [originAt, List.getD_eq_getElem?_getD, List.getElem?_drop]

theorem originAt_map_past (depth : ℕ) :
    originAt (known.map Origin.past) depth = (originAt known depth).past := by
  simp only [originAt, List.getD_eq_getElem?_getD, List.getElem?_map]
  cases known[depth]? <;> rfl

theorem originAt_swapped (depth place : ℕ) : originAt (swapped known depth) place
    = if place = 0 then originAt known (depth + 1)
      else if place = depth + 1 then originAt known 0 else originAt known place := by
  by_cases inside : place < max known.length (depth + 2)
  · simp [originAt, swapped, List.getD_eq_getElem?_getD, List.getElem?_map,
      List.getElem?_range inside]
  · have beyond : originAt known place = .unknown := by
      simp [originAt, List.getD_eq_getElem?_getD, List.getElem?_eq_none (show known.length ≤ place by omega)]
    rw [if_neg (by omega), if_neg (by omega), beyond]
    simp [originAt, swapped, List.getD_eq_getElem?_getD, List.getElem?_eq_none,
      show max known.length (depth + 2) ≤ place by omega]

theorem Known.cons (fits : origin.Fits context events word)
    (rest : Known context known ⟨stack, memory, events⟩) :
    Known context (origin :: known) ⟨word :: stack, memory, events⟩ := by
  intro depth other found
  cases depth with
  | zero =>
    obtain rfl := Option.some.inj found
    exact fits
  | succ depth =>
    rw [originAt_cons_succ]
    exact rest depth other found

theorem Known.drop (rest : Known context known ⟨stack, memory, events⟩) (count : ℕ)
    (memory' : Memory) : Known context (known.drop count) ⟨stack.drop count, memory', events⟩ := by
  intro depth other found
  rw [originAt_drop]
  exact rest (count + depth) other (by rwa [List.getElem?_drop] at found)

/-- Behind further events the balance is not known any more. -/
theorem Known.past (rest : Known context known ⟨stack, memory, events⟩) (memory' : Memory)
    (events' : List Event) : Known context (known.map Origin.past) ⟨stack, memory', events'⟩ := by
  intro depth other found
  have fits := rest depth other found
  rw [originAt_map_past]
  cases here : originAt known depth <;> rw [here] at fits <;> first | exact fits | exact trivial

theorem Known.swap (rest : Known context known ⟨word :: stack, memory, events⟩) {depth : ℕ}
    {deep : Word} (below : stack[depth]? = some deep) :
    Known context (swapped known depth) ⟨deep :: stack.set depth word, memory, events⟩ := by
  intro place other found
  rw [originAt_swapped]
  cases place with
  | zero =>
    obtain rfl := Option.some.inj found
    exact rest (depth + 1) deep below
  | succ place =>
    rw [if_neg (Nat.succ_ne_zero place)]
    change (stack.set depth word)[place]? = some other at found
    by_cases same : place = depth
    · subst same
      rw [List.getElem?_set_self', below] at found
      obtain rfl := Option.some.inj found
      rw [if_pos rfl]
      exact rest 0 word rfl
    · rw [List.getElem?_set_ne (Ne.symm same)] at found
      rw [if_neg (fun equal => same (Nat.succ.inj equal))]
      exact rest (place + 1) other found

end Known

/-! ### Policies -/

/-- What a frame may do: call a target with a value, destroy itself in favour of an account, and jump to
an offset with some words on the stack. -/
structure Policy where
  call : Origin → Origin → Bool
  selfdestruct : Origin → Bool
  entry : ℕ → List Origin

/-- The known words at an entry are there. -/
def Policy.covers (entry known : List Origin) : Bool :=
  (List.range entry.length).all fun depth =>
    originAt entry depth = .unknown || originAt known depth = originAt entry depth

/-- The policy permits an event behind others. -/
def Permits (policy : Policy) (context : Context Label) (before : List Event) : Event → Prop
  | .call target value _ => ∃ origin carried word, policy.call origin carried = true
      ∧ origin.Fits context before word ∧ target = word.setWidth 160
      ∧ carried.Fits context before value
  | .selfdestruct beneficiary => ∃ origin word, policy.selfdestruct origin = true
      ∧ origin.Fits context before word ∧ beneficiary = word.setWidth 160

/-- The policy permits all events. -/
def Permitted (policy : Policy) (context : Context Label) (events : List Event) : Prop :=
  ∀ before event after, events = before ++ event :: after → Permits policy context before event

section Permitted

variable {policy : Policy} {context : Context Label} {known : List Origin} {machine : Machine}

theorem Permitted.snoc {events : List Event} {event : Event}
    (before : Permitted policy context events) (here : Permits policy context events event) :
    Permitted policy context (events ++ [event]) := by
  intro front other after split
  rcases List.eq_nil_or_concat after with rfl | ⟨rest, last, rfl⟩
  · obtain ⟨rfl, same⟩ := List.append_inj' split rfl
    obtain rfl := (List.cons.inj same).1
    exact here
  · rw [List.concat_eq_append, ← List.cons_append, ← List.append_assoc] at split
    exact before front other rest (List.append_inj' split rfl).1

theorem Known.of_covers {entry : List Origin} (covered : Policy.covers entry known = true)
    (before : Known context known machine) : Known context entry machine := by
  intro depth word found
  by_cases inside : depth < entry.length
  · have here := List.all_eq_true.mp covered depth (List.mem_range.mpr inside)
    rw [Bool.or_eq_true, decide_eq_true_iff, decide_eq_true_iff] at here
    rcases here with unknown | same
    · rw [unknown]
      trivial
    · exact same ▸ before depth word found
  · have beyond : originAt entry depth = .unknown := by
      simp [originAt, List.getD_eq_getElem?_getD, List.getElem?_eq_none (not_lt.mp inside)]
    rw [beyond]
    trivial

end Permitted

/-! ### Following code -/

variable [DecidableEq Label]

namespace Policy

variable (policy : Policy) (program : Code Label)

/-- The offsets that a byte can be. -/
@[irreducible] def bytes : List ℕ := List.range 256

theorem mem_bytes {offset : ℕ} (small : offset < 256) : offset ∈ bytes := by
  unfold bytes
  exact List.mem_range.mpr small

/-- A jump keeps to the entries. -/
def lands (target : Origin) (known : List Origin) : Bool :=
  match target with
  | .value word => covers (policy.entry word.toNat) known || (codeAt program word.toNat).isNone
  | .byte => bytes.all fun offset =>
      covers (policy.entry offset) known || (codeAt program offset).isNone
  | _ => false

/-- The origins behind an instruction that neither transfers control nor calls. -/
def trace (known : List Origin) : Instr Label → List Origin
  | .push value => .value value :: known
  | .pushLabel label => .value (BitVec.ofNat 256 (offsetOf program label)) :: known
  | .label _ => known
  | .byte => .byte :: known.drop 2
  | .callvalue => .callvalue :: known
  | .caller => .caller :: known
  | .selfbalance => .selfBalance :: known
  | .pop => known.drop 1
  | .mstore => known.drop 2
  | .dup depth => originAt known (depth - 1) :: known
  | .swap depth => swapped known (depth - 1)
  | instr => .unknown :: known.drop (instr.arity.getD 0)

/-- Follow the origins through a piece of code. -/
def follows : Code Label → List Origin → Bool
  | [], _ => true
  | .jump :: _, known => policy.lands program (originAt known 0) (known.drop 1)
  | .jumpi :: rest, known =>
    policy.lands program (originAt known 0) (known.drop 2) && follows rest (known.drop 2)
  | .stop :: _, _ | .revert :: _, _ => true
  | .selfdestruct :: _, known => policy.selfdestruct (originAt known 0)
  | .call :: rest, known =>
    policy.call (originAt known 1) (originAt known 2)
      && follows rest (.unknown :: (known.drop 7).map Origin.past)
  | instr :: rest, known => follows rest (trace program known instr)

/-- Follow the code behind every label of a piece of the program that starts at an offset. -/
def checks : ℕ → Code Label → Bool
  | _, [] => true
  | offset, .label _ :: rest =>
    policy.follows program rest (policy.entry offset) && checks (offset + 1) rest
  | offset, instr :: rest => checks (offset + instr.size) rest

end Policy

/-! ### Labels -/

section Labels

variable {policy : Policy} {program : Code Label}

/-- The code behind a label has been followed. -/
theorem follows_of_checks {code behind : Code Label} {base offset : ℕ}
    (checked : policy.checks program base code = true) (lands : codeAt code offset = some behind) :
    policy.follows program behind (policy.entry (base + offset)) = true := by
  induction code generalizing base offset with
  | nil => exact absurd lands (by simp [codeAt])
  | cons instr rest ih =>
    have tail : policy.checks program (base + instr.size) rest = true := by
      cases instr with
      | label name => exact (Bool.and_eq_true_iff.mp checked).2
      | _ => exact checked
    cases offset with
    | zero =>
      cases instr with
      | label name =>
        obtain rfl := Option.some.inj lands
        exact (Bool.and_eq_true_iff.mp checked).1
      | _ => exact absurd lands (by simp [codeAt])
    | succ offset =>
      by_cases inside : offset + 1 < instr.size
      · have missed : codeAt (instr :: rest) (offset + 1) = none := by
          cases instr <;> simp_all [codeAt]
        exact absurd (missed.symm.trans lands) (by simp)
      · obtain ⟨further, split⟩ : ∃ further, offset + 1 = instr.size + further :=
          ⟨offset + 1 - instr.size, by omega⟩
        rw [split, codeAt_size_add] at lands
        rw [split, ← Nat.add_assoc]
        exact ih tail lands

end Labels

/-! ### Steps -/

section Steps

variable {policy : Policy} {context : Context Label} {known : List Origin} {code rest behind : Code Label}
  {machine next : Machine} {instr : Instr Label}

/-- The origins behind an instruction that computes a word, which is unknown. -/
theorem trace_arity {count : ℕ} (computes : instr.arity = some count)
    (plain : instr ≠ .byte ∧ instr ≠ .callvalue ∧ instr ≠ .caller ∧ instr ≠ .selfbalance) :
    Policy.trace context.program known instr = .unknown :: known.drop count := by
  obtain ⟨byte, callvalue, caller, selfbalance⟩ := plain
  cases instr <;> simp_all [Instr.arity, Policy.trace]

theorem known_arity {count : ℕ} (computes : instr.arity = some count)
    (before : Known context known machine) (runs : context.straight instr machine = some next) :
    Known context (.unknown :: known.drop count) next ∧ next.events = machine.events := by
  obtain ⟨stack, memory, events⟩ := machine
  rcases straight_arity context computes stack memory events with
    ⟨-, word, computed⟩ | ⟨-, fails⟩
  · obtain rfl := Option.some.inj (computed.symm.trans runs)
    exact ⟨Known.cons trivial (before.drop count memory), rfl⟩
  · exact absurd (fails.symm.trans runs) (by simp)

/-- A plain instruction leaves the stack as traced, and the events as they are. -/
theorem known_straight (plain : instr.isPlain = true) (before : Known context known machine)
    (runs : context.straight instr machine = some next) :
    Known context (Policy.trace context.program known instr) next ∧ next.events = machine.events := by
  obtain ⟨stack, memory, events⟩ := machine
  cases instr with
  | push value =>
    obtain rfl := Option.some.inj runs
    exact ⟨Known.cons rfl before, rfl⟩
  | pushLabel label =>
    obtain rfl := Option.some.inj runs
    exact ⟨Known.cons rfl before, rfl⟩
  | label name =>
    obtain rfl := Option.some.inj runs
    exact ⟨before, rfl⟩
  | byte =>
    rcases stack with _ | ⟨index, _ | ⟨word, stack⟩⟩
    · exact absurd runs (by simp [Context.straight])
    · exact absurd runs (by simp [Context.straight])
    · obtain rfl := Option.some.inj runs
      refine ⟨Known.cons ?_ (before.drop 2 memory), rfl⟩
      change BitVec.toNat (if index.toNat < 32 then (byteOf word index.toNat).setWidth 256 else 0) < 256
      split
      · rw [BitVec.toNat_setWidth]
        exact lt_of_le_of_lt (Nat.mod_le _ _) (byteOf word index.toNat).isLt
      · decide
  | callvalue =>
    obtain rfl := Option.some.inj runs
    exact ⟨Known.cons rfl before, rfl⟩
  | caller =>
    obtain rfl := Option.some.inj runs
    exact ⟨Known.cons rfl before, rfl⟩
  | selfbalance =>
    obtain rfl := Option.some.inj runs
    exact ⟨Known.cons rfl before, rfl⟩
  | pop =>
    rcases stack with _ | ⟨word, stack⟩
    · exact absurd runs (by simp [Context.straight])
    · obtain rfl := Option.some.inj runs
      exact ⟨before.drop 1 memory, rfl⟩
  | mstore =>
    rcases stack with _ | ⟨offset, _ | ⟨word, stack⟩⟩
    · exact absurd runs (by simp [Context.straight])
    · exact absurd runs (by simp [Context.straight])
    · obtain rfl := Option.some.inj runs
      exact ⟨before.drop 2 _, rfl⟩
  | dup depth =>
    rcases found : stack[depth - 1]? with _ | word
    · exact absurd runs (by simp [Context.straight, found])
    · simp only [Context.straight, found, Option.some.injEq] at runs
      subst runs
      exact ⟨Known.cons (before _ word found) before, rfl⟩
  | swap depth =>
    rcases stack with _ | ⟨top, stack⟩
    · exact absurd runs (by simp [Context.straight])
    · rcases found : stack[depth - 1]? with _ | deep
      · exact absurd runs (by simp [Context.straight, found])
      · simp only [Context.straight, found, Option.some.injEq] at runs
        subst runs
        exact ⟨before.swap found, rfl⟩
  | call | jump | jumpi | stop | revert | selfdestruct => exact absurd plain Bool.false_ne_true
  | _ =>
    rw [trace_arity rfl (by simp)]
    exact known_arity rfl before runs

/-! ### Blocks -/

/-- The code has been followed, with origins that the stack has, and all events so far are
permitted. -/
def Followed (policy : Policy) (context : Context Label) (code : Code Label) (machine : Machine) :
    Prop :=
  ∃ known, policy.follows context.program code known = true ∧ Known context known machine
    ∧ Permitted policy context machine.events

/-- Where the code behind every jump has been followed. -/
def FollowsOn (policy : Policy) (context : Context Label) : BlockEnd Label → Prop
  | .halt _ last => Permitted policy context last.events
  | .jump target next => Permitted policy context next.events
    ∧ ∀ behind, codeAt context.program target.toNat = some behind →
      Followed policy context behind next
  | .branch target _ rest next => Followed policy context rest next
    ∧ ∀ behind, codeAt context.program target.toNat = some behind →
      Followed policy context behind next

/-- A jump that keeps to the entries goes on where the code has been followed. -/
theorem followed_of_lands {origin : Origin} {target : Word}
    (checked : policy.checks context.program 0 context.program = true)
    (lands : policy.lands context.program origin known = true)
    (fits : origin.Fits context machine.events target) (before : Known context known machine)
    (permitted : Permitted policy context machine.events)
    (found : codeAt context.program target.toNat = some behind) :
    Followed policy context behind machine := by
  have followed := follows_of_checks checked found
  rw [Nat.zero_add] at followed
  have covered : Policy.covers (policy.entry target.toNat) known = true := by
    cases origin with
    | value word =>
      obtain rfl : target = word := fits
      have here : (Policy.covers (policy.entry target.toNat) known
        || (codeAt context.program target.toNat).isNone) = true := lands
      rwa [found, Option.isNone_some, Bool.or_false] at here
    | byte =>
      have here := List.all_eq_true.mp lands target.toNat (Policy.mem_bytes fits)
      rwa [found, Option.isNone_some, Bool.or_false] at here
    | callvalue | caller | selfBalance | unknown => exact absurd lands Bool.false_ne_true
  exact ⟨_, followed, before.of_covers covered, permitted⟩

theorem follows_plain {program : Code Label} (plain : instr.isPlain = true) :
    policy.follows program (instr :: rest) known
      = policy.follows program rest (Policy.trace program known instr) := by
  cases instr <;> first | rfl | exact nomatch plain

/-- A block of code that has been followed goes on where the code has been followed. -/
theorem followsOn_block (checked : policy.checks context.program 0 context.program = true)
    (followed : policy.follows context.program code known = true)
    (before : Known context known machine) (permitted : Permitted policy context machine.events) :
    FollowsOn policy context (context.block code machine) := by
  induction code generalizing known machine with
  | nil => exact permitted
  | cons instr rest ih =>
    by_cases plain : instr.isPlain = true
    · rw [block_plain context plain]
      rw [follows_plain plain] at followed
      rcases runs : context.straight instr machine with _ | next
      · exact permitted
      · obtain ⟨after, events⟩ := known_straight plain before runs
        exact ih followed after (events ▸ permitted)
    · obtain ⟨stack, memory, events⟩ := machine
      cases instr with
      | jump =>
        rcases stack with _ | ⟨target, stack⟩
        · exact permitted
        · exact ⟨permitted, fun behind found => followed_of_lands checked followed
            (before 0 target rfl) (before.drop 1 memory) permitted found⟩
      | jumpi =>
        rcases stack with _ | ⟨target, _ | ⟨condition, stack⟩⟩
        · exact permitted
        · exact permitted
        · obtain ⟨lands, onward⟩ := Bool.and_eq_true_iff.mp followed
          exact ⟨⟨_, onward, before.drop 2 memory, permitted⟩, fun behind found =>
            followed_of_lands checked lands (before 0 target rfl) (before.drop 2 memory) permitted found⟩
      | stop => exact permitted
      | revert =>
        rcases stack with _ | ⟨first, _ | ⟨second, stack⟩⟩ <;> exact permitted
      | selfdestruct =>
        rcases stack with _ | ⟨beneficiary, stack⟩
        · exact permitted
        · exact permitted.snoc ⟨_, beneficiary, followed, before 0 beneficiary rfl, rfl⟩
      | call =>
        rcases stack with _ | ⟨gas, _ | ⟨target, _ | ⟨value, _ | ⟨inOffset, _ | ⟨inSize, _ | ⟨outOffset,
          _ | ⟨outSize, stack⟩⟩⟩⟩⟩⟩⟩
        case cons.cons.cons.cons.cons.cons.cons =>
          obtain ⟨allowed, onward⟩ := Bool.and_eq_true_iff.mp followed
          have made : Permits policy context events
              (.call (target.setWidth 160) value (slice memory inOffset.toNat inSize.toNat)) :=
            ⟨_, _, target, allowed, before 1 target rfl, rfl, before 2 value rfl⟩
          refine ih onward (Known.cons trivial ?_) (permitted.snoc made)
          rw [List.map_drop]
          exact Known.drop (before.past memory _) 7 _
        all_goals exact permitted
      | _ => exact absurd rfl plain

/-! ### Runs -/

/-- The code and the machine that a frame has at the start of its blocks. -/
inductive Reaches (context : Context Label) : Code Label → Machine → Prop
  | start : Reaches context context.program Machine.initial
  | jump {code behind : Code Label} {machine next : Machine} {target : Word}
      (reached : Reaches context code machine) (jumps : context.block code machine = .jump target next)
      (lands : codeAt context.program target.toNat = some behind) : Reaches context behind next
  | taken {code rest behind : Code Label} {machine next : Machine} {target condition : Word}
      (reached : Reaches context code machine)
      (branches : context.block code machine = .branch target condition rest next)
      (holds : condition ≠ 0) (lands : codeAt context.program target.toNat = some behind) :
      Reaches context behind next
  | fall {code rest : Code Label} {machine next : Machine} {target : Word}
      (reached : Reaches context code machine)
      (branches : context.block code machine = .branch target 0 rest next) : Reaches context rest next

theorem Reaches.followed (checked : policy.checks context.program 0 context.program = true)
    (started : policy.follows context.program context.program [] = true)
    (reached : Reaches context code machine) : Followed policy context code machine := by
  induction reached with
  | start =>
    refine ⟨[], started, fun depth word found => ?_, fun before event after split => ?_⟩
    · exact absurd found (by simp [Machine.initial])
    · exact absurd split (by simp [Machine.initial])
  | jump reached jumps lands ih =>
    obtain ⟨known, followed, before, permitted⟩ := ih
    have onward := followsOn_block checked followed before permitted
    rw [jumps] at onward
    exact onward.2 _ lands
  | taken reached branches holds lands ih =>
    obtain ⟨known, followed, before, permitted⟩ := ih
    have onward := followsOn_block checked followed before permitted
    rw [branches] at onward
    exact onward.2 _ lands
  | fall reached branches ih =>
    obtain ⟨known, followed, before, permitted⟩ := ih
    have onward := followsOn_block checked followed before permitted
    rw [branches] at onward
    exact onward.1

/-- In every state that a frame reaches, and at the end of the block that starts there, all events are
permitted. -/
theorem reaches_permitted (checked : policy.checks context.program 0 context.program = true)
    (started : policy.follows context.program context.program [] = true)
    (reached : Reaches context code machine) :
    Permitted policy context (context.block code machine).machine.events := by
  obtain ⟨known, followed, before, permitted⟩ := reached.followed checked started
  have onward := followsOn_block checked followed before permitted
  cases ends : context.block code machine with
  | halt how last =>
    rw [ends] at onward
    exact onward
  | jump target next =>
    rw [ends] at onward
    exact onward.1
  | branch target condition rest next =>
    rw [ends] at onward
    obtain ⟨known, -, -, permitted⟩ := onward.1
    exact permitted

/-- What a frame has done by the end of a block, it has done by the end of the frame. -/
theorem Reaches.events_prefix {outcome : Outcome} (reached : Reaches context code machine)
    (executes : context.Executes outcome) :
    (context.block code machine).machine.events <+: outcome.events := by
  have leads : context.Leads context.program Machine.initial code machine := by
    induction reached with
    | start => exact Context.Leads.refl
    | jump reached jumps lands ih => exact ih.trans (Context.Leads.jump jumps lands)
    | taken reached branches holds lands ih => exact ih.trans (Context.Leads.taken branches holds lands)
    | fall reached branches ih => exact ih.trans (Context.Leads.fall branches rfl)
  obtain ⟨fuel, run⟩ := executes.of_leads leads
  cases fuel with
  | zero => exact nomatch run
  | succ fuel => exact Context.run_block_events Context.run_events run

/-- A frame ends with the events of a block that it reaches. -/
theorem Reaches.of_run {outcome : Outcome} {fuel : ℕ} (reached : Reaches context code machine)
    (ends : context.run fuel code machine = some outcome) : ∃ final last,
    Reaches context final last ∧ (context.block final last).machine.events = outcome.events := by
  induction fuel generalizing code machine with
  | zero => exact nomatch ends
  | succ fuel ih =>
    rw [Context.run] at ends
    cases finish : context.block code machine with
    | halt how last =>
      simp only [finish, Option.some.injEq] at ends
      subst ends
      exact ⟨code, machine, reached, by rw [finish]; rfl⟩
    | jump target next =>
      simp only [finish] at ends
      split at ends
      · next behind lands => exact ih (reached.jump finish lands) ends
      · obtain rfl := Option.some.inj ends
        exact ⟨code, machine, reached, by rw [finish]; rfl⟩
    | branch target condition rest next =>
      simp only [finish] at ends
      split at ends
      · next zero =>
        subst zero
        exact ih (reached.fall finish) ends
      · next holds =>
        split at ends
        · next behind lands => exact ih (reached.taken finish holds lands) ends
        · obtain rfl := Option.some.inj ends
          exact ⟨code, machine, reached, by rw [finish]; rfl⟩

end Steps

end Sando.Evm
