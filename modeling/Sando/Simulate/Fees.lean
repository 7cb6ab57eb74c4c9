/-
The fees that the transactions of a simulation run with.

The environment is shared, and `gasPriorityFee` is written only for a meat of type 2. So it outlives
that meat: the transactions after it, up to the next meat of type 2, run with its priority fee. The
quotes after the meats also run with the gas price of the last meat, because `getAmountOutEvmV2` and
`getAmountOutEvmV3` do not write one. `fees_own_iff` says exactly when this does no harm.
-/

import Sando.Simulate.Frame

namespace Sando.Simulate

open Sando.Evm Sando.Program

/-! ### The fees of a transaction -/

/-- A meat of type 2. -/
def Meat.isType2 (meat : Meat) : Bool :=
  match meat.transactionType with
  | some type => type ≠ 0
  | none => false

/-- The priority fee of a meat. Only a meat of type 2 has one. -/
def Meat.ownPriorityFee (meat : Meat) : Option Word :=
  if meat.isType2 then meat.maxPriorityFeePerGas else none

/-- The gas price of a meat. -/
def Meat.ownGasPrice (meat : Meat) : Word :=
  if meat.isType2 then meat.maxFeePerGas.getD 0 else meat.gasPrice.getD 0

/-- The priority fee that a transaction should run with. -/
def Role.ownPriorityFee : Role → Option Word
  | .meat victim => victim.ownPriorityFee
  | _ => none

/-- The gas price that a transaction should run with. -/
def Role.ownGasPrice (baseFee : Word) : Role → Word
  | .meat victim => victim.ownGasPrice
  | _ => baseFee

/-- A transaction ran with the fees of its own. -/
def Ran.Own (baseFee : Word) (ran : Ran) : Prop :=
  ran.tx.gasPriorityFee = ran.role.ownPriorityFee ∧ ran.tx.gasPrice = ran.role.ownGasPrice baseFee

/-- Every transaction ran with the fees of its own. -/
def Own (baseFee : Word) (log : List Ran) : Prop := ∀ ran ∈ log, ran.Own baseFee

instance (baseFee : Word) (log : List Ran) : Decidable (Own baseFee log) :=
  inferInstanceAs (Decidable (∀ ran ∈ log,
    ran.tx.gasPriorityFee = ran.role.ownPriorityFee ∧ ran.tx.gasPrice = ran.role.ownGasPrice baseFee))

theorem own_append {baseFee : Word} {log more : List Ran} :
    Own baseFee (log ++ more) ↔ Own baseFee log ∧ Own baseFee more :=
  List.forall_mem_append

theorem own_singleton {baseFee : Word} {ran : Ran} : Own baseFee [ran] ↔ ran.Own baseFee :=
  List.forall_mem_singleton

/-! ### Everything but the meats -/

/-- A transaction that is no meat. -/
def Role.Plain : Role → Prop
  | .meat _ => False
  | _ => True

/-- Since `log`, only plain transactions ran, at this priority fee and this gas price. The priority fee
is still the one in the environment. -/
def Fenced (fee : Option Word) (price : Word) (log : List Ran) (state : State) : Prop :=
  state.tx.gasPriorityFee = fee ∧ ∃ more, state.ran = log ++ more
    ∧ ∀ ran ∈ more, ran.role.Plain ∧ ran.tx.gasPriorityFee = fee ∧ ran.tx.gasPrice = price

/-- The gas price is also the one in the environment. -/
def Quoted (fee : Option Word) (price : Word) (log : List Ran) (state : State) : Prop :=
  state.tx.gasPrice = price ∧ Fenced fee price log state

section Frame

variable {fee : Option Word} {price : Word} {log : List Ran} {α : Type}

theorem Fenced.refl (state : State) : Fenced state.tx.gasPriorityFee price state.ran state :=
  ⟨rfl, [], by simp, by simp⟩

/-- Plain transactions at the base fee, without a priority fee, have their own fees. -/
theorem Fenced.own {state : State} (fenced : Fenced none price log state) (own : Own price log) :
    Own price state.ran := by
  obtain ⟨_, more, same, plain⟩ := fenced
  rw [same, own_append]
  refine ⟨own, fun ran member => ?_⟩
  obtain ⟨isPlain, noFee, atPrice⟩ := plain ran member
  cases role : ran.role with
  | meat _ => rw [role] at isPlain; exact isPlain.elim
  | _ => exact ⟨by rw [noFee, role]; rfl, by rw [atPrice, role]; rfl⟩

/-- Writing fields other than the fees. -/
theorem quoted_setTx {change : TxEnv → TxEnv}
    (sameFee : ∀ tx, (change tx).gasPriorityFee = tx.gasPriorityFee)
    (samePrice : ∀ tx, (change tx).gasPrice = tx.gasPrice) :
    Keeps (Quoted fee price log) (setTx change) := by
  refine keeps_modify ?_
  rintro state ⟨atPrice, fenced⟩
  exact ⟨(samePrice _).trans atPrice, (sameFee _).trans fenced.1, fenced.2⟩

/-- Running a plain transaction. -/
theorem quoted_runTx (how : How) {role : Role} (plain : role.Plain) :
    Keeps (Quoted fee price log) (runTx how role) := by
  rintro state ⟨atPrice, sameFee, more, same, others⟩
  refine ⟨atPrice, sameFee, more ++ [⟨how, role, state.tx⟩], ?_, ?_⟩
  · rw [← List.append_assoc, ← same]
  · intro ran member
    rcases List.mem_append.1 member with old | new
    · exact others ran old
    · rw [List.mem_singleton.1 new]
      exact ⟨plain, sameFee, atPrice⟩

/-- A program that first writes the gas price. -/
theorem fenced_of_quoted {change : TxEnv → TxEnv} {rest : Unit → Simulation α}
    (sameFee : ∀ tx, (change tx).gasPriorityFee = tx.gasPriorityFee)
    (newPrice : ∀ tx, (change tx).gasPrice = price)
    (quoted : Keeps (Quoted fee price log) (rest ())) :
    Triple (Fenced fee price log) (setTx change >>= rest) (fun _ => Quoted fee price log)
      fun _ => Fenced fee price log := by
  refine triple_bind (fun _ => Quoted fee price log) ?_ fun _ => ?_
  · refine triple_modify fun state fenced => ?_
    exact ⟨newPrice _, (sameFee _).trans fenced.1, fenced.2⟩
  · exact quoted.weaken (fun _ holds => holds) (fun _ _ holds => holds) fun _ _ holds => holds.2

/-- Afterwards the gas price may be forgotten. -/
theorem keeps_fenced {program : Simulation α} (settles : Triple (Fenced fee price log) program
    (fun _ => Quoted fee price log) fun _ => Fenced fee price log) :
    Keeps (Fenced fee price log) program :=
  settles.weaken (fun _ holds => holds) (fun _ _ holds => holds.2) fun _ _ holds => holds

theorem quoted_build (segment : Built) : Keeps (Quoted fee price log) (build segment) :=
  keeps_modify fun _ holds => holds

end Frame

/-! ### Queries and payloads -/

section Programs

variable {setup : Setup} {fee : Option Word} {log : List Ran}

theorem quoted_query {price : Word} {role : Role} (plain : role.Plain) :
    Keeps (Quoted fee price log) (setup.query role) :=
  keeps_bind (quoted_runTx _ plain) fun _ => (computes_output _).keeps _

/-- The quotes do not write the gas price. -/
theorem quoted_getAmountOut {price : Word} (pool : TargetPool) (amountIn : Word)
    (tokenIn tokenOut : Address) :
    Keeps (Quoted fee price log) (setup.getAmountOut pool amountIn tokenIn tokenOut) := by
  obtain ⟨change, rest, same, sameFee, samePrice, computes⟩ :=
    getAmountOut_shape setup pool amountIn tokenIn tokenOut
  rw [same]
  exact keeps_bind (quoted_setTx sameFee samePrice) fun _ =>
    keeps_bind (quoted_query (show Role.quote.Plain from trivial)) fun _ => (computes _).keeps _

theorem quoted_getBalanceOfEvm (token owner : Address) :
    Keeps (Quoted fee setup.baseFee log) (setup.getBalanceOfEvm token owner) := by
  refine keeps_bind (keeps_modify ?_) fun _ => keeps_bind
    (quoted_query (show Role.balance.Plain from trivial)) fun output => (computes_balance output).keeps _
  rintro state ⟨_, fenced⟩
  exact ⟨rfl, fenced.1, fenced.2⟩

theorem fenced_getBalanceOfEvm (token owner : Address) :
    Keeps (Fenced fee setup.baseFee log) (setup.getBalanceOfEvm token owner) :=
  keeps_fenced (fenced_of_quoted (fun _ => rfl) (fun _ => rfl) (keeps_bind
    (quoted_query (show Role.balance.Plain from trivial)) fun output => (computes_balance output).keeps _))

theorem computes_decode (answer : Answer) (failed halted : SimulationError)
    (reverted : List Byte → SimulationError) : Computes (match answer with
      | .evmError => throw (.error failed)
      | .success output _ =>
        if output.length < 64 then throw (.error .failedToDecodeOutput)
        else pure (wordAt (byteAt output) 0, wordAt (byteAt output) 32)
      | .revert output _ => throw (.error (reverted output))
      | .halt _ => throw (.error halted) : Simulation (Word × Word)) := by
  cases answer with
  | success _ _ => exact computes_ite (computes_error _) (computes_pure _)
  | _ => exact computes_error _

section Payload

variable {role : Role} (plain : role.Plain) (failed halted notSafu : SimulationError)
  (reverted : List Byte → SimulationError)
include plain

theorem fenced_braindance (data : List Byte) :
    Keeps (Fenced fee setup.baseFee log) (setup.braindance role failed halted reverted data) :=
  keeps_fenced (fenced_of_quoted (fun _ => rfl) (fun _ => rfl)
    (keeps_bind (quoted_runTx _ plain) fun _ => (computes_decode _ _ _ _).keeps _))

theorem quoted_sendWithAccessList {price : Word} (accessList : AccessList) :
    Keeps (Quoted fee price log)
      (setup.sendWithAccessList role failed halted notSafu reverted accessList) :=
  keeps_bind (quoted_setTx (fun _ => rfl) fun _ => rfl) fun _ =>
    keeps_bind (quoted_runTx _ plain) fun _ => (computes_report setup _ _ _ _ _ _).keeps _

/-- A payload is sent at the base fee. -/
theorem quoted_sendPayload (clearAccessList : Bool) (bundle : Bundle) (count : ℕ) :
    Triple (Fenced fee setup.baseFee log)
      (setup.sendPayload role failed halted notSafu reverted clearAccessList bundle count)
      (fun _ => Quoted fee setup.baseFee log) fun _ => Fenced fee setup.baseFee log := by
  refine fenced_of_quoted (fun _ => rfl) (fun _ => rfl) ?_
  refine keeps_bind (quoted_runTx _ plain) fun ran => ?_
  cases setup.backend.answer ran with
  | evmError => exact keeps_throw _
  | _ => exact quoted_sendWithAccessList plain failed halted notSafu reverted _

end Payload

theorem fenced_frontrunSegment (isMultiple : Bool) (index : ℕ) (frontrunIn : Word)
    (ingredients : RawIngredients) (frontruns : Frontruns) :
    Keeps (Fenced fee setup.baseFee log)
      (setup.frontrunSegment isMultiple index frontrunIn ingredients frontruns) := by
  refine keeps_fenced (fenced_of_quoted (fun _ => rfl) (fun _ => rfl) ?_)
  refine keeps_bind (quoted_getBalanceOfEvm _ _) fun _ => ?_
  refine keeps_bind (quoted_getAmountOut _ _ _ _) fun _ => keeps_bind (keeps_ofOption _ _) fun _ => ?_
  refine keeps_bind (quoted_build _) fun _ => keeps_bind ((computes_frontrunPayload _ _ _ _ _ _).keeps _) fun _ => ?_
  exact keeps_bind ((computes_extend _ _).keeps _) fun _ => keeps_pure _

theorem fenced_frontrunLoop (isMultiple : Bool) (frontrunIns : List Word)
    (multiIngredients : List RawIngredients) : ∀ index frontruns,
    Keeps (Fenced fee setup.baseFee log)
      (setup.frontrunLoop isMultiple frontrunIns index multiIngredients frontruns) := by
  induction multiIngredients with
  | nil => exact fun _ _ => keeps_pure _
  | cons ingredients rest ih =>
    intro index frontruns
    refine keeps_bind (keeps_ofOption _ _) fun amount => keeps_ite (ih _ _) ?_
    exact keeps_bind (fenced_frontrunSegment _ _ _ _ _) fun _ => ih _ _

theorem quoted_backrunSegment {price : Word} (isMultiple : Bool) (backrunIns : List Word) (index : ℕ)
    (ingredients : RawIngredients) (bundle : Bundle) :
    Keeps (Quoted fee price log)
      (setup.backrunSegment isMultiple backrunIns index ingredients bundle) := by
  refine keeps_bind (keeps_ofOption _ _) fun _ => keeps_bind (keeps_ofOption _ _) fun _ => ?_
  refine keeps_bind (quoted_getAmountOut _ _ _ _) fun _ => keeps_bind (quoted_build _) fun _ => ?_
  exact keeps_bind ((computes_backrunPayload _ _ _ _ _ _).keeps _) fun _ =>
    (computes_extend _ _).keeps _

/-- The backruns are prepared at the gas price that is already there. -/
theorem quoted_backrunLoop {price : Word} (isMultiple : Bool) (backrunIns : List Word)
    (multiIngredients : List RawIngredients) : ∀ index bundle,
    Keeps (Quoted fee price log)
      (setup.backrunLoop isMultiple backrunIns index multiIngredients bundle) := by
  induction multiIngredients with
  | nil => exact fun _ _ => keeps_pure _
  | cons ingredients rest ih =>
    exact fun _ _ => keeps_bind (quoted_backrunSegment _ _ _ _ _) fun _ => ih _ _

end Programs

/-! ### The meats -/

/-- The priority fee in the environment after a meat. -/
def Meat.carried (meat : Meat) (fee : Option Word) : Option Word :=
  if meat.isType2 then meat.maxPriorityFeePerGas else fee

/-- A priority fee that was left behind reaches no transaction: there is none, or the next transaction
is a meat of type 2, which overwrites it. -/
def Shielded (fee : Option Word) (meats : List Meat) : Prop :=
  fee = none ∨ ∃ next ∈ meats.head?, next.isType2 = true

/-- Every meat of type 2 with a priority fee is directly followed by another meat of type 2. -/
def Covered : List Meat → Prop
  | [] => True
  | meat :: meats =>
    (meat.isType2 = true → Shielded meat.maxPriorityFeePerGas meats) ∧ Covered meats

theorem shielded_cons {fee : Option Word} {meat : Meat} {meats : List Meat} :
    Shielded fee (meat :: meats) ↔ fee = none ∨ meat.isType2 = true := by
  simp [Shielded]

/-- The meat runs with its own priority fee if and only if no other one reaches it. -/
theorem carried_eq_own {fee : Option Word} {meat : Meat} {meats : List Meat} :
    meat.carried fee = meat.ownPriorityFee ↔ Shielded fee (meat :: meats) := by
  rw [shielded_cons, Meat.carried, Meat.ownPriorityFee]
  cases meat.isType2 <;> simp

/-- What one meat does to the condition on the rest. -/
theorem covered_step {fee : Option Word} {meat : Meat} {meats : List Meat} :
    Shielded fee (meat :: meats) ∧ Covered (meat :: meats) ↔
      Shielded fee (meat :: meats) ∧ Shielded (meat.carried fee) meats ∧ Covered meats := by
  refine and_congr_right fun shielded => ?_
  rw [Covered, Meat.carried]
  refine and_congr_left fun _ => ?_
  cases type2 : meat.isType2 with
  | true => simp
  | false =>
    have noFee : fee = none := by simpa [shielded_cons, type2] using shielded
    simp [Shielded, noFee]

/-- How a simulator reads the gas price of a meat without a type. -/
def ReadsPrice (untyped : Option Word → Simulation Word) : Prop :=
  ∀ (pre : State → Prop) price,
    Triple pre (untyped price) (fun value state => value = price.getD 0 ∧ pre state) fun _ => pre

theorem readsPrice_unwrapOrDefault : ReadsPrice unwrapOrDefault :=
  fun _ _ => triple_pure fun _ holds => ⟨rfl, holds⟩

theorem readsPrice_unwrap : ReadsPrice unwrap := by
  intro pre price
  refine triple_ofOption ?_ fun _ _ holds => holds
  rintro value rfl state holds
  exact ⟨rfl, holds⟩

/-- A loop over meats: load, run, go on or stop. -/
inductive MeatLoop {α : Type} (untyped : Option Word → Simulation Word) :
    List Meat → Simulation α → Prop
  | done (value : α) : MeatLoop untyped [] (pure value)
  | stop (meats : List Meat) (failure : Failure) : MeatLoop untyped meats (throw failure)
  | next {meat : Meat} {meats : List Meat} {rest : List Ran → Simulation α}
      (rests : ∀ log, MeatLoop untyped meats (rest log)) :
      MeatLoop untyped (meat :: meats) (do
        loadMeat untyped meat
        let log ← runTx .transactCommit (.meat meat)
        rest log)

theorem meatLoop_runMeats (meats : List Meat) : MeatLoop unwrapOrDefault meats (runMeats meats) := by
  induction meats with
  | nil => exact .done ()
  | cons meat meats ih => exact .next fun _ => ih

theorem meatLoop_commitMeats (setup : Setup) (meats : List Meat) : ∀ goodMeats : List Meat,
    MeatLoop unwrap meats (setup.commitMeats meats goodMeats) := by
  induction meats with
  | nil => exact fun goodMeats => .done goodMeats
  | cons meat meats ih =>
    intro goodMeats
    refine .next fun log => ?_
    cases setup.backend.answer log with
    | evmError => exact .stop _ _
    | _ => exact ih _

section Meats

variable {α : Type} {untyped : Option Word → Simulation Word} {meats : List Meat}
  {program : Simulation α}

/-- Loading a meat writes the gas price, and the priority fee if it is of type 2. -/
theorem loadMeat_spec (reads : ReadsPrice untyped) (meat : Meat) (fee : Option Word)
    (log : List Ran → Prop) :
    Triple (fun state => state.tx.gasPriorityFee = fee ∧ log state.ran) (loadMeat untyped meat)
      (fun _ state => state.tx.gasPriorityFee = meat.carried fee
        ∧ state.tx.gasPrice = meat.ownGasPrice ∧ log state.ran)
      fun _ state => log state.ran := by
  let Loading (state : State) : Prop := state.tx.gasPriorityFee = fee ∧ log state.ran
  have failing : ∀ {β : Type} {part : Simulation β}, Keeps Loading part →
      Triple Loading part (fun _ => Loading) fun _ state => log state.ran := fun keeps =>
    keeps.weaken (fun _ holds => holds) (fun _ _ holds => holds) fun _ _ holds => holds.2
  refine triple_bind _ (failing ((computes_chainId meat).keeps _)) fun chainId => ?_
  refine triple_bind _ (failing ((computes_toU64 _).keeps _)) fun gas => ?_
  refine triple_bind _ (failing (keeps_modify fun _ holds => holds)) fun _ => ?_
  unfold Meat.carried Meat.ownGasPrice Meat.isType2
  split
  case h_1 kind =>
    simp only [kind]
    exact triple_modify fun state holds => ⟨holds.1, rfl, holds.2⟩
  case h_2 number nonzero kind =>
    have type2 : number ≠ 0 := nonzero
    simp only [kind, type2, ne_eq, not_false_eq_true, decide_true, if_true]
    exact triple_modify fun state holds => ⟨rfl, rfl, holds.2⟩
  case h_3 kind =>
    have price := (reads Loading meat.gasPrice).weaken (fun _ holds => holds) (fun _ _ holds => holds)
      fun _ _ holds => holds.2
    simp only [kind]
    refine triple_bind _ price fun price => triple_modify ?_
    rintro state ⟨rfl, sameFee, holds⟩
    exact ⟨sameFee, rfl, holds⟩

/-- With the condition, the meats have their own fees and leave no priority fee behind. -/
theorem MeatLoop.own (loop : MeatLoop untyped meats program) (reads : ReadsPrice untyped)
    (baseFee : Word) (fee : Option Word) (shielded : Shielded fee meats) (covered : Covered meats) :
    Triple (fun state => state.tx.gasPriorityFee = fee ∧ Own baseFee state.ran) program
      (fun _ state => state.tx.gasPriorityFee = none ∧ Own baseFee state.ran)
      fun _ state => Own baseFee state.ran := by
  induction loop generalizing fee with
  | done value =>
    rcases shielded with rfl | ⟨_, impossible, _⟩
    · exact triple_pure fun _ holds => holds
    · cases impossible
  | stop meats failure => exact triple_throw fun _ holds => holds.2
  | @next meat meats rest rests ih =>
    obtain ⟨_, later, coveredRest⟩ := covered_step.1 ⟨shielded, covered⟩
    refine triple_bind _ (loadMeat_spec reads meat fee (Own baseFee)) fun _ => ?_
    refine triple_bind _ ?_ fun log => ih log (meat.carried fee) later coveredRest
    rintro state ⟨sameFee, ownPrice, own⟩
    refine ⟨sameFee, own_append.2 ⟨own, own_singleton.2 ⟨?_, ownPrice⟩⟩⟩
    exact sameFee.trans (carried_eq_own.2 shielded)

/-- The gas price that the meats leave behind. -/
def lastGasPrice (price : Word) : List Meat → Word
  | [] => price
  | meat :: meats => lastGasPrice meat.ownGasPrice meats

/-- Without the condition, some meat has a fee that is not its own, or a priority fee is left behind. -/
theorem MeatLoop.covered (loop : MeatLoop untyped meats program) (reads : ReadsPrice untyped)
    (baseFee price : Word) (fee : Option Word) (log : List Ran) :
    Triple
      (fun state => state.tx.gasPriorityFee = fee ∧ state.tx.gasPrice = price ∧ log ⊆ state.ran)
      program
      (fun _ state => state.tx.gasPrice = lastGasPrice price meats ∧ log ⊆ state.ran
        ∧ (state.tx.gasPriorityFee = none → Own baseFee state.ran
          → Shielded fee meats ∧ Covered meats))
      fun _ _ => True := by
  induction loop generalizing fee price log with
  | done value =>
    refine triple_pure ?_
    rintro state ⟨sameFee, samePrice, before⟩
    exact ⟨samePrice, before, fun noFee _ => ⟨.inl (sameFee.symm.trans noFee), trivial⟩⟩
  | stop meats failure => exact triple_throw fun _ _ => trivial
  | @next meat meats rest rests ih =>
    have load : Triple (fun state : State => state.tx.gasPriorityFee = fee
        ∧ state.tx.gasPrice = price ∧ log ⊆ state.ran) (loadMeat untyped meat) _ fun _ _ => True :=
      (loadMeat_spec reads meat fee (log ⊆ ·)).weaken (fun _ holds => ⟨holds.1, holds.2.2⟩)
        (fun _ _ holds => holds) fun _ _ _ => trivial
    let Entered (entry : Ran) (state : State) : Prop :=
      (entry.role = .meat meat ∧ entry.tx.gasPriorityFee = meat.carried fee)
        ∧ state.tx.gasPriorityFee = meat.carried fee ∧ state.tx.gasPrice = meat.ownGasPrice
        ∧ entry :: log ⊆ state.ran
    refine triple_bind _ load fun _ => triple_bind (fun _ state => ∃ entry, Entered entry state)
      ?_ fun ran => triple_exists fun entry => ?_
    · rintro state ⟨sameFee, ownPrice, before⟩
      refine ⟨⟨.transactCommit, .meat meat, state.tx⟩, ⟨rfl, sameFee⟩, sameFee, ownPrice, ?_⟩
      exact List.cons_subset.2 ⟨List.mem_append_right _ (List.mem_singleton_self _),
        List.Subset.trans before (List.subset_append_left _ _)⟩
    · rintro state ⟨⟨role, entryFee⟩, entered⟩
      have ends := ih ran meat.ownGasPrice (meat.carried fee) (entry :: log) state entered
      revert ends
      cases rest ran state with
      | error _ _ => exact id
      | ok _ state' =>
        rintro ⟨lastPrice, after, back⟩
        refine ⟨lastPrice, (List.cons_subset.1 after).2, fun noFee own => ?_⟩
        have ownEntry := (own entry (List.cons_subset.1 after).1).1
        rw [role, entryFee] at ownEntry
        exact covered_step.2 ⟨carried_eq_own.1 ownEntry, back noFee own⟩

end Meats

/-! ### Without the condition -/

/-- If there is no priority fee and every transaction had its own fees, then `claim`. -/
def Pending (baseFee : Word) (claim : Prop) (state : State) : Prop :=
  state.tx.gasPriorityFee = none → Own baseFee state.ran → claim

/-- If every transaction had its own fees, then `claim`. -/
def Settled (baseFee : Word) (claim : Prop) (state : State) : Prop := Own baseFee state.ran → claim

section Back

variable {setup : Setup} {α : Type} {program : Simulation α} {claim : Prop} {baseFee price : Word}

theorem keeps_of_fenced {invariant : State → Prop}
    (fenced : ∀ fee log, Keeps (Fenced fee price log) program)
    (stable : ∀ state state', Fenced state.tx.gasPriorityFee price state.ran state' →
      invariant state → invariant state') : Keeps invariant program := by
  intro state holds
  have ends := fenced _ _ state (.refl state)
  revert ends
  cases program state with
  | ok _ state' => exact fun ends => stable state state' ends holds
  | error _ state' => exact fun ends => stable state state' ends holds

theorem keeps_of_quoted {invariant : State → Prop}
    (quoted : ∀ fee price log, Keeps (Quoted fee price log) program)
    (stable : ∀ state state', Quoted state.tx.gasPriorityFee state.tx.gasPrice state.ran state' →
      invariant state → invariant state') : Keeps invariant program := by
  intro state holds
  have ends := quoted _ _ _ state ⟨rfl, .refl state⟩
  revert ends
  cases program state with
  | ok _ state' => exact fun ends => stable state state' ends holds
  | error _ state' => exact fun ends => stable state state' ends holds

/-- A program that writes the gas price before it runs anything. -/
theorem triple_of_settles {before after failed : State → Prop}
    (settles : ∀ fee log, Triple (Fenced fee price log) program
      (fun _ => Quoted fee price log) fun _ => Fenced fee price log)
    (ends : ∀ state state', before state →
      Quoted state.tx.gasPriorityFee price state.ran state' → after state')
    (fails : ∀ state state', before state →
      Fenced state.tx.gasPriorityFee price state.ran state' → failed state') :
    Triple before program (fun _ => after) fun _ => failed := by
  intro state holds
  have run := settles _ _ state (.refl state)
  revert run
  cases program state with
  | ok _ state' => exact ends state state' holds
  | error _ state' => exact fails state state' holds

theorem Fenced.settled {fee : Option Word} {log : List Ran} {state : State}
    (fenced : Fenced fee price log state) (settled : Own baseFee log → claim) :
    Settled baseFee claim state := by
  obtain ⟨_, more, same, _⟩ := fenced
  intro own
  rw [same, own_append] at own
  exact settled own.1

theorem Fenced.pending {fee : Option Word} {log : List Ran} {state : State}
    (fenced : Fenced fee price log state) (pending : fee = none → Own baseFee log → claim) :
    Pending baseFee claim state := by
  obtain ⟨sameFee, more, same, _⟩ := fenced
  intro noFee own
  rw [same, own_append] at own
  exact pending (sameFee.symm.trans noFee) own.1

theorem pending_of_quoted (quoted : ∀ fee price log, Keeps (Quoted fee price log) program) :
    Keeps (Pending baseFee claim) program :=
  keeps_of_quoted quoted fun _ _ ends pending => ends.2.pending pending

theorem settled_of_fenced (fenced : ∀ fee log, Keeps (Fenced fee price log) program) :
    Keeps (Settled baseFee claim) program :=
  keeps_of_fenced fenced fun _ _ ends settled => ends.settled settled

theorem settled_of_quoted (quoted : ∀ fee price log, Keeps (Quoted fee price log) program) :
    Keeps (Settled baseFee claim) program :=
  keeps_of_quoted quoted fun _ _ ends settled => ends.2.settled settled

theorem clean_of_fenced (fenced : ∀ fee log, Keeps (Fenced fee baseFee log) program) :
    Keeps (fun state => state.tx.gasPriorityFee = none ∧ Own baseFee state.ran) program := by
  refine keeps_of_fenced fenced ?_
  rintro state state' ends ⟨noFee, own⟩
  rw [noFee] at ends
  exact ⟨ends.1, ends.own own⟩

/-- A plain transaction shows the priority fee that is there. -/
theorem settled_runTx (how : How) {role : Role} (plain : role.Plain) :
    Triple (Pending baseFee claim) (runTx how role) (fun _ => Settled baseFee claim)
      fun _ _ => True := by
  intro state pending own
  obtain ⟨before, now⟩ := own_append.1 own
  have noFee := (own_singleton.1 now).1
  refine pending (noFee.trans ?_) before
  cases role with
  | meat _ => exact plain.elim
  | _ => rfl

/-- And a quote shows the gas price that is there. -/
theorem pending_quote (how : How) :
    Triple (fun state => state.tx.gasPrice = price ∧ Pending baseFee claim state)
      (runTx how .quote) (fun _ => Pending baseFee (claim ∧ price = baseFee)) fun _ _ => True := by
  rintro state ⟨rfl, pending⟩ noFee own
  obtain ⟨before, now⟩ := own_append.1 own
  exact ⟨pending noFee before, (own_singleton.1 now).2⟩

/-- What the meats leave behind, if they start without a priority fee. -/
theorem MeatLoop.pending {untyped : Option Word → Simulation Word} {meats : List Meat}
    (loop : MeatLoop untyped meats program) (reads : ReadsPrice untyped) (baseFee price : Word) :
    Triple (fun state => state.tx.gasPriorityFee = none ∧ state.tx.gasPrice = price) program
      (fun _ state => state.tx.gasPrice = lastGasPrice price meats
        ∧ Pending baseFee (Covered meats) state)
      fun _ _ => True := by
  refine (loop.covered reads baseFee price none []).weaken ?_ ?_ fun _ _ holds => holds
  · exact fun _ holds => ⟨holds.1, holds.2, List.nil_subset _⟩
  · exact fun _ _ holds => ⟨holds.1, fun noFee own => (holds.2.2 noFee own).2⟩

end Back

/-! ### The revenue of one amount -/

section Evaluate

variable (setup : Setup) (frontrunIn : Word) (ingredients : RawIngredients)

theorem evaluateSandwichRevenue_own (covered : Covered ingredients.meats) :
    Triple (fun state => state.tx.gasPriorityFee = none ∧ Own setup.baseFee state.ran)
      (setup.evaluateSandwichRevenue frontrunIn ingredients)
      (fun _ state => Own setup.baseFee state.ran) fun _ state => Own setup.baseFee state.ran := by
  have swap : ∀ role failed halted reverted data, role.Plain → Keeps
      (fun state => state.tx.gasPriorityFee = none ∧ Own setup.baseFee state.ran)
      (setup.braindance role failed halted reverted data) := fun _ _ _ _ _ plain =>
    clean_of_fenced fun _ _ => fenced_braindance plain _ _ _ _
  refine triple_bind _ (((computes_buildSwapData _ _ _ _).keeps _).triple fun _ _ holds => holds.2) fun _ => ?_
  refine triple_bind _ ((swap .frontrun _ _ _ _ trivial).triple fun _ _ holds => holds.2) ?_
  rintro ⟨_, backrunIn⟩
  have meats := (meatLoop_runMeats ingredients.meats).own readsPrice_unwrapOrDefault setup.baseFee
    none (.inl rfl) covered
  refine triple_bind _ meats fun _ => ?_
  refine triple_bind _ (((computes_buildSwapData _ _ _ _).keeps _).triple fun _ _ holds => holds.2) fun _ => ?_
  refine triple_bind _ ((swap .backrun _ _ _ _ trivial).triple fun _ _ holds => holds.2) ?_
  rintro ⟨_, postSandwichBalance⟩
  exact triple_pure fun _ holds => holds.2

theorem settled_braindance {claim : Prop} {role : Role} (plain : role.Plain)
    (failed halted : SimulationError) (reverted : List Byte → SimulationError) (data : List Byte) :
    Triple (Pending setup.baseFee claim) (setup.braindance role failed halted reverted data)
      (fun _ => Settled setup.baseFee claim) fun _ _ => True := by
  refine triple_bind (fun _ => Pending setup.baseFee claim)
    (triple_modify fun _ pending => pending) fun _ => ?_
  refine triple_bind _ (settled_runTx _ plain) fun ran => ?_
  exact ((computes_decode _ _ _ _).keeps _).triple fun _ _ _ => trivial

theorem evaluateSandwichRevenue_covered :
    Triple (fun state => state.tx.gasPriorityFee = none)
      (setup.evaluateSandwichRevenue frontrunIn ingredients)
      (fun _ => Settled setup.baseFee (Covered ingredients.meats)) fun _ _ => True := by
  refine triple_bind _ (((computes_buildSwapData _ _ _ _).keeps _).triple fun _ _ _ => trivial) fun _ => ?_
  have frontrun : ∀ data, Keeps (fun state => state.tx.gasPriorityFee = none)
      (setup.braindance .frontrun .frontrunEvmError .frontrunHalted .frontrunReverted data) :=
    fun data => keeps_of_fenced
      (fun _ _ => fenced_braindance (show Role.frontrun.Plain from trivial) _ _ _ _)
      fun _ _ ends noFee => ends.1.trans noFee
  refine triple_bind _ ((frontrun _).triple fun _ _ _ => trivial) ?_
  rintro ⟨_, backrunIn⟩
  have meats := fun price => ((meatLoop_runMeats ingredients.meats).pending
    readsPrice_unwrapOrDefault setup.baseFee price).weaken (fun _ holds => holds)
    (fun _ _ holds => holds.2) fun _ _ holds => holds
  refine triple_bind _ ((triple_exists meats).weaken (fun _ noFee => ⟨_, noFee, rfl⟩)
    (fun _ _ holds => holds) fun _ _ holds => holds) fun _ => ?_
  refine triple_bind _ (((computes_buildSwapData _ _ _ _).keeps _).triple fun _ _ _ => trivial) fun _ => ?_
  refine triple_bind _ (settled_braindance setup (show Role.backrun.Plain from trivial) _ _ _ _) ?_
  rintro ⟨_, postSandwichBalance⟩
  exact triple_pure fun _ holds => holds

end Evaluate

/-! ### The sanity check -/

theorem lastGasPrice_eq {baseFee : Word} {meats : List Meat} : lastGasPrice baseFee meats = baseFee
    ↔ ∀ meat ∈ meats.getLast?, meat.ownGasPrice = baseFee := by
  have last : ∀ price, lastGasPrice price meats
      = (meats.getLast?.map Meat.ownGasPrice).getD price := by
    induction meats with
    | nil => exact fun _ => rfl
    | cons meat meats ih =>
      intro price
      rw [lastGasPrice, ih, List.getLast?_cons]
      cases meats.getLast? <;> rfl
  rw [last]
  cases meats.getLast? <;> simp

section SanityCheck

variable {setup : Setup}

/-- The frontruns keep the meats. -/
theorem frontrunLoop_meats (isMultiple : Bool) (frontrunIns : List Word)
    (multiIngredients : List RawIngredients) : ∀ (index : ℕ) (frontruns : Frontruns),
    Triple (fun _ => True) (setup.frontrunLoop isMultiple frontrunIns index multiIngredients frontruns)
      (fun after _ => after.ingredients.flatMap (·.meats)
        = frontruns.ingredients.flatMap (·.meats) ++ multiIngredients.flatMap (·.meats))
      fun _ _ => True := by
  induction multiIngredients with
  | nil => exact fun _ frontruns => triple_pure fun _ _ => by simp
  | cons ingredients rest ih =>
    intro index frontruns
    refine triple_bind (fun _ _ => True) (keeps_ofOption _ _) fun amount => triple_ite (fun _ => ?_)
      fun _ => ?_
    · refine (ih _ _).weaken (fun _ holds => holds) (fun after _ same => ?_) fun _ _ holds => holds
      simpa using same
    · refine triple_bind _ (frontrunSegment_next isMultiple index ingredients _ frontruns) fun next => ?_
      refine triple_fact ?_
      rintro ⟨frontrunOut, pool, bundle, rfl⟩
      refine (ih (index + 1) _).weaken (fun _ holds => holds) (fun after _ same => ?_)
        fun _ _ holds => holds
      simpa using same

/-- A payload shows the priority fee that is there. -/
theorem settled_sendPayload {claim : Prop} {role : Role} (plain : role.Plain)
    (failed halted notSafu : SimulationError) (reverted : List Byte → SimulationError)
    (clearAccessList : Bool) (bundle : Bundle) (count : ℕ) :
    Triple (Pending setup.baseFee claim)
      (setup.sendPayload role failed halted notSafu reverted clearAccessList bundle count)
      (fun _ => Settled setup.baseFee claim) fun _ _ => True := by
  refine triple_bind (fun _ => Pending setup.baseFee claim)
    (triple_modify fun _ pending => pending) fun _ => ?_
  refine triple_bind _ (settled_runTx _ plain) fun ran => ?_
  have again : ∀ accessList, Keeps (Settled setup.baseFee claim)
      (setup.sendWithAccessList role failed halted notSafu reverted accessList) := fun accessList =>
    settled_of_quoted fun _ _ _ => quoted_sendWithAccessList plain _ _ _ _ _
  cases setup.backend.answer ran with
  | evmError => exact triple_throw fun _ _ => trivial
  | _ => exact (again _).triple fun _ _ _ => trivial

/-- A quote of a pool shows the gas price that is there. -/
theorem pending_getAmountOut {claim : Prop} {price : Word} (pool : TargetPool) (amountIn : Word)
    (tokenIn tokenOut : Address) :
    Triple (fun state => state.tx.gasPrice = price ∧ Pending setup.baseFee claim state)
      (setup.getAmountOut pool amountIn tokenIn tokenOut)
      (fun _ => Pending setup.baseFee (claim ∧ price = setup.baseFee)) fun _ _ => True := by
  obtain ⟨change, rest, same, sameFee, samePrice, computes⟩ :=
    getAmountOut_shape setup pool amountIn tokenIn tokenOut
  rw [same]
  refine triple_bind (fun _ state => state.tx.gasPrice = price ∧ Pending setup.baseFee claim state)
    (triple_modify ?_) fun _ => triple_bind _ (triple_bind _ (pending_quote _) fun ran => ?_)
    fun output => ((computes output).keeps _).triple fun _ _ _ => trivial
  · rintro state ⟨atPrice, pending⟩
    exact ⟨(samePrice _).trans atPrice, fun noFee => pending ((sameFee _).symm.trans noFee)⟩
  · exact ((computes_output _).keeps _).triple fun _ _ _ => trivial

/-- The backruns show it, if there are any. -/
theorem pending_backrunLoop {claim : Prop} {price : Word} (isMultiple : Bool)
    (backrunIns : List Word) (multiIngredients : List RawIngredients) (index : ℕ) (bundle : Bundle) :
    Triple (fun state => state.tx.gasPrice = price ∧ Pending setup.baseFee claim state)
      (setup.backrunLoop isMultiple backrunIns index multiIngredients bundle)
      (fun _ => Pending setup.baseFee
        (claim ∧ (multiIngredients ≠ [] → price = setup.baseFee))) fun _ _ => True := by
  cases multiIngredients with
  | nil =>
    refine triple_pure ?_
    rintro state ⟨_, pending⟩ noFee own
    exact ⟨pending noFee own, fun nonempty => absurd rfl nonempty⟩
  | cons ingredients rest =>
    let Paying (state : State) : Prop :=
      state.tx.gasPrice = price ∧ Pending setup.baseFee claim state
    let Shown : State → Prop := Pending setup.baseFee (claim ∧ price = setup.baseFee)
    have segment : Triple Paying
        (setup.backrunSegment isMultiple backrunIns index ingredients bundle)
        (fun _ => Shown) fun _ _ => True := by
      refine triple_bind _ ((keeps_ofOption _ _).triple fun _ _ _ => trivial) fun _ => ?_
      refine triple_bind _ ((keeps_ofOption _ _).triple fun _ _ _ => trivial) fun _ => ?_
      refine triple_bind _ (pending_getAmountOut _ _ _ _) fun amountOut => ?_
      have built : ∀ segment, Keeps Shown (build segment) := fun _ => keeps_modify fun _ holds => holds
      exact (keeps_bind (built _) fun _ => keeps_bind ((computes_backrunPayload _ _ _ _ _ _).keeps _)
        fun _ => (computes_extend _ _).keeps _).triple fun _ _ _ => trivial
    refine triple_bind _ segment fun next => ?_
    have others : Keeps Shown (setup.backrunLoop isMultiple backrunIns (index + 1) rest next) :=
      pending_of_quoted fun _ _ _ => quoted_backrunLoop _ _ _ _ _
    refine others.weaken (fun _ holds => holds) ?_ fun _ _ _ => trivial
    exact fun _ state shown noFee own => ⟨(shown noFee own).1, fun _ => (shown noFee own).2⟩

/-- No priority fee, and every transaction had its own fees. -/
def Clean (baseFee : Word) (state : State) : Prop :=
  state.tx.gasPriorityFee = none ∧ Own baseFee state.ran

theorem clean_sendPayload {role : Role} (plain : role.Plain)
    (failed halted notSafu : SimulationError) (reverted : List Byte → SimulationError)
    (clearAccessList : Bool) (bundle : Bundle) (count : ℕ) :
    Triple (Clean setup.baseFee)
      (setup.sendPayload role failed halted notSafu reverted clearAccessList bundle count)
      (fun _ state => state.tx.gasPrice = setup.baseFee ∧ Clean setup.baseFee state)
      fun _ => Clean setup.baseFee := by
  refine triple_of_settles (fun _ _ => quoted_sendPayload plain _ _ _ _ _ _ _) ?_ ?_
  · rintro state state' ⟨noFee, own⟩ ends
    rw [noFee] at ends
    exact ⟨ends.1, ends.2.1, ends.2.own own⟩
  · rintro state state' ⟨noFee, own⟩ ends
    rw [noFee] at ends
    exact ⟨ends.1, ends.own own⟩

/-- The quotes of the backruns have their own fees if the gas price is the base fee. -/
theorem clean_backrunLoop (isMultiple : Bool) (backrunIns : List Word)
    (multiIngredients : List RawIngredients) (index : ℕ) (bundle : Bundle) :
    Keeps (fun state => state.tx.gasPrice = setup.baseFee ∧ Clean setup.baseFee state)
      (setup.backrunLoop isMultiple backrunIns index multiIngredients bundle) := by
  refine keeps_of_quoted (fun _ _ _ => quoted_backrunLoop _ _ _ _ _) ?_
  rintro state state' ends ⟨atPrice, noFee, own⟩
  rw [atPrice, noFee] at ends
  exact ⟨ends.1, ends.2.1, ends.2.own own⟩

variable (sandwichStartBalance : Word) (frontrunIns : List Word)
  (multiIngredients : List RawIngredients)

theorem sanityCheck_own (covered : Covered (multiIngredients.flatMap (·.meats)))
    (last : lastGasPrice setup.baseFee (multiIngredients.flatMap (·.meats)) = setup.baseFee) :
    Triple (Clean setup.baseFee)
      (setup.sanityCheck sandwichStartBalance frontrunIns multiIngredients)
      (fun _ state => Own setup.baseFee state.ran) fun _ state => Own setup.baseFee state.ran := by
  have loop : Keeps (Clean setup.baseFee) (setup.frontrunLoop (decide (1 < multiIngredients.length))
      frontrunIns 0 multiIngredients ⟨⟨[], 0⟩, [], []⟩) :=
    clean_of_fenced fun _ _ => fenced_frontrunLoop _ _ _ _ _
  have frontruns := loop.and (@frontrunLoop_meats setup
    (decide (1 < multiIngredients.length)) frontrunIns multiIngredients 0 ⟨⟨[], 0⟩, [], []⟩)
  refine triple_bind (fun frontruns state => frontruns.ingredients.flatMap (·.meats)
      = multiIngredients.flatMap (·.meats) ∧ Clean setup.baseFee state)
    (frontruns.weaken (fun _ holds => ⟨holds, trivial⟩) (fun _ _ holds => ⟨holds.2, holds.1⟩)
      fun _ _ holds => holds.1.2) fun frontruns => triple_fact fun sameMeats => ?_
  refine triple_bind _ ((clean_sendPayload (show Role.frontrun.Plain from trivial) _ _ _ _ _ _ _).weaken
    (fun _ holds => holds) (fun _ _ holds => holds) fun _ _ holds => holds.2) ?_
  rintro ⟨frontrunGasUsed, frontrunAccessList⟩
  rw [← sameMeats] at covered last
  have meatLoop := meatLoop_commitMeats setup (frontruns.ingredients.flatMap (·.meats)) []
  have meats := (meatLoop.own readsPrice_unwrap setup.baseFee none (.inl rfl) covered).and
    (meatLoop.pending readsPrice_unwrap setup.baseFee setup.baseFee)
  refine triple_bind (fun _ state => state.tx.gasPrice = setup.baseFee ∧ Clean setup.baseFee state)
    (meats.weaken (fun _ holds => ⟨holds.2, holds.2.1, holds.1⟩)
      (fun _ _ holds => ⟨holds.2.1.trans last, holds.1⟩) fun _ _ holds => holds.1) fun goodMeats => ?_
  refine triple_ite (fun _ => ?_) fun _ => ?_
  · exact triple_bind (fun _ _ => False) (triple_throw fun _ holds => holds.2.2) fun _ _ => False.elim
  refine triple_bind _ ((clean_backrunLoop _ _ _ _ _).triple fun _ _ holds => holds.2.2) fun backrun => ?_
  refine triple_bind _ ((clean_sendPayload (show Role.backrun.Plain from trivial) _ _ _ _ _ _ _).weaken
    (fun _ holds => holds.2) (fun _ _ holds => holds.2) fun _ _ holds => holds.2) ?_
  rintro ⟨backrunGasUsed, backrunAccessList⟩
  have balance : Keeps (Clean setup.baseFee)
      (setup.getBalanceOfEvm TxBuilder.getWethAddress setup.sandwichContract) :=
    clean_of_fenced fun _ _ => fenced_getBalanceOfEvm _ _
  exact triple_bind _ (balance.triple fun _ _ holds => holds.2) fun _ =>
    triple_pure fun _ holds => holds.2

theorem sanityCheck_covered :
    Triple (fun state => state.tx.gasPriorityFee = none)
      (setup.sanityCheck sandwichStartBalance frontrunIns multiIngredients)
      (fun _ => Settled setup.baseFee (Covered (multiIngredients.flatMap (·.meats))
        ∧ lastGasPrice setup.baseFee (multiIngredients.flatMap (·.meats)) = setup.baseFee))
      fun _ _ => True := by
  let NoFee (state : State) : Prop := state.tx.gasPriorityFee = none
  have loop : Keeps NoFee (setup.frontrunLoop (decide (1 < multiIngredients.length))
      frontrunIns 0 multiIngredients ⟨⟨[], 0⟩, [], []⟩) :=
    keeps_of_fenced (fun _ _ => fenced_frontrunLoop _ _ _ _ _) fun _ _ ends noFee => ends.1.trans noFee
  have frontruns := loop.and (@frontrunLoop_meats setup
    (decide (1 < multiIngredients.length)) frontrunIns multiIngredients 0 ⟨⟨[], 0⟩, [], []⟩)
  refine triple_bind (fun frontruns state => frontruns.ingredients.flatMap (·.meats)
      = multiIngredients.flatMap (·.meats) ∧ NoFee state)
    (frontruns.weaken (fun _ holds => ⟨holds, trivial⟩) (fun _ _ holds => ⟨holds.2, holds.1⟩)
      fun _ _ _ => trivial) fun frontruns => triple_fact fun sameMeats => ?_
  have frontrunSent : Triple NoFee (setup.sendPayload .frontrun .frontrunEvmError .frontrunHalted
      .frontrunNotSafu .frontrunReverted true
      (frontruns.bundle.finish (decide (1 < multiIngredients.length))) multiIngredients.length)
      (fun _ state => NoFee state ∧ state.tx.gasPrice = setup.baseFee) fun _ _ => True := by
    refine triple_of_settles (fun _ _ => quoted_sendPayload (show Role.frontrun.Plain from trivial)
      _ _ _ _ _ _ _) ?_ fun _ _ _ _ => trivial
    exact fun _ _ noFee ends => ⟨ends.2.1.trans noFee, ends.1⟩
  refine triple_bind _ frontrunSent ?_
  rintro ⟨frontrunGasUsed, frontrunAccessList⟩
  have meats := (meatLoop_commitMeats setup (frontruns.ingredients.flatMap (·.meats)) []).pending
    readsPrice_unwrap setup.baseFee setup.baseFee
  refine triple_bind _ meats fun goodMeats => ?_
  refine triple_ite (fun _ => ?_) fun _ => ?_
  · exact triple_bind (fun _ _ => False) (triple_throw fun _ _ => trivial) fun _ _ => False.elim
  refine triple_bind _ (pending_backrunLoop _ _ _ _ _) fun backrun => ?_
  refine triple_bind _ (settled_sendPayload (show Role.backrun.Plain from trivial) _ _ _ _ _ _ _) ?_
  rintro ⟨backrunGasUsed, backrunAccessList⟩
  refine triple_bind _ ((settled_of_fenced fun _ _ => fenced_getBalanceOfEvm _ _).triple
    fun _ _ _ => trivial) fun _ => triple_pure fun _ settled own => ?_
  obtain ⟨covered, shown⟩ := settled own
  rw [← sameMeats]
  refine ⟨covered, ?_⟩
  by_cases none : frontruns.ingredients = []
  · rw [none]; rfl
  · exact shown none

end SanityCheck

/-! ### When every transaction has its own fees -/

/-- Both simulators, from a new EVM: with the condition every transaction of every run, failed or not,
has its own fees, and without it no run succeeds with that. -/
theorem fees_own_iff (setup : Setup) :
    (∀ frontrunIn ingredients,
      (Covered ingredients.meats → Own setup.baseFee
        (final (setup.evaluateSandwichRevenue frontrunIn ingredients .initial)).ran)
      ∧ ∀ revenue state, setup.evaluateSandwichRevenue frontrunIn ingredients .initial = .ok revenue state →
        (Own setup.baseFee state.ran ↔ Covered ingredients.meats))
    ∧ ∀ sandwichStartBalance frontrunIns multiIngredients,
      (Covered (multiIngredients.flatMap (·.meats))
        ∧ (∀ meat ∈ (multiIngredients.flatMap (·.meats)).getLast?, meat.ownGasPrice = setup.baseFee) →
        Own setup.baseFee
          (final (setup.sanityCheck sandwichStartBalance frontrunIns multiIngredients .initial)).ran)
      ∧ ∀ recipe state,
        setup.sanityCheck sandwichStartBalance frontrunIns multiIngredients .initial = .ok recipe state →
        (Own setup.baseFee state.ran ↔ Covered (multiIngredients.flatMap (·.meats))
          ∧ ∀ meat ∈ (multiIngredients.flatMap (·.meats)).getLast?,
            meat.ownGasPrice = setup.baseFee) := by
  have start : Clean setup.baseFee .initial := ⟨rfl, List.forall_mem_nil _⟩
  refine ⟨fun frontrunIn ingredients => ⟨fun covered => ?_, fun revenue state run => ⟨fun own => ?_,
    fun covered => ?_⟩⟩, fun balance frontrunIns multiIngredients => ⟨?_, fun recipe state run =>
    ⟨fun own => ?_, ?_⟩⟩⟩
  · exact (evaluateSandwichRevenue_own setup frontrunIn ingredients covered).of_final start
  · exact (evaluateSandwichRevenue_covered setup frontrunIn ingredients).of_ok rfl run own
  · exact (evaluateSandwichRevenue_own setup frontrunIn ingredients covered).of_ok start run
  · rintro ⟨covered, last⟩
    exact (sanityCheck_own balance frontrunIns multiIngredients covered (lastGasPrice_eq.2 last)).of_final
      start
  · rw [← lastGasPrice_eq]
    exact (sanityCheck_covered balance frontrunIns multiIngredients).of_ok rfl run own
  · rintro ⟨covered, last⟩
    exact (sanityCheck_own balance frontrunIns multiIngredients covered (lastGasPrice_eq.2 last)).of_ok
      start run

/-- An EVM in which everything succeeds and returns 2^40, at a base fee of 30 gwei. -/
def lenientSetup : Setup where
  backend := ⟨fun _ => .success (encodeWords [2 ^ 40, 2 ^ 40, 2 ^ 40]) 21000, fun _ => [], fun _ => true⟩
  nextBlock := ⟨17000000, 30000000000⟩
  keccak := fun _ => 0
  searcher := 1
  sandwichContract := 2

/-- One opportunity on a V3 pool of USDC. -/
def usdcIngredients (meats : List Meat) : RawIngredients where
  startendToken := TxBuilder.getWethAddress
  intermediaryToken := 0xA0b86991c6218b36c1d19D4a2e9Eb0cE3606eB48
  meats
  targetPool := ⟨⟨3, 0xA0b86991c6218b36c1d19D4a2e9Eb0cE3606eB48, TxBuilder.getWethAddress, 500⟩,
    .uniswapV3, false⟩

/-- A meat without a type, at the base fee. -/
def legacyMeat : Meat where
  hash := 1
  fromAddress := 4
  toAddress := some 5
  input := []
  value := 0
  gas := 100000
  chainId := some 1
  transactionType := none
  gasPrice := some 30000000000
  maxFeePerGas := none
  maxPriorityFeePerGas := none

/-- A meat of type 2 with a priority fee of 2 gwei. -/
def type2Meat : Meat :=
  { legacyMeat with
    transactionType := some 2, gasPrice := none, maxFeePerGas := some 40000000000
    maxPriorityFeePerGas := some 2000000000 }

/-- A run that succeeds. -/
def Succeeds {α : Type} : EStateM.Result Failure State α → Bool
  | .ok _ _ => true
  | .error _ _ => false

theorem fees_own_iff_usdc :
    Own lenientSetup.baseFee (final (lenientSetup.evaluateSandwichRevenue 1000000000000000000
      (usdcIngredients [legacyMeat]) .initial)).ran
    ∧ Own lenientSetup.baseFee (final (lenientSetup.sanityCheck 0 [1000000000000000000]
      [usdcIngredients [legacyMeat]] .initial)).ran
    ∧ (∃ revenue state, lenientSetup.evaluateSandwichRevenue 1000000000000000000
      (usdcIngredients [type2Meat]) .initial = .ok revenue state ∧ ¬ Own lenientSetup.baseFee state.ran)
    ∧ ∃ recipe state, lenientSetup.sanityCheck 0 [1000000000000000000]
      [usdcIngredients [type2Meat]] .initial = .ok recipe state
        ∧ ¬ Own lenientSetup.baseFee state.ran := by
  have noType2 : Covered [legacyMeat] := ⟨fun type2 => (nomatch type2), trivial⟩
  have uncovered : ¬ Covered [type2Meat] := by
    rintro ⟨shielded, _⟩
    rcases shielded rfl with noFee | ⟨_, next, _⟩
    · cases noFee
    · cases next
  obtain ⟨evaluate, sanity⟩ := fees_own_iff lenientSetup
  refine ⟨(evaluate _ _).1 noType2, (sanity _ _ _).1 ⟨noType2, ?_⟩, ?_, ?_⟩
  · rintro meat last
    cases last
    rfl
  · have succeeds : Succeeds (lenientSetup.evaluateSandwichRevenue 1000000000000000000
        (usdcIngredients [type2Meat]) .initial) = true := by decide +kernel
    cases run : lenientSetup.evaluateSandwichRevenue 1000000000000000000
        (usdcIngredients [type2Meat]) .initial with
    | ok revenue state =>
      exact ⟨revenue, state, rfl, fun own => uncovered (((evaluate _ _).2 _ _ run).1 own)⟩
    | error _ _ => rw [run] at succeeds; cases succeeds
  · have succeeds : Succeeds (lenientSetup.sanityCheck 0 [1000000000000000000]
        [usdcIngredients [type2Meat]] .initial) = true := by decide +kernel
    cases run : lenientSetup.sanityCheck 0 [1000000000000000000]
        [usdcIngredients [type2Meat]] .initial with
    | ok recipe state =>
      exact ⟨recipe, state, rfl, fun own => uncovered (((sanity _ _ _).2 _ _ run).1 own).1⟩
    | error _ _ => rw [run] at succeeds; cases succeeds

/-- The backrun after one meat of type 2 runs with the priority fee of that meat, in both simulators. -/
theorem fees_not_own_type2 :
    ¬ Own lenientSetup.baseFee (final (lenientSetup.evaluateSandwichRevenue 1000000000000000000
      (usdcIngredients [type2Meat]) .initial)).ran
    ∧ ¬ Own lenientSetup.baseFee (final (lenientSetup.sanityCheck 0 [1000000000000000000]
      [usdcIngredients [type2Meat]] .initial)).ran := by
  decide +kernel

end Sando.Simulate
