/-
The meats that a sanity check executes and the meats of its recipe.

`commitMeats` runs the meats of all ingredients one after the other and keeps those that succeed. A meat
that several ingredients hold is run for each of them. Only afterwards `sortMeats` sorts by hash and
removes repetitions, so that the recipe lists the meats in another order than the simulation ran them,
unless their hashes already increase.
-/

import Sando.Simulate.Fees

namespace Sando.Simulate

open Sando.Evm Sando.Program

/-! ### Executions -/

/-- A transaction that succeeded. -/
def Answer.isSuccess : Answer → Bool
  | .success _ _ => true
  | _ => false

/-- The meat of a transaction, if it is one. -/
def Role.meat? : Role → Option Meat
  | .meat victim => some victim
  | _ => none

/-- The meats that ran after `past`, with their success. -/
def executionsAfter (backend : Backend) : List Ran → List Ran → List (Meat × Bool)
  | _, [] => []
  | past, ran :: rest =>
    (ran.role.meat?.map fun meat => (meat, (backend.answer (past ++ [ran])).isSuccess)).toList
      ++ executionsAfter backend (past ++ [ran]) rest

/-- The meats that ran, in order, with their success. -/
def executions (backend : Backend) (log : List Ran) : List (Meat × Bool) :=
  executionsAfter backend [] log

/-- The meats that succeeded, in order. -/
def succeeded (executed : List (Meat × Bool)) : List Meat :=
  (executed.filter (·.2)).map (·.1)

section Executions

variable {backend : Backend}

theorem executionsAfter_append (log more : List Ran) : ∀ past,
    executionsAfter backend past (log ++ more)
      = executionsAfter backend past log ++ executionsAfter backend (past ++ log) more := by
  induction log with
  | nil => exact fun past => by rw [List.append_nil]; rfl
  | cons ran rest ih =>
    intro past
    rw [List.cons_append, executionsAfter, executionsAfter, ih, List.append_assoc, List.append_assoc,
      List.singleton_append]

theorem executions_append (log more : List Ran) : executions backend (log ++ more)
    = executions backend log ++ executionsAfter backend log more :=
  executionsAfter_append log more []

theorem executionsAfter_plain {more : List Ran} (plain : ∀ ran ∈ more, ran.role.Plain) :
    ∀ past, executionsAfter backend past more = [] := by
  induction more with
  | nil => exact fun _ => rfl
  | cons ran rest ih =>
    intro past
    rw [executionsAfter, ih fun other there => plain other (.tail _ there)]
    have here := plain ran List.mem_cons_self
    cases role : ran.role with
    | meat _ => rw [role] at here; exact here.elim
    | _ => rfl

/-- Plain transactions are no executions of meats. -/
theorem Fenced.executions {fee : Option Word} {price : Word} {log : List Ran} {state : State}
    (fenced : Fenced fee price log state) :
    executions backend state.ran = executions backend log := by
  obtain ⟨_, more, same, plain⟩ := fenced
  rw [same, executions_append, executionsAfter_plain fun ran there => (plain ran there).1,
    List.append_nil]

theorem succeeded_append (executed more : List (Meat × Bool)) :
    succeeded (executed ++ more) = succeeded executed ++ succeeded more := by
  unfold succeeded
  rw [List.filter_append, List.map_append]

end Executions

/-! ### Sorting -/

/-- Sorting by hash and removing repetitions changes nothing if and only if the meats are sorted, with
no repetition next to itself. -/
theorem sortMeats_eq_self_iff {meats : List Meat} : sortMeats meats = meats
    ↔ meats.Pairwise (fun first second => first.hash ≤ second.hash) ∧ meats.IsChain (· ≠ ·) := by
  constructor
  · intro same
    have all : sortMeats meats = meats.insertionSort fun first second => first.hash ≤ second.hash := by
      refine (List.destutter_sublist _ _).eq_of_length ?_
      rw [show List.destutter _ _ = sortMeats meats from rfl, same, List.length_insertionSort]
    rw [same] at all
    constructor
    · rw [all]
      have : Std.Total fun first second : Meat => first.hash ≤ second.hash :=
        ⟨fun first second => BitVec.le_total first.hash second.hash⟩
      have : IsTrans Meat fun first second => first.hash ≤ second.hash :=
        ⟨fun _ _ _ one two => BitVec.le_trans one two⟩
      exact List.pairwise_insertionSort _ _
    · have chain := List.isChain_destutter (· ≠ ·)
        (meats.insertionSort fun first second => first.hash ≤ second.hash)
      rwa [show List.destutter _ _ = sortMeats meats from rfl, same] at chain
  · rintro ⟨sorted, chain⟩
    unfold sortMeats
    rw [sorted.insertionSort_eq]
    exact (List.destutter_eq_self_iff _ _).mpr chain

/-! ### The simulation -/

section SanityCheck

variable {setup : Setup}

/-- The executions so far. -/
def Executed (setup : Setup) (executed : List (Meat × Bool)) (state : State) : Prop :=
  executions setup.backend state.ran = executed

theorem executed_of_fenced {α : Type} {program : Simulation α} {price : Word}
    {executed : List (Meat × Bool)} (fenced : ∀ fee log, Keeps (Fenced fee price log) program) :
    Keeps (Executed setup executed) program :=
  keeps_of_fenced fenced fun _ _ ends before => ends.executions.trans before

theorem executed_of_quoted {α : Type} {program : Simulation α} {executed : List (Meat × Bool)}
    (quoted : ∀ fee price log, Keeps (Quoted fee price log) program) :
    Keeps (Executed setup executed) program :=
  keeps_of_quoted quoted fun _ _ ends before => ends.2.executions.trans before

theorem executed_sendPayload {role : Role} (plain : role.Plain) (executed : List (Meat × Bool))
    (failed halted notSafu : SimulationError) (reverted : List Byte → SimulationError)
    (clearAccessList : Bool) (bundle : Bundle) (count : ℕ) : Keeps (Executed setup executed)
      (setup.sendPayload role failed halted notSafu reverted clearAccessList bundle count) :=
  executed_of_fenced fun _ _ => keeps_fenced (quoted_sendPayload plain _ _ _ _ _ _ _)

/-- The meats are executed in order, and those that succeed are kept in order. -/
theorem commitMeats_executed (meats : List Meat) :
    ∀ (goodMeats : List Meat) (executed : List (Meat × Bool)),
    Triple (Executed setup executed) (setup.commitMeats meats goodMeats)
      (fun kept state => ∃ more, more.map (·.1) = meats ∧ kept = goodMeats ++ succeeded more
        ∧ Executed setup (executed ++ more) state) fun _ _ => True := by
  induction meats with
  | nil =>
    refine fun goodMeats executed => triple_pure fun state same => ?_
    exact ⟨[], rfl, (List.append_nil _).symm, by rwa [List.append_nil]⟩
  | cons meat meats ih =>
    intro goodMeats executed
    have load : Triple (Executed setup executed) (loadMeat unwrap meat)
        (fun _ => Executed setup executed) fun _ _ => True := by
      intro state before
      have ends := loadMeat_spec readsPrice_unwrap meat state.tx.gasPriorityFee
        (fun ran => executions setup.backend ran = executed) state ⟨rfl, before⟩
      revert ends
      cases loadMeat unwrap meat state with
      | ok _ _ => exact fun ends => ends.2.2
      | error _ _ => exact fun _ => trivial
    refine triple_bind _ load fun _ => ?_
    let Next (log : List Ran) (state : State) : Prop :=
      Executed setup (executed ++ [(meat, (setup.backend.answer log).isSuccess)]) state
    refine triple_bind Next ?_ fun log => ?_
    · intro state before
      change executions setup.backend (state.ran ++ [⟨.transactCommit, .meat meat, state.tx⟩]) = _
      rw [executions_append, show executions setup.backend state.ran = executed from before]
      rfl
    have after : ∀ kept success, (setup.backend.answer log).isSuccess = success →
        kept = goodMeats ++ succeeded [(meat, success)] →
        Triple (Next log) (setup.commitMeats meats kept)
          (fun kept state => ∃ more, more.map (·.1) = meat :: meats
            ∧ kept = goodMeats ++ succeeded more ∧ Executed setup (executed ++ more) state)
          fun _ _ => True := by
      rintro kept success isSuccess rfl
      refine (ih _ (executed ++ [(meat, success)])).weaken ?_ ?_ fun _ _ holds => holds
      · intro state before
        rw [← isSuccess]
        exact before
      · rintro final state ⟨more, names, rfl, same⟩
        refine ⟨(meat, success) :: more, congrArg (meat :: ·) names, ?_, ?_⟩
        · rw [List.append_assoc, ← succeeded_append, List.singleton_append]
        · rwa [List.append_assoc] at same
    cases answer : setup.backend.answer log with
    | evmError => exact triple_throw fun _ _ => trivial
    | success _ _ => exact after _ true (by rw [answer]; rfl) rfl
    | revert _ _ => exact after _ false (by rw [answer]; rfl) (List.append_nil _).symm
    | halt _ => exact after _ false (by rw [answer]; rfl) (List.append_nil _).symm

variable (sandwichStartBalance : Word) (frontrunIns : List Word)
  (multiIngredients : List RawIngredients)

/-- A sanity check executes the meats of all ingredients in order, and its recipe has those that
succeeded, sorted. -/
theorem sanityCheck_executed : Triple (Executed setup [])
    (setup.sanityCheck sandwichStartBalance frontrunIns multiIngredients)
    (fun recipe state => (executions setup.backend state.ran).map (·.1)
        = multiIngredients.flatMap (·.meats)
      ∧ recipe.meats = sortMeats (succeeded (executions setup.backend state.ran)))
    fun _ _ => True := by
  have loop : Keeps (Executed setup []) (setup.frontrunLoop (decide (1 < multiIngredients.length))
      frontrunIns 0 multiIngredients ⟨⟨[], 0⟩, [], []⟩) :=
    executed_of_fenced fun _ _ => fenced_frontrunLoop _ _ _ _ _
  have frontruns := loop.and (@frontrunLoop_meats setup
    (decide (1 < multiIngredients.length)) frontrunIns multiIngredients 0 ⟨⟨[], 0⟩, [], []⟩)
  refine triple_bind (fun frontruns state => frontruns.ingredients.flatMap (·.meats)
      = multiIngredients.flatMap (·.meats) ∧ Executed setup [] state)
    (frontruns.weaken (fun _ holds => ⟨holds, trivial⟩) (fun _ _ holds => ⟨holds.2, holds.1⟩)
      fun _ _ _ => trivial) fun frontruns => triple_fact fun sameMeats => ?_
  refine triple_bind _ ((executed_sendPayload (show Role.frontrun.Plain from trivial) _ _ _ _ _ _ _ _).triple
    fun _ _ _ => trivial) ?_
  rintro ⟨frontrunGasUsed, frontrunAccessList⟩
  refine triple_bind _ (commitMeats_executed _ [] []) fun goodMeats => triple_exists fun executed => ?_
  refine triple_fact fun names => triple_fact fun kept => ?_
  rw [List.nil_append] at kept ⊢
  have still : ∀ {α : Type} {program : Simulation α}, Keeps (Executed setup executed) program →
      Triple (Executed setup executed) program (fun _ => Executed setup executed) fun _ _ => True :=
    fun keeps => keeps.triple fun _ _ _ => trivial
  refine triple_ite (fun _ => ?_) fun _ => ?_
  · exact triple_bind (fun _ _ => False) (triple_throw fun _ _ => trivial) fun _ _ => False.elim
  refine triple_bind _ (still (executed_of_quoted fun _ _ _ => quoted_backrunLoop _ _ _ _ _)) fun backrun => ?_
  refine triple_bind _ (still (executed_sendPayload (show Role.backrun.Plain from trivial)
    _ _ _ _ _ _ _ _)) ?_
  rintro ⟨backrunGasUsed, backrunAccessList⟩
  refine triple_bind _ (still (executed_of_fenced fun _ _ => fenced_getBalanceOfEvm _ _)) fun balance => ?_
  refine triple_pure fun state same => ?_
  rw [show executions setup.backend state.ran = executed from same]
  exact ⟨names.trans sameMeats, congrArg sortMeats kept⟩

end SanityCheck

end Sando.Simulate
