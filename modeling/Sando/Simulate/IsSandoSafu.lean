/-
The salmonella inspector.

A poisoned token behaves differently when it is simulated. `SalmonellaInspectoooor` looks at every opcode
that is executed: it collects those that tell a simulation from the chain and those without a name, and
it counts the GAS opcodes and the calls. More GAS than calls would mean that a contract checks how much
gas is used, but the verdict looks at the collected opcodes only (`isSandoSafu_eq_safu`), so that it is
the right one on the executions where the counters do not matter (`verdict_reflects_iff`). The table of
the opcodes' names is a parameter.
-/

import Sando.Simulate.MakeSandwich

namespace Sando.Simulate

open Sando.Evm Sando.Program

/-! ### Opcodes -/

namespace Opcode

def balance : Byte := 0x31

def gasprice : Byte := 0x3a

def extcodehash : Byte := 0x3f

def blockhash : Byte := 0x40

def coinbase : Byte := 0x41

def difficulty : Byte := 0x44

def gaslimit : Byte := 0x45

def selfbalance : Byte := 0x47

def basefee : Byte := 0x48

def gas : Byte := 0x5a

def create : Byte := 0xf0

def call : Byte := 0xf1

def delegatecall : Byte := 0xf4

def create2 : Byte := 0xf5

def staticcall : Byte := 0xfa

def selfdestruct : Byte := 0xff

end Opcode

/-- An opcode with its name. -/
structure OpCode where
  name : String
  code : Byte
  deriving DecidableEq

/-- A new opcode from its numeric code. -/
def OpCode.newFromCode (opcodeJumpmap : Byte → Option String) (code : Byte) : OpCode where
  name := (opcodeJumpmap code).getD "UNKNOWN"
  code

inductive IsSandoSafu
  | safu
  | notSafu (opcodes : List OpCode)
  deriving DecidableEq

/-! ### The inspector -/

structure SalmonellaInspectoooor where
  suspiciousOpcodes : List OpCode
  gasOpcodeCounter : ℕ
  callOpcodeCounter : ℕ

/-- The opcodes that can be used to divert the execution when it is run locally. -/
def suspiciousSet : List Byte := [
  Opcode.balance, Opcode.gasprice, Opcode.extcodehash, Opcode.blockhash, Opcode.coinbase,
  Opcode.difficulty, Opcode.gaslimit, Opcode.selfbalance, Opcode.basefee, Opcode.create,
  Opcode.create2, Opcode.selfdestruct]

/-- The opcodes that count as a call. -/
def callSet : List Byte := [Opcode.call, Opcode.delegatecall, Opcode.staticcall]

namespace SalmonellaInspectoooor

def new : SalmonellaInspectoooor := ⟨[], 0, 0⟩

variable (inspector : SalmonellaInspectoooor)

def addSuspicious (opcode : OpCode) : SalmonellaInspectoooor :=
  { inspector with suspiciousOpcodes := inspector.suspiciousOpcodes ++ [opcode] }

/-- Look at an opcode that is executed. -/
def step (opcodeJumpmap : Byte → Option String) (currentOpcode : Byte) : SalmonellaInspectoooor :=
  let executedOpcode := OpCode.newFromCode opcodeJumpmap currentOpcode
  let inspector :=
    if executedOpcode.code ∈ suspiciousSet then inspector.addSuspicious executedOpcode
    -- add one to call counter
    else if executedOpcode.code ∈ callSet then
      { inspector with callOpcodeCounter := inspector.callOpcodeCounter + 1 }
    -- add one to gas opcode counter
    else if executedOpcode.code = Opcode.gas then
      { inspector with gasOpcodeCounter := inspector.gasOpcodeCounter + 1 }
    -- this opcode is safu
    else inspector
  if executedOpcode.name = "UNKNOWN" then inspector.addSuspicious executedOpcode else inspector

/-- Checks if an opportunity is safu. The opcodes that are reported and those that decide are not the
same list. -/
def isSandoSafu (opcodeJumpmap : Byte → Option String) : IsSandoSafu :=
  -- if more gas opcodes used then call then we know that the contract is checking gas_used
  let suspiciousOpcodes :=
    if inspector.gasOpcodeCounter < inspector.callOpcodeCounter then
      OpCode.newFromCode opcodeJumpmap Opcode.gas :: inspector.suspiciousOpcodes
    else inspector.suspiciousOpcodes
  if inspector.suspiciousOpcodes.length = 0 then .safu else .notSafu suspiciousOpcodes

end SalmonellaInspectoooor

/-- The verdict on the opcodes of an execution. -/
def verdict (opcodeJumpmap : Byte → Option String) (trace : List Byte) : IsSandoSafu :=
  (trace.foldl (·.step opcodeJumpmap ·) SalmonellaInspectoooor.new).isSandoSafu opcodeJumpmap

/-! ### What the inspector sees -/

section Trace

variable {opcodeJumpmap : Byte → Option String} {code : Byte} {trace : List Byte}

/-- What one opcode adds to the collected ones. -/
def flagged (opcodeJumpmap : Byte → Option String) (code : Byte) : List OpCode :=
  (if code ∈ suspiciousSet then [OpCode.newFromCode opcodeJumpmap code] else [])
    ++ if (OpCode.newFromCode opcodeJumpmap code).name = "UNKNOWN" then
      [OpCode.newFromCode opcodeJumpmap code] else []

/-- No opcode is in two arms of the match. -/
theorem suspiciousSet_apart : ∀ code ∈ suspiciousSet, code ∉ callSet ∧ code ≠ Opcode.gas := by
  decide

theorem callSet_apart : ∀ code ∈ callSet, code ≠ Opcode.gas := by decide

/-- What one opcode does to the inspector. -/
theorem step_eq (opcodeJumpmap : Byte → Option String) (inspector : SalmonellaInspectoooor)
    (code : Byte) :
    (inspector.step opcodeJumpmap code).suspiciousOpcodes
      = inspector.suspiciousOpcodes ++ flagged opcodeJumpmap code
    ∧ (inspector.step opcodeJumpmap code).gasOpcodeCounter
      = inspector.gasOpcodeCounter + (if code = Opcode.gas then 1 else 0)
    ∧ (inspector.step opcodeJumpmap code).callOpcodeCounter
      = inspector.callOpcodeCounter + (if code ∈ callSet then 1 else 0) := by
  have code_eq : (OpCode.newFromCode opcodeJumpmap code).code = code := rfl
  unfold SalmonellaInspectoooor.step flagged SalmonellaInspectoooor.addSuspicious
  simp only [code_eq]
  by_cases suspicious : code ∈ suspiciousSet
  · obtain ⟨notCall, notGas⟩ := suspiciousSet_apart code suspicious
    simp only [if_pos suspicious, if_neg notCall, if_neg notGas]
    split_ifs <;> simp
  by_cases isCall : code ∈ callSet
  · simp only [if_neg suspicious, if_pos isCall, if_neg (callSet_apart code isCall)]
    split_ifs <;> simp
  simp only [if_neg suspicious, if_neg isCall]
  by_cases isGas : code = Opcode.gas
  · simp only [if_pos isGas]
    split_ifs <;> simp
  · simp only [if_neg isGas]
    split_ifs <;> simp

/-- What a whole execution does to it: the collected opcodes are the flagged ones of the trace, and the
counters count. -/
theorem foldl_step (opcodeJumpmap : Byte → Option String) (trace : List Byte)
    (inspector : SalmonellaInspectoooor) :
    let final := trace.foldl (·.step opcodeJumpmap ·) inspector
    final.suspiciousOpcodes = inspector.suspiciousOpcodes ++ trace.flatMap (flagged opcodeJumpmap)
    ∧ final.gasOpcodeCounter = inspector.gasOpcodeCounter + trace.countP (· = Opcode.gas)
    ∧ final.callOpcodeCounter = inspector.callOpcodeCounter + trace.countP (· ∈ callSet) := by
  induction trace generalizing inspector with
  | nil => simp
  | cons code trace hypothesis =>
      obtain ⟨opcodes, gasCounter, callCounter⟩ := step_eq opcodeJumpmap inspector code
      obtain ⟨opcodes', gasCounter', callCounter'⟩ := hypothesis (inspector.step opcodeJumpmap code)
      simp only [List.foldl_cons, List.flatMap_cons, List.countP_cons, decide_eq_true_eq]
      refine ⟨?_, ?_, ?_⟩
      · rw [opcodes', opcodes, List.append_assoc]
      · rw [gasCounter', gasCounter]
        omega
      · rw [callCounter', callCounter]
        omega

/-- An opcode that tells a simulation from the chain, or that has no name. -/
def Suspicious (opcodeJumpmap : Byte → Option String) (code : Byte) : Prop :=
  code ∈ suspiciousSet ∨ opcodeJumpmap code = none

/-- No opcode is named like those without a name. -/
def Named (opcodeJumpmap : Byte → Option String) : Prop :=
  ∀ code, opcodeJumpmap code ≠ some "UNKNOWN"

theorem name_eq_unknown (named : Named opcodeJumpmap) (code : Byte) :
    (OpCode.newFromCode opcodeJumpmap code).name = "UNKNOWN" ↔ opcodeJumpmap code = none := by
  show (opcodeJumpmap code).getD "UNKNOWN" = "UNKNOWN" ↔ _
  cases name : opcodeJumpmap code with
  | none => simp
  | some text => simpa [name] using named code

theorem mem_flagged (named : Named opcodeJumpmap) (opcode : OpCode) :
    opcode ∈ flagged opcodeJumpmap code
      ↔ opcode = OpCode.newFromCode opcodeJumpmap code ∧ Suspicious opcodeJumpmap code := by
  have unnamed := name_eq_unknown named code
  by_cases member : code ∈ suspiciousSet <;> by_cases unknown : opcodeJumpmap code = none <;>
    simp [flagged, Suspicious, unnamed, member, unknown]

/-- The verdict is `safu` exactly if nothing is collected: the counters have no part in it. -/
theorem isSandoSafu_eq_safu (inspector : SalmonellaInspectoooor) :
    inspector.isSandoSafu opcodeJumpmap = .safu ↔ inspector.suspiciousOpcodes = [] := by
  unfold SalmonellaInspectoooor.isSandoSafu
  by_cases empty : inspector.suspiciousOpcodes = [] <;> simp [empty]

/-- What is collected is reported. -/
theorem isSandoSafu_reports (inspector : SalmonellaInspectoooor) {opcode : OpCode}
    (collected : opcode ∈ inspector.suspiciousOpcodes) :
    ∃ opcodes, inspector.isSandoSafu opcodeJumpmap = .notSafu opcodes ∧ opcode ∈ opcodes := by
  unfold SalmonellaInspectoooor.isSandoSafu
  rw [if_neg (List.length_pos_of_mem collected).ne']
  refine ⟨_, rfl, ?_⟩
  split_ifs
  · exact List.mem_cons_of_mem _ collected
  · exact collected

/-! ### The verdict on an execution -/

/-- The opcodes that are collected in an execution. -/
theorem mem_collected (named : Named opcodeJumpmap) (opcode : OpCode) :
    opcode ∈ (trace.foldl (·.step opcodeJumpmap ·) SalmonellaInspectoooor.new).suspiciousOpcodes
      ↔ ∃ code ∈ trace, opcode = OpCode.newFromCode opcodeJumpmap code
        ∧ Suspicious opcodeJumpmap code := by
  obtain ⟨opcodes, -, -⟩ := foldl_step opcodeJumpmap trace SalmonellaInspectoooor.new
  rw [opcodes]
  simp [SalmonellaInspectoooor.new, mem_flagged named]

theorem verdict_eq_safu (named : Named opcodeJumpmap) :
    verdict opcodeJumpmap trace = .safu ↔ ∀ code ∈ trace, ¬ Suspicious opcodeJumpmap code := by
  unfold verdict
  rw [isSandoSafu_eq_safu, List.eq_nil_iff_forall_not_mem]
  simp only [mem_collected named]
  constructor
  · intro none code executed suspicious
    exact none _ ⟨code, executed, rfl, suspicious⟩
  · rintro clean opcode ⟨code, executed, -, suspicious⟩
    exact clean code executed suspicious

theorem verdict_reports (named : Named opcodeJumpmap) (executed : code ∈ trace)
    (suspicious : Suspicious opcodeJumpmap code) :
    ∃ opcodes, verdict opcodeJumpmap trace = .notSafu opcodes
      ∧ OpCode.newFromCode opcodeJumpmap code ∈ opcodes :=
  isSandoSafu_reports _ ((mem_collected named _).mpr ⟨code, executed, rfl, suspicious⟩)

variable (opcodeJumpmap trace) in
/-- The verdict reflects the whole execution. -/
structure Reflects : Prop where
  safu : verdict opcodeJumpmap trace = .safu
    ↔ (∀ code ∈ trace, ¬ Suspicious opcodeJumpmap code)
      ∧ trace.countP (· = Opcode.gas) ≤ trace.countP (· ∈ callSet)
  reported : ∀ code ∈ trace, Suspicious opcodeJumpmap code →
    ∃ opcodes, verdict opcodeJumpmap trace = .notSafu opcodes
      ∧ OpCode.newFromCode opcodeJumpmap code ∈ opcodes

/-- The verdict is the right one exactly if something suspicious was executed anyway, or no GAS opcode
was executed without a call to go with it. -/
theorem verdict_reflects_iff (named : Named opcodeJumpmap) :
    Reflects opcodeJumpmap trace
      ↔ (∃ code ∈ trace, Suspicious opcodeJumpmap code)
        ∨ trace.countP (· = Opcode.gas) ≤ trace.countP (· ∈ callSet) := by
  constructor
  · intro reflects
    by_cases clean : ∀ code ∈ trace, ¬ Suspicious opcodeJumpmap code
    · exact Or.inr (reflects.safu.mp ((verdict_eq_safu named).mpr clean)).2
    · push Not at clean
      exact Or.inl clean
  · intro condition
    refine ⟨?_, fun code executed suspicious => verdict_reports named executed suspicious⟩
    rw [verdict_eq_safu named]
    refine ⟨fun clean => ⟨clean, condition.resolve_left ?_⟩, And.left⟩
    rintro ⟨code, executed, suspicious⟩
    exact clean code executed suspicious

/-- A table that names a few opcodes. -/
def shortTable (code : Byte) : Option String :=
  if code = 0 then some "STOP"
  else if code = Opcode.balance then some "BALANCE"
  else if code = Opcode.gas then some "GAS"
  else if code = Opcode.call then some "CALL"
  else if code = Opcode.delegatecall then some "DELEGATECALL"
  else if code = Opcode.staticcall then some "STATICCALL"
  else none

theorem shortTable_named : Named shortTable := by
  intro code
  unfold shortTable
  split_ifs <;> simp

theorem verdict_reflects_gas_call : Reflects shortTable [Opcode.gas, Opcode.call, 0] :=
  (verdict_reflects_iff shortTable_named).mpr (Or.inr (by decide))

/-- A contract that asks for its gas and stops is found to be safu. -/
theorem verdict_misses_gas : ¬ Reflects shortTable [Opcode.gas, 0] := by
  intro reflects
  have few := (reflects.safu.mp (by decide)).2
  exact absurd few (by decide)

/-- A payload that passed the inspector executed nothing suspicious. -/
theorem sendWithAccessList_clean {setup : Setup} {execution : List Ran → List Byte}
    (named : Named opcodeJumpmap)
    (inspected : ∀ ran, setup.backend.isSandoSafu ran = true →
      verdict opcodeJumpmap (execution ran) = .safu)
    {role : Role} {failed halted notSafu : SimulationError} {reverted : List Byte → SimulationError}
    {accessList : AccessList} {state state' : State} {sent : ℕ × AccessList}
    (ok : setup.sendWithAccessList role failed halted notSafu reverted accessList state
      = .ok sent state') :
    ∀ code ∈ execution state'.ran, ¬ Suspicious opcodeJumpmap code := by
  obtain ⟨_, between, -, ok⟩ := bind_eq_ok.mp ok
  obtain ⟨ran, after, ranTx, ok⟩ := bind_eq_ok.mp ok
  obtain ⟨rfl, rfl⟩ : between.ran ++ [⟨.inspectCommit, role, between.tx⟩] = ran
      ∧ { between with ran := between.ran ++ [⟨.inspectCommit, role, between.tx⟩] } = after := by
    simpa [runTx] using ranTx
  cases answer : setup.backend.answer (between.ran ++ [⟨.inspectCommit, role, between.tx⟩]) with
  | success output gasUsed =>
      simp only [answer] at ok
      split_ifs at ok with safu
      · obtain ⟨-, rfl⟩ := pure_eq_ok.mp ok
        exact (verdict_eq_safu named).mp (inspected _ safu)
      · exact absurd ok throw_ne_ok
  | evmError | revert output gasUsed | halt gasUsed =>
      simp only [answer] at ok
      exact absurd ok throw_ne_ok

end Trace

end Sando.Simulate
