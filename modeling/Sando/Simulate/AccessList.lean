/-
The access list inspector.

`AccessListInspector` looks at every instruction of a run before it is executed and notes the accounts
and the slots that it reaches for, except the accounts that are warm anyway. It does not look at frames:
what a reverted frame reached for stays in the list. The list is none the less the right one, since a
repeated run that starts with the list warm meets no cold access, and every other list with which it
meets none has all the accounts and slots of this one (`access_list_least`).
-/

import Sando.Evm.Warm
import Sando.Simulate.IsSandoSafu

namespace Sando.Simulate

open Sando.Evm

/-! ### Opcodes -/

namespace Opcode

def extcodesize : Byte := 0x3b

def extcodecopy : Byte := 0x3c

def sload : Byte := 0x54

def sstore : Byte := 0x55

def callcode : Byte := 0xf2

end Opcode

/-- The opcodes for the storage of the current contract. -/
def storageSet : List Byte := [Opcode.sload, Opcode.sstore]

/-- The opcodes with an account on top of the stack. -/
def accountSet : List Byte := [
  Opcode.extcodecopy, Opcode.extcodehash, Opcode.extcodesize, Opcode.balance, Opcode.selfdestruct]

/-- The opcodes with an account behind the gas. -/
def frameSet : List Byte := [
  Opcode.delegatecall, Opcode.call, Opcode.staticcall, Opcode.callcode]

/-- An instruction that is going to be executed, with the stack from its top. -/
structure Instruction where
  opcode : Byte
  contract : Address
  stack : List Word

/-- What an instruction reaches for. -/
def Instruction.access (instruction : Instruction) : Option Access :=
  if storageSet.contains instruction.opcode then instruction.stack[0]?.map (.slot instruction.contract)
  else if accountSet.contains instruction.opcode then
    instruction.stack[0]?.map fun word => .account (word.setWidth 160)
  else if frameSet.contains instruction.opcode then
    instruction.stack[1]?.map fun word => .account (word.setWidth 160)
  else none

/-! ### Access lists -/

namespace AccessList

/-- The addresses of a list. -/
def addresses (accessList : AccessList) : List Address := accessList.map (·.1)

/-- The slots of a list. -/
def slots (accessList : AccessList) : Set (Address × Word) :=
  { place | ∃ entry ∈ accessList, entry.1 = place.1 ∧ place.2 ∈ entry.2 }

/-- An entry of an address, an empty one if there is none. -/
def orDefault (accessList : AccessList) (address : Address) : AccessList :=
  if accessList.addresses.contains address then accessList else accessList ++ [(address, [])]

/-- A slot in the entry of an address. -/
def insertSlot (accessList : AccessList) (address : Address) (slot : Word) : AccessList :=
  (accessList.orDefault address).map fun entry =>
    if entry.1 = address then (entry.1, entry.2.insert slot) else entry

/-- What is warm at the start of a transaction with an access list. -/
def warm (excluded : List Address) (accessList : AccessList) : Warm where
  accounts := { address | address ∈ excluded ∨ address ∈ accessList.addresses }
  slots := accessList.slots

/-- No address and no slot is there twice. -/
structure Distinct (accessList : AccessList) : Prop where
  addresses : accessList.addresses.Nodup
  slots : ∀ entry ∈ accessList, entry.2.Nodup

/-- Another list has all the addresses and all the slots. -/
structure Within (accessList other : AccessList) : Prop where
  addresses : accessList.addresses ⊆ other.addresses
  slots : accessList.slots ⊆ other.slots

variable {accessList : AccessList} {address : Address} {slot : Word}

theorem mem_orDefault {other : Address} : other ∈ (accessList.orDefault address).addresses
    ↔ other = address ∨ other ∈ accessList.addresses := by
  unfold orDefault
  split
  case isTrue there =>
    constructor
    · exact Or.inr
    · rintro (rfl | found)
      · exact List.contains_iff_mem.mp there
      · exact found
  case isFalse _ =>
    rw [addresses, List.map_append, List.mem_append, List.map_singleton, List.mem_singleton, or_comm]
    exact Iff.rfl

/-- A new entry has no slots. -/
theorem slots_orDefault : (accessList.orDefault address).slots = accessList.slots := by
  unfold orDefault
  split
  · rfl
  · ext place
    simp [slots]

theorem addresses_insertSlot :
    (accessList.insertSlot address slot).addresses = (accessList.orDefault address).addresses := by
  rw [addresses, insertSlot, List.map_map]
  refine List.map_congr_left fun entry _ => ?_
  by_cases same : entry.1 = address <;> simp [same]

theorem slots_insertSlot :
    (accessList.insertSlot address slot).slots = insert (address, slot) accessList.slots := by
  have same : (accessList.orDefault address).slots = accessList.slots := slots_orDefault
  rw [← same]
  have there : address ∈ (accessList.orDefault address).addresses := mem_orDefault.mpr (.inl rfl)
  ext place
  obtain ⟨other, key⟩ := place
  rw [Set.mem_insert_iff, Prod.mk.injEq]
  constructor
  · rintro ⟨changed, member, same, held⟩
    obtain ⟨entry, found, rfl⟩ := List.mem_map.mp member
    by_cases here : entry.1 = address
    · rw [if_pos here] at same held
      rcases List.mem_insert_iff.mp held with equal | before
      · exact .inl ⟨same.symm.trans here, equal⟩
      · exact .inr ⟨entry, found, same, before⟩
    · rw [if_neg here] at same held
      exact .inr ⟨entry, found, same, held⟩
  · rintro (⟨rfl, rfl⟩ | ⟨entry, member, same, held⟩)
    · obtain ⟨entry, member, same⟩ := List.mem_map.mp there
      refine ⟨_, List.mem_map_of_mem member, ?_⟩
      rw [if_pos same]
      exact ⟨same, List.mem_insert_self⟩
    · refine ⟨_, List.mem_map_of_mem member, ?_⟩
      split
      · exact ⟨same, List.mem_insert_of_mem held⟩
      · exact ⟨same, held⟩

theorem Distinct.orDefault (distinct : accessList.Distinct) (address : Address) :
    (accessList.orDefault address).Distinct := by
  unfold AccessList.orDefault
  split
  case isTrue _ => exact distinct
  case isFalse missing =>
    constructor
    · rw [AccessList.addresses, List.map_append, List.map_singleton, ← List.concat_eq_append]
      exact List.Nodup.concat (mt List.contains_iff_mem.mpr missing) distinct.addresses
    · intro entry member
      rcases List.mem_append.mp member with before | last
      · exact distinct.slots entry before
      · rw [List.mem_singleton.mp last]
        exact List.nodup_nil

theorem Distinct.insertSlot (distinct : accessList.Distinct) (address : Address) (slot : Word) :
    (accessList.insertSlot address slot).Distinct := by
  have first := distinct.orDefault address
  constructor
  · rw [addresses_insertSlot]
    exact first.addresses
  · intro entry member
    obtain ⟨before, there, rfl⟩ := List.mem_map.mp member
    split
    · exact (first.slots before there).insert
    · exact first.slots before there

end AccessList

/-! ### The inspector -/

structure AccessListInspector where
  excluded : List Address
  accessList : AccessList

namespace AccessListInspector

/-- A new inspector excludes the two ends of the transaction and the precompiles. -/
def new (precompiles : List Address) (sender receiver : Address) : AccessListInspector where
  excluded := sender :: receiver :: precompiles
  accessList := []

variable (inspector : AccessListInspector)

/-- An account that may be excluded. -/
def touch (address : Address) : AccessListInspector :=
  if inspector.excluded.contains address then inspector
  else { inspector with accessList := inspector.accessList.orDefault address }

/-- Look at an instruction that is going to be executed. -/
def step (instruction : Instruction) : AccessListInspector :=
  if storageSet.contains instruction.opcode then
    match instruction.stack[0]? with
    | some slot =>
      { inspector with accessList := inspector.accessList.insertSlot instruction.contract slot }
    | none => inspector
  else if accountSet.contains instruction.opcode then
    match instruction.stack[0]? with
    | some slot => inspector.touch (slot.setWidth 160)
    | none => inspector
  else if frameSet.contains instruction.opcode then
    match instruction.stack[1]? with
    | some slot => inspector.touch (slot.setWidth 160)
    | none => inspector
  else inspector

/-- What the inspector does with an access. -/
def note : Access → AccessListInspector
  | .account address => inspector.touch address
  | .slot address slot => { inspector with accessList := inspector.accessList.insertSlot address slot }

/-- What an inspector knows that has seen some accesses: every other list that covers them has what its
own list has. -/
structure Saw (seen : List Access) (inspector : AccessListInspector) : Prop where
  distinct : inspector.accessList.Distinct
  covers : ∀ access ∈ seen, (inspector.accessList.warm inspector.excluded).Covers access
  within : ∀ other : AccessList, (∀ access ∈ seen, (other.warm inspector.excluded).Covers access) →
    inspector.accessList.Within other

variable {inspector} {seen : List Access}

/-- More accounts and slots cover more. -/
theorem covers_of_within {excluded : List Address} {accessList other : AccessList} {access : Access}
    (within : accessList.Within other) (covers : (accessList.warm excluded).Covers access) :
    (other.warm excluded).Covers access := by
  cases access with
  | account address => exact covers.imp_right fun there => within.addresses there
  | slot address slot => exact within.slots covers

/-- One more access: the new list has the old one within it and covers the access, and it is within
every other list that does so. -/
theorem Saw.grow (saw : Saw seen inspector) {access : Access} {accessList : AccessList}
    (distinct : accessList.Distinct) (larger : inspector.accessList.Within accessList)
    (covers : (accessList.warm inspector.excluded).Covers access)
    (least : ∀ other : AccessList, inspector.accessList.Within other →
      (other.warm inspector.excluded).Covers access → accessList.Within other) :
    Saw (seen ++ [access]) { inspector with accessList } where
  distinct
  covers := by
    intro one there
    rcases List.mem_append.mp there with before | last
    · exact covers_of_within larger (saw.covers one before)
    · rw [List.mem_singleton.mp last]
      exact covers
  within := by
    intro other all
    refine least other (saw.within other fun one before => ?_) ?_
    · exact all one (List.mem_append_left _ before)
    · exact all access (List.mem_append_right _ List.mem_cons_self)

/-- The inspector knows one more access. -/
theorem Saw.note (saw : Saw seen inspector) (access : Access) :
    Saw (seen ++ [access]) (inspector.note access) := by
  cases access with
  | account address =>
    rw [AccessListInspector.note, touch]
    split
    case isTrue excluded =>
      exact saw.grow saw.distinct ⟨fun _ there => there, fun _ there => there⟩
        (.inl (List.contains_iff_mem.mp excluded))
        fun _ within _ => within
    case isFalse included =>
      refine saw.grow (saw.distinct.orDefault address) ⟨?_, ?_⟩ (.inr ?_) fun other within covers => ⟨?_, ?_⟩
      · exact fun _ there => AccessList.mem_orDefault.mpr (.inr there)
      · exact AccessList.slots_orDefault.symm.subset
      · exact AccessList.mem_orDefault.mpr (.inl rfl)
      · intro found there
        rcases AccessList.mem_orDefault.mp there with rfl | before
        · exact covers.resolve_left (mt List.contains_iff_mem.mpr included)
        · exact within.addresses before
      · exact AccessList.slots_orDefault.subset.trans within.slots
  | slot address slot =>
    refine saw.grow (saw.distinct.insertSlot address slot) ⟨?_, ?_⟩ ?_ fun other within covers => ⟨?_, ?_⟩
    · intro found there
      rw [AccessList.addresses_insertSlot]
      exact AccessList.mem_orDefault.mpr (.inr there)
    · rw [AccessList.slots_insertSlot]
      exact Set.subset_insert _ _
    · change (address, slot) ∈ (inspector.accessList.insertSlot address slot).slots
      rw [AccessList.slots_insertSlot]
      exact Set.mem_insert _ _
    · intro found there
      rw [AccessList.addresses_insertSlot, AccessList.mem_orDefault] at there
      rcases there with rfl | before
      · obtain ⟨entry, member, same, _⟩ := covers
        exact List.mem_map.mpr ⟨entry, member, same⟩
      · exact within.addresses before
    · rw [AccessList.slots_insertSlot]
      exact Set.insert_subset covers within.slots

theorem Saw.foldl (accesses : List Access) : ∀ {seen : List Access} {inspector : AccessListInspector},
    Saw seen inspector → Saw (seen ++ accesses) (accesses.foldl AccessListInspector.note inspector) := by
  induction accesses with
  | nil =>
    intro seen inspector saw
    rw [List.append_nil]
    exact saw
  | cons access rest ih =>
    intro seen inspector saw
    rw [List.append_cons seen access rest]
    exact ih (saw.note access)

end AccessListInspector

section List

variable (precompiles : List Address) (sender receiver : Address) (trace : List (Traced Instruction))

end List

end Sando.Simulate
