/-
The pools that a transaction touches.

A state diff lists the accounts that a transaction changes, and of each one the slots. `extractPools`
looks up the WETH balance of every pool among them: it has to be a slot that changes, and the direction of
the change is the direction of the swap. The loop over the pools returns at once when the slot of one of
them is not listed. So it finds the sandwichable pools when all their slots are listed, and each of them
independently of the others when no other pool can bring in a slot that is not (`extract_pools_iff`).
-/

import Sando.Maps.Merge
import Sando.Simulate.Evm

namespace Sando.StateDiff

open Std Sando.Evm Sando.TxBuilder Sando.Simulate

/-! ### State diffs -/

/-- What a transaction does to a value. -/
inductive Diff (α : Type)
  | same
  | born (value : α)
  | died (value : α)
  | changed (before after : α)
  deriving DecidableEq

/-- What a transaction does to an account. -/
structure AccountDiff where
  storage : TreeMap Word (Diff Word)

/-- What a transaction does to all accounts. -/
abbrev StateDiffs := TreeMap Address AccountDiff

/-- A pool that has the potential to be sandwiched. -/
structure SandwichablePool where
  pool : TargetPool
  isWethInput : Bool

/-! ### The extraction -/

/-- The slot of the WETH balance of a pool. -/
def storageKey (keccak256 : List Byte → Word) (pool : TargetPool) : Word :=
  keccak256 (encodeWords [pool.address.toNat, 3])

/-- Find the direction of the swap for each pool. -/
def findDirections (keccak256 : List Byte → Word) (wethStateDiff : TreeMap Word (Diff Word)) :
    List TargetPool → List SandwichablePool → Option (List SandwichablePool)
  | [], sandwichablePools => some sandwichablePools
  | pool :: touchedPools, sandwichablePools => do
    match ← wethStateDiff[storageKey keccak256 pool]? with
    | .changed before after =>
      findDirections keccak256 wethStateDiff touchedPools
        (sandwichablePools ++ [⟨pool, decide (before < after)⟩])
    | _ => findDirections keccak256 wethStateDiff touchedPools sandwichablePools

/-- Decode a state diff. -/
def extractPools (keccak256 : List Byte → Word) (stateDiffs : StateDiffs)
    (allPools : Address → Option TargetPool) : Option (List SandwichablePool) := do
  -- all addresses that have a state change and are also a pool
  let touchedPools := stateDiffs.keys.filterMap allPools
  let wethStateDiff := (← stateDiffs[getWethAddress]?).storage
  findDirections keccak256 wethStateDiff touchedPools []

/-! ### What it should find -/

/-- The direction of a swap, when the WETH balance of the pool changes. -/
def direction (keccak256 : List Byte → Word) (wethStateDiff : TreeMap Word (Diff Word))
    (pool : TargetPool) : Option SandwichablePool :=
  match wethStateDiff[storageKey keccak256 pool]? with
  | some (.changed before after) => some ⟨pool, decide (before < after)⟩
  | _ => none

/-- The touched pools whose WETH balance changes, in the order of their addresses. -/
def sandwichable (keccak256 : List Byte → Word) (wethStateDiff : TreeMap Word (Diff Word))
    (stateDiffs : StateDiffs) (allPools : Address → Option TargetPool) : List SandwichablePool :=
  stateDiffs.keys.filterMap fun address => (allPools address).bind (direction keccak256 wethStateDiff)

/-- A pool is in the result. -/
def Finds (keccak256 : List Byte → Word) (stateDiffs : StateDiffs)
    (allPools : Address → Option TargetPool) (found : SandwichablePool) : Prop :=
  ∃ pools, extractPools keccak256 stateDiffs allPools = some pools ∧ found ∈ pools

/-- The result are the sandwichable pools, and whether a touched pool is in it does not change when another
pool is removed from the diff, or added to it. -/
structure FindsPools (keccak256 : List Byte → Word) (weth : AccountDiff) (stateDiffs : StateDiffs)
    (allPools : Address → Option TargetPool) : Prop where
  exact : extractPools keccak256 stateDiffs allPools
    = some (sandwichable keccak256 weth.storage stateDiffs allPools)
  removed : ∀ other ∈ stateDiffs, other ≠ getWethAddress → (allPools other).isSome →
    ∀ address ∈ stateDiffs, address ≠ other → ∀ pool, allPools address = some pool →
      ∀ isWethInput, Finds keccak256 stateDiffs allPools ⟨pool, isWethInput⟩
        ↔ Finds keccak256 (stateDiffs.erase other) allPools ⟨pool, isWethInput⟩
  added : ∀ other ∉ stateDiffs, (allPools other).isSome → ∀ diff,
    ∀ address ∈ stateDiffs, ∀ pool, allPools address = some pool →
      ∀ isWethInput, Finds keccak256 stateDiffs allPools ⟨pool, isWethInput⟩
        ↔ Finds keccak256 (stateDiffs.insert other diff) allPools ⟨pool, isWethInput⟩

/-- The WETH balance of every touched pool is listed, whatever happens to it. -/
def SlotsListed (keccak256 : List Byte → Word) (weth : AccountDiff) (stateDiffs : StateDiffs)
    (allPools : Address → Option TargetPool) : Prop :=
  ∀ address ∈ stateDiffs, ∀ pool, allPools address = some pool →
    storageKey keccak256 pool ∈ weth.storage

/-- The WETH balance of every pool there is is listed, touched or not. -/
def AllListed (keccak256 : List Byte → Word) (weth : AccountDiff)
    (allPools : Address → Option TargetPool) : Prop :=
  ∀ address pool, allPools address = some pool → storageKey keccak256 pool ∈ weth.storage

/-- The WETH balance of no touched pool changes. -/
def NoneChanged (keccak256 : List Byte → Word) (weth : AccountDiff) (stateDiffs : StateDiffs)
    (allPools : Address → Option TargetPool) : Prop :=
  ∀ address ∈ stateDiffs, ∀ pool, allPools address = some pool → ∀ before after,
    weth.storage[storageKey keccak256 pool]? ≠ some (.changed before after)

section Extract

variable {keccak256 : List Byte → Word} {weth : AccountDiff} {stateDiffs : StateDiffs}
  {allPools : Address → Option TargetPool} {pools : List TargetPool}

/-- A direction is one of the pool itself, whose balance changes. -/
theorem direction_cases {pool : TargetPool} {found : SandwichablePool}
    (known : direction keccak256 weth.storage pool = some found) : found.pool = pool
      ∧ ∃ before after, weth.storage[storageKey keccak256 pool]? = some (.changed before after) := by
  unfold direction at known
  split at known
  · next before after slot =>
    rw [← Option.some.inj known]
    exact ⟨rfl, before, after, slot⟩
  · exact absurd known (Option.some_ne_none found).symm

theorem findDirections_eq (listed : ∀ pool ∈ pools, storageKey keccak256 pool ∈ weth.storage) :
    ∀ found, findDirections keccak256 weth.storage pools found
      = some (found ++ pools.filterMap (direction keccak256 weth.storage)) := by
  induction pools with
  | nil => exact fun found => congrArg some (List.append_nil found).symm
  | cons pool rest ih =>
    intro found
    have others := ih fun other there => listed other (.tail _ there)
    obtain ⟨diff, slot⟩ := Option.isSome_iff_exists.mp
      (TreeMap.mem_iff_isSome_getElem?.mp (listed pool List.mem_cons_self))
    rw [findDirections, List.filterMap_cons, direction, slot]
    cases diff with
    | changed before after =>
      exact (others _).trans (by rw [List.append_assoc]; rfl)
    | same | born | died => exact others found

/-- One slot that is not listed is enough for nothing to be found. -/
theorem findDirections_eq_none {pool : TargetPool} (there : pool ∈ pools)
    (missing : storageKey keccak256 pool ∉ weth.storage) :
    ∀ found, findDirections keccak256 weth.storage pools found = none := by
  induction pools with
  | nil => exact absurd there List.not_mem_nil
  | cons first rest ih =>
    intro found
    rw [findDirections]
    rcases List.mem_cons.mp there with rfl | later
    · rw [TreeMap.getElem?_eq_none missing]
      rfl
    · cases weth.storage[storageKey keccak256 first]? with
      | none => rfl
      | some diff =>
        cases diff with
        | changed | same | born | died => exact ih later _

variable (found : stateDiffs[getWethAddress]? = some weth)

include found

theorem extractPools_eq : extractPools keccak256 stateDiffs allPools
    = findDirections keccak256 weth.storage (stateDiffs.keys.filterMap allPools) [] := by
  rw [extractPools, found]
  rfl

theorem extractPools_exact (listed : SlotsListed keccak256 weth stateDiffs allPools) :
    extractPools keccak256 stateDiffs allPools
      = some (sandwichable keccak256 weth.storage stateDiffs allPools) := by
  rw [extractPools_eq found, findDirections_eq, List.nil_append, List.filterMap_filterMap]
  · rfl
  · intro pool there
    obtain ⟨address, key, held⟩ := List.mem_filterMap.mp there
    exact listed address (TreeMap.mem_keys.mp key) pool held

/-- A touched pool is found when its balance changes. -/
theorem finds_iff (listed : SlotsListed keccak256 weth stateDiffs allPools) {address : Address}
    {pool : TargetPool} (touched : address ∈ stateDiffs) (held : allPools address = some pool)
    (isWethInput : Bool) :
    Finds keccak256 stateDiffs allPools ⟨pool, isWethInput⟩
      ↔ direction keccak256 weth.storage pool = some ⟨pool, isWethInput⟩ := by
  constructor
  · rintro ⟨pools, result, there⟩
    rw [extractPools_exact found listed, Option.some.injEq] at result
    subst result
    obtain ⟨other, -, held⟩ := List.mem_filterMap.mp there
    obtain ⟨same, -, known⟩ := Option.bind_eq_some_iff.mp held
    obtain ⟨rfl, -⟩ := direction_cases known
    exact known
  · intro known
    refine ⟨_, extractPools_exact found listed, List.mem_filterMap.mpr
      ⟨address, TreeMap.mem_keys.mpr touched, ?_⟩⟩
    rw [held, Option.bind_some, known]

/-- Where anything is found, no slot is missing. -/
theorem slotsListed_of_some {pools : List SandwichablePool}
    (result : extractPools keccak256 stateDiffs allPools = some pools) :
    SlotsListed keccak256 weth stateDiffs allPools := by
  intro address touched pool held
  by_contra missing
  rw [extractPools_eq found, findDirections_eq_none (List.mem_filterMap.mpr
    ⟨address, TreeMap.mem_keys.mpr touched, held⟩) missing] at result
  exact absurd result (Option.some_ne_none _).symm

/-- What is found does not change with a diff that lists the same WETH slots, all of them. -/
theorem finds_congr {others : StateDiffs} (kept : others[getWethAddress]? = some weth)
    (listed : SlotsListed keccak256 weth stateDiffs allPools)
    (otherListed : SlotsListed keccak256 weth others allPools) {address : Address} {pool : TargetPool}
    (touched : address ∈ stateDiffs) (stays : address ∈ others) (held : allPools address = some pool)
    (isWethInput : Bool) : Finds keccak256 stateDiffs allPools ⟨pool, isWethInput⟩
      ↔ Finds keccak256 others allPools ⟨pool, isWethInput⟩ :=
  (finds_iff found listed touched held isWethInput).trans
    (finds_iff kept otherListed stays held isWethInput).symm

theorem weth_insert {other : Address} (absent : other ∉ stateDiffs) (diff : AccountDiff) :
    (stateDiffs.insert other diff)[getWethAddress]? = some weth := by
  have apart : other ≠ getWethAddress := by
    rintro rfl
    rw [TreeMap.getElem?_eq_none absent] at found
    exact absurd found (Option.some_ne_none weth).symm
  rw [TreeMap.getElem?_insert, if_neg (by simpa using apart), found]

/-- A pool whose slot is not listed hides all others when it is added. -/
theorem allListed_or_noneChanged (finds : FindsPools keccak256 weth stateDiffs allPools) :
    AllListed keccak256 weth allPools ∨ NoneChanged keccak256 weth stateDiffs allPools := by
  have listed := slotsListed_of_some found finds.exact
  by_contra neither
  obtain ⟨unlisted, changed⟩ := not_or.mp neither
  simp only [AllListed, NoneChanged, not_forall, not_not] at unlisted changed
  obtain ⟨other, otherPool, otherHeld, missing⟩ := unlisted
  obtain ⟨address, touched, pool, held, before, after, slot⟩ := changed
  have absent : other ∉ stateDiffs := fun there => missing (listed other there otherPool otherHeld)
  have here : Finds keccak256 stateDiffs allPools ⟨pool, decide (before < after)⟩ :=
    (finds_iff found listed touched held _).mpr (by rw [direction, slot])
  obtain ⟨pools, result, -⟩ :=
    (finds.added other absent (otherHeld ▸ rfl) ⟨∅⟩ address touched pool held _).mp here
  have listedIn := slotsListed_of_some (weth_insert found absent ⟨∅⟩) result
  exact missing (listedIn other TreeMap.mem_insert_self otherPool otherHeld)

/-- A pool that is added changes nothing when its slot is listed or nothing is found. -/
theorem finds_insert_iff (listed : SlotsListed keccak256 weth stateDiffs allPools)
    (others : AllListed keccak256 weth allPools ∨ NoneChanged keccak256 weth stateDiffs allPools)
    {other address : Address} (absent : other ∉ stateDiffs) (diff : AccountDiff) {pool : TargetPool}
    (touched : address ∈ stateDiffs) (held : allPools address = some pool) (isWethInput : Bool) :
    Finds keccak256 stateDiffs allPools ⟨pool, isWethInput⟩
      ↔ Finds keccak256 (stateDiffs.insert other diff) allPools ⟨pool, isWethInput⟩ := by
  have kept := weth_insert found absent diff
  have stays : address ∈ stateDiffs.insert other diff := TreeMap.mem_insert.mpr (.inr touched)
  constructor
  · intro finds
    obtain ⟨-, before, after, slot⟩ :=
      direction_cases ((finds_iff found listed touched held isWethInput).mp finds)
    rcases others with all | unchanged
    · have listedIn : SlotsListed keccak256 weth (stateDiffs.insert other diff) allPools :=
        fun address _ => all address
      exact (finds_congr found kept listed listedIn touched stays held isWethInput).mp finds
    · exact absurd slot (unchanged address touched pool held before after)
  · rintro ⟨pools, result, there⟩
    have listedIn := slotsListed_of_some kept result
    exact (finds_congr found kept listed listedIn touched stays held isWethInput).mpr
      ⟨pools, result, there⟩

/-- The sandwichable pools are found, each independently of the others, exactly when the slot of every
touched pool is listed, and besides either the slots of all pools are or no touched pool changes. -/
theorem extract_pools_iff : FindsPools keccak256 weth stateDiffs allPools
    ↔ SlotsListed keccak256 weth stateDiffs allPools
      ∧ (AllListed keccak256 weth allPools ∨ NoneChanged keccak256 weth stateDiffs allPools) := by
  constructor
  · intro finds
    exact ⟨slotsListed_of_some found finds.exact, allListed_or_noneChanged found finds⟩
  · rintro ⟨listed, others⟩
    refine ⟨extractPools_exact found listed, ?_, ?_⟩
    · intro other _ notWeth _ address touched apart pool held isWethInput
      have foundErased : (stateDiffs.erase other)[getWethAddress]? = some weth := by
        rw [TreeMap.getElem?_erase, if_neg (by simpa using notWeth), found]
      have listedErased : SlotsListed keccak256 weth (stateDiffs.erase other) allPools :=
        fun address there => listed address (TreeMap.mem_of_mem_erase there)
      have kept : address ∈ stateDiffs.erase other :=
        TreeMap.mem_erase.mpr ⟨by simpa using apart.symm, touched⟩
      exact finds_congr found foundErased listed listedErased touched kept held isWethInput
    · intro other absent _ diff address touched pool held isWethInput
      exact finds_insert_iff found listed others absent diff touched held isWethInput

end Extract

/-! ### Two pairs -/

/-- The V2 pair of Dai. -/
def daiPair : TargetPool := ⟨⟨0xA478c2975Ab1Ea89e8196811F51A7B7Ade33eB11,
  0x6B175474E89094C44Da98b954EedeAC495271d0F, getWethAddress, 3000⟩, .uniswapV2, false⟩

def twoPairs (address : Address) : Option TargetPool :=
  if address = usdcPair.address then some usdcPair
  else if address = daiPair.address then some daiPair
  else none

/-- The hashes that belong to the balances of the two pairs. -/
def pairKeccak (input : List Byte) : Word :=
  if input = encodeWords [usdcPair.address.toNat, 3] then
    0xb374801ace2c02f5db0425ab5920a2b7ed1d5a00abbcd395fda7530ba1d666c0
  else 0xa535fbd0ab3e0ad4ee444570368f3d474545b71fcc49228fe96a6406676fc126

/-- One WETH more for the pair of USDC. -/
def wethDiff : AccountDiff := ⟨(∅ : TreeMap Word (Diff Word)).insert
  (storageKey pairKeccak usdcPair) (.changed 1000000000000000000 2000000000000000000)⟩

/-- A swap on the pair of USDC, which changes the reserves. -/
def swapDiff : StateDiffs :=
  ((∅ : StateDiffs).insert getWethAddress wethDiff).insert usdcPair.address
    ⟨(∅ : TreeMap Word (Diff Word)).insert 8 (.changed 1 2)⟩

/-- The same transaction transfers some liquidity tokens of the pair of Dai. -/
def transferDiff : StateDiffs :=
  swapDiff.insert daiPair.address ⟨(∅ : TreeMap Word (Diff Word)).insert 9 (.changed 2 1)⟩

/-- The WETH slots of both pairs, the one of Dai unchanged. -/
def bothDiff : AccountDiff := ⟨wethDiff.storage.insert (storageKey pairKeccak daiPair) .same⟩

/-- With both slots listed, the transfer hides nothing. -/
theorem extract_pools_iff_both :
    FindsPools pairKeccak bothDiff (transferDiff.insert getWethAddress bothDiff) twoPairs := by
  have all : AllListed pairKeccak bothDiff twoPairs := by
    intro address pool held
    unfold twoPairs at held
    split_ifs at held <;> obtain rfl := Option.some.inj held <;> decide +kernel
  exact (extract_pools_iff rfl).mpr ⟨fun address _ => all address, .inl all⟩

/-- The transfer hides the swap. -/
theorem extract_pools_transfer : transferDiff[getWethAddress]? = some wethDiff
    ∧ Finds pairKeccak swapDiff twoPairs ⟨usdcPair, true⟩
    ∧ ¬ FindsPools pairKeccak wethDiff transferDiff twoPairs := by
  have hidden : (extractPools pairKeccak transferDiff twoPairs).isNone = true := by decide +kernel
  refine ⟨rfl, ?_, fun finds => ?_⟩
  · exact ⟨_, rfl, List.mem_singleton.mpr rfl⟩
  · rw [finds.exact] at hidden
    exact absurd hidden (by decide)

end Sando.StateDiff
