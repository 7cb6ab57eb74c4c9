/-
From a V3 payload builder through the contract to the pool, and back through the callback.

`frontrunSwap` and `backrunSwap` say what the pool should be called with. The backrun calls it with
exactly that, and the callback of a pool that hands back the data it was given pays the pool what it is
owed. The handlers of the frontrun read the hash of the pool key one byte early, so that the pool is
given the last byte of the amount and 31 bytes of the hash (`frontrun_makes`).
-/

import Mathlib.Data.Nat.Log
import Sando.Huff.Callback
import Sando.Huff.V3
import Sando.RoundTrip.V2
import Sando.TxBuilder.V3

namespace Sando.RoundTrip

open Sando.Evm Sando.Evm.Context Sando.Huff Sando.TxBuilder

/-- A pool of WETH and another token. -/
structure WethPool extends Pool where
  sorted : token0 < token1
  hasWeth : token0 = getWethAddress ∨ token1 = getWethAddress

namespace WethPool

def isWethToken0 (pool : WethPool) : Bool := pool.token0 = getWethAddress

/-- The token that is not WETH. -/
def other (pool : WethPool) : Address := if pool.isWethToken0 then pool.token1 else pool.token0

/-- WETH is token 0 and comes first, or it is token 1 and comes last. -/
theorem sides (pool : WethPool) :
    pool.isWethToken0 = true ∧ pool.token0 = getWethAddress ∧ pool.other = pool.token1
      ∨ pool.isWethToken0 = false ∧ pool.token1 = getWethAddress ∧ pool.other = pool.token0 := by
  by_cases first : pool.token0 = getWethAddress
  · have side : pool.isWethToken0 = true := decide_eq_true first
    exact Or.inl ⟨side, first, if_pos side⟩
  · have side : pool.isWethToken0 = false := decide_eq_false first
    exact Or.inr ⟨side, pool.hasWeth.resolve_left first, if_neg (by rw [side]; decide)⟩

theorem weth_lt_other (pool : WethPool) :
    decide (getWethAddress < pool.other) = pool.isWethToken0 := by
  have sorted := pool.sorted
  rcases pool.sides with ⟨side, first, other⟩ | ⟨side, second, other⟩
  · rw [side, other, ← first, decide_eq_true sorted]
  · rw [side, other, ← second, decide_eq_false (fun later => BitVec.lt_asymm later sorted)]

theorem other_lt_weth (pool : WethPool) :
    decide (pool.other < getWethAddress) = !pool.isWethToken0 := by
  have sorted := pool.sorted
  rcases pool.sides with ⟨side, first, other⟩ | ⟨side, second, other⟩
  · rw [side, other, ← first, decide_eq_false (fun later => BitVec.lt_asymm later sorted)]
    rfl
  · rw [side, other, ← second, decide_eq_true sorted]
    rfl

end WethPool

/-- The amount a handler decodes is the amount the encoder decodes. -/
theorem packedWord_decode {bytes : ℕ → Byte} {shiftOffset fieldOffset count : ℕ}
    {encoded : EncodedSwapValue} (small : count + encoded.byteShift ≤ 32)
    (shift : (bytes shiftOffset).toNat = (32 - count - encoded.byteShift) * 8)
    (field : window bytes fieldOffset count = encoded.encodedValue) :
    packedWord bytes shiftOffset fieldOffset count = BitVec.ofNat 256 encoded.decode := by
  have value : (packedWord bytes shiftOffset fieldOffset count).toNat
      = window bytes fieldOffset count * 256 ^ encoded.byteShift := toNat_packedWord small shift
  apply BitVec.eq_of_toNat_eq
  rw [BitVec.toNat_ofNat, EncodedSwapValue.decode_eq, ← field, ← value,
    Nat.mod_eq_of_lt (BitVec.isLt _)]

/-- The call value carries a WETH amount, and the contract shifts it back. -/
theorem shiftLeft_callvalue (amount : Word) :
    BitVec.ofNat 256 (amount.toNat / 2 ^ 32) <<< 0x20 = BitVec.ofNat 256 (encodeWeth amount.toNat) := by
  apply BitVec.eq_of_toNat_eq
  rw [BitVec.toNat_shiftLeft, Nat.shiftLeft_eq, ← encodeWeth_eq, BitVec.toNat_ofNat,
    BitVec.toNat_ofNat]

/-! ### The single frontrun -/

/-- What the pool of a frontrun should be called with. -/
def frontrunSwap (keccak : List Byte → Word) (amountIn : Word) (encoded : EncodedSwapValue)
    (pool : WethPool) : V3Swap where
  pool := pool.address
  zeroForOne := pool.isWethToken0
  amountSpecified :=
    if pool.isWethToken0 then 0 - BitVec.ofNat 256 encoded.decode
    else BitVec.ofNat 256 (encodeWeth amountIn.toNat)
  token := getWethAddress
  poolKeyHash := V3.poolKeyHash keccak pool.toPool

/-- The frontrun calls its pool with that and nothing else. -/
def V3FrontrunFaithful (keccak : List Byte → Word) (blockNumber amountIn amountOut : Word)
    (pool : WethPool) : Prop :=
  ∃ payload value encoded,
    V3.createPayloadWethIsInput keccak blockNumber amountIn amountOut getWethAddress pool.other
        pool.toPool = some (payload, value)
      ∧ V3.encodeNumBytes amountOut.toNat 5 = some encoded
      ∧ Makes blockNumber payload value fun self =>
          [(frontrunSwap keccak amountIn encoded pool).call self]

section Frontrun

variable {keccak : List Byte → Word} {blockNumber amountIn amountOut : Word} {pool : WethPool}
  {encoded : EncodedSwapValue}

/-- What the frontrun does: it reads the hash one byte early. -/
theorem frontrun_makes (keccak : List Byte → Word) (blockNumber : Word) (pool : WethPool)
    (smallIn : amountIn.toNat < 2 ^ 128) (smallOut : amountOut.toNat < 2 ^ 128)
    (found : V3.encodeNumBytes amountOut.toNat 5 = some encoded) :
    ∃ payload value,
      V3.createPayloadWethIsInput keccak blockNumber amountIn amountOut getWethAddress pool.other
          pool.toPool = some (payload, value)
        ∧ payload.length < 2 ^ 256
        ∧ wordAt (byteAt payload) 0x1c = V3.poolKeyHash keccak pool.toPool
        ∧ byteAt payload 0x1b = BitVec.ofNat 8 encoded.encodedValue
        ∧ Makes blockNumber payload value fun self =>
          [{ frontrunSwap keccak amountIn encoded pool with
              poolKeyHash := wordAt (byteAt payload) 0x1b }.call self] := by
  obtain ⟨short, -, fits, -⟩ := V3.encodeNumBytes_spec found
  refine ⟨_, _, V3.createPayloadWethIsInput_eq smallIn smallOut found, by simp, ?_, ?_, ?_⟩
  · apply BitVec.eq_of_toNat_eq
    rw [toNat_wordAt]
    simp (disch := simp) only [window_append_right, length_bigEndian, Nat.reduceSub]
    rw [window_bigEndian]
    exact Nat.mod_eq_of_lt (BitVec.isLt _)
  · have inner := window_bigEndian_inner 4 1 0 encoded.encodedValue
    apply BitVec.eq_of_toNat_eq
    rw [← window_one, BitVec.toNat_ofNat]
    simp (disch := simp) only [window_append_right, length_bigEndian, Nat.reduceSub]
    rw [window_append_left (by simp), inner]
    norm_num
  intro world message sends
  have label : (message.data 1).toNat
      = 0x30 + 5 * (V3.swapName false true getWethAddress pool.other).index :=
    sends.label (gate_lt _)
  have address : addressAt message.data 0x02 = pool.address := by
    rw [sends.data_eq]
    simp (disch := simp) only [addressAt_append_right, length_bigEndian, Nat.reduceSub]
    exact addressAt_bigEndian _
  have shift : (message.data 0x16).toNat = (32 - 5 - encoded.byteShift) * 8 := by
    rw [sends.data_eq, ← window_one]
    simp (disch := simp) only [window_append_right, length_bigEndian, Nat.reduceSub]
    exact window_field (by omega)
  have field : window message.data 0x17 5 = encoded.encodedValue := by
    rw [sends.data_eq]
    simp (disch := simp) only [window_append_right, length_bigEndian, Nat.reduceSub]
    exact window_field fits
  have amount : packedWord message.data 0x16 0x17 5 = BitVec.ofNat 256 encoded.decode :=
    packedWord_decode (by omega) shift field
  have spent : message.callvalue <<< 0x20 = BitVec.ofNat 256 (encodeWeth amountIn.toNat) :=
    sends.callvalue ▸ shiftLeft_callvalue amountIn
  rcases pool.sides with ⟨side, -, -⟩ | ⟨side, -, -⟩
  · have name : V3.swapName false true getWethAddress pool.other = .v3Input0 := by
      simp only [V3.swapName, WethPool.weth_lt_other, side]
      rfl
    rw [name] at label
    refine ⟨_, single_executes .v3Input0 sends.authorised label fun behind =>
      v3Input0_attempts ?_⟩
    rw [v3Input0Swap, address, amount, sends.data_eq, ← getWethAddress_eq]
    simp only [frontrunSwap, side, if_true]
  · have name : V3.swapName false true getWethAddress pool.other = .v3Input1 := by
      simp only [V3.swapName, WethPool.weth_lt_other, side]
      rfl
    rw [name] at label
    refine ⟨_, single_executes .v3Input1 sends.authorised label fun behind =>
      v3Input1_attempts ?_⟩
    rw [v3Input1Swap, address, spent, sends.data_eq, ← getWethAddress_eq]
    simp only [frontrunSwap, side]
    rfl

/-- The frontrun is faithful exactly when the misread hash is the hash. -/
theorem frontrun_faithful_iff (smallIn : amountIn.toNat < 2 ^ 127)
    (smallOut : amountOut.toNat < 2 ^ 127)
    (found : V3.encodeNumBytes amountOut.toNat 5 = some encoded) :
    V3FrontrunFaithful keccak blockNumber amountIn amountOut pool
      ↔ ∀ index, index < 32 → byteOf (V3.poolKeyHash keccak pool.toPool) index
          = BitVec.ofNat 8 encoded.encodedValue := by
  obtain ⟨payload, value, built, fits, hash, before, makes⟩ :=
    frontrun_makes keccak blockNumber pool (smallIn.trans (by norm_num)) (smallOut.trans (by norm_num))
      found
  have faithful : V3FrontrunFaithful keccak blockNumber amountIn amountOut pool
      ↔ Makes blockNumber payload value fun self =>
        [(frontrunSwap keccak amountIn encoded pool).call self] := by
    constructor
    · rintro ⟨payload', value', encoded', built', found', makes'⟩
      obtain ⟨rfl, rfl⟩ := Prod.mk.inj (Option.some.inj (built.symm.trans built'))
      obtain rfl := Option.some.inj (found.symm.trans found')
      exact makes'
    · exact fun makes' => ⟨payload, value, encoded, built, found, makes'⟩
  rw [faithful, makes.eq_iff fits]
  have same : (∀ self, [(frontrunSwap keccak amountIn encoded pool).call self]
        = [{ frontrunSwap keccak amountIn encoded pool with
            poolKeyHash := wordAt (byteAt payload) 0x1b }.call self])
      ↔ wordAt (byteAt payload) 0x1b = wordAt (byteAt payload) 0x1c := by
    rw [hash]
    constructor
    · intro calls
      exact (V3Swap.poolKeyHash_of_call (List.cons.inj (calls 0)).1).symm
    · intro early self
      rw [early]
      rfl
  rw [same, ← BitVec.toNat_inj, toNat_wordAt, toNat_wordAt, window_succ_eq_iff, ← hash, before]
  refine forall₂_congr fun index small => ?_
  rw [byteOf_wordAt _ small]

/-- The last byte of the five-byte form of an amount: the fifth byte of the amount itself, or its last
byte when it has fewer. -/
def fifthByte (amount : ℕ) : Byte :=
  BitVec.ofNat 8 (amount / 256 ^ (Nat.log 256 amount - 4))

theorem byteShift_eq_log {amount : ℕ} (found : V3.encodeNumBytes amount 5 = some encoded) :
    encoded.byteShift = Nat.log 256 amount - 4 := by
  obtain ⟨-, quotient, fits, minimal⟩ := V3.encodeNumBytes_spec found
  rw [quotient, Nat.div_lt_iff_lt_mul (by positivity), ← pow_add] at fits
  match shift : encoded.byteShift with
  | 0 =>
    rw [shift] at fits
    have short : Nat.log 256 amount < 5 := Nat.log_lt_of_lt_pow' (by norm_num) fits
    omega
  | earlier + 1 =>
    have long := minimal earlier (by omega)
    rw [Nat.le_div_iff_mul_le (by positivity), ← pow_add] at long
    rw [shift] at fits
    rw [Nat.log_eq_of_pow_le_of_lt_pow long fits]
    omega

/-- The single frontrun is faithful exactly for a pool key hash that repeats one byte, the last one
of the amount it encodes. -/
theorem v3_frontrun_faithful_iff (keccak : List Byte → Word) (blockNumber amountIn amountOut : Word)
    (pool : WethPool) (smallIn : amountIn.toNat < 2 ^ 127) (smallOut : amountOut.toNat < 2 ^ 127) :
    V3FrontrunFaithful keccak blockNumber amountIn amountOut pool
      ↔ ∀ index, index < 32 →
        byteOf (V3.poolKeyHash keccak pool.toPool) index = fifthByte amountOut.toNat := by
  obtain ⟨encoded, found⟩ :=
    V3.encodeNumBytes_isSome (by norm_num : 4 ≤ 5)
      (lt_trans smallOut (by norm_num : 2 ^ 127 < 2 ^ 128))
  obtain ⟨-, quotient, -, -⟩ := V3.encodeNumBytes_spec found
  rw [frontrun_faithful_iff smallIn smallOut found, quotient, byteShift_eq_log found]
  rfl

end Frontrun

/-- The pool of USDC and WETH with a fee of 500. -/
def usdcPool : WethPool where
  address := 0x88e6A0c2dDD26FEEb64F039a2c41296FcB3f5640
  token0 := 0xA0b86991c6218b36c1d19D4a2e9Eb0cE3606eB48
  token1 := getWethAddress
  swapFee := 500
  sorted := by decide
  hasWeth := Or.inr rfl

theorem usdc_poolKeyHash : V3.poolKeyHash usdcKeccak usdcPool.toPool
    = 0x08374668a423750b443f65d645c5693995d43722b42cd84f7eeba28b008a40a2 := by
  rw [V3.poolKeyHash, usdcKeccak, if_pos (by simp)]

/-- The condition, for a frontrun that spends one WETH on two thousand USDC. -/
theorem v3_frontrun_faithful_iff_usdc :
    V3FrontrunFaithful usdcKeccak 17000000 1000000000000000000 2000000000 usdcPool
      ↔ ∀ index, index < 32 → byteOf (V3.poolKeyHash usdcKeccak usdcPool.toPool) index
        = fifthByte (2000000000 : Word).toNat :=
  v3_frontrun_faithful_iff _ _ _ _ _ (by decide) (by decide)

/-- The pool is given the last byte of the amount, zero, and 31 bytes of the hash. -/
theorem v3_frontrun_usdc_not_faithful :
    ¬ V3FrontrunFaithful usdcKeccak 17000000 1000000000000000000 2000000000 usdcPool := by
  have found : V3.encodeNumBytes (2000000000 : Word).toNat 5 = some ⟨2000000000, 63, 0⟩ := by decide
  rw [frontrun_faithful_iff (by decide) (by decide) found, usdc_poolKeyHash]
  intro repeated
  exact absurd (repeated 0 (by norm_num)) (by decide)

/-! ### The single backrun -/

/-- What the pool of a backrun should be called with. -/
def backrunSwap (keccak : List Byte → Word) (amountOut : Word) (encoded : EncodedSwapValue)
    (pool : WethPool) : V3Swap where
  pool := pool.address
  zeroForOne := !pool.isWethToken0
  amountSpecified :=
    if pool.isWethToken0 then BitVec.ofNat 256 encoded.decode
    else 0 - BitVec.ofNat 256 (encodeWeth amountOut.toNat)
  token := pool.other
  poolKeyHash := V3.poolKeyHash keccak pool.toPool

/-- The backrun calls its pool with that and nothing else. -/
def V3BackrunFaithful (keccak : List Byte → Word) (blockNumber amountIn amountOut : Word)
    (pool : WethPool) : Prop :=
  ∃ payload value encoded,
    V3.createPayloadWethIsOutput keccak blockNumber amountIn amountOut pool.other getWethAddress
        pool.toPool = some (payload, value)
      ∧ V3.encodeNumBytes amountIn.toNat 5 = some encoded
      ∧ Makes blockNumber payload value fun self =>
          [(backrunSwap keccak amountOut encoded pool).call self]

/-- A deployed pool that hands its data back is paid in the other token: the amount it asks for on
its input side, and nothing else happens. -/
def V3BackrunPays (keccak : List Byte → Word) (amountIn amountOut : Word) (pool : WethPool) : Prop :=
  ∀ encoded self world message delta0 delta1,
    V3.encodeNumBytes amountIn.toNat 5 = some encoded → world.keccak = keccak
      → IsPoolOf factories keccak pool.address (V3.poolKeyHash keccak pool.toPool)
      → message.caller = pool.address
      → message.CallsBack ((backrunSwap keccak amountOut encoded pool).input self) delta0 delta1
      → ∃ halt, (sandwich world message).Executes ⟨halt, [erc20Transfer pool.other pool.address
          (if pool.isWethToken0 then delta1 else delta0).toNat]⟩

section Backrun

variable {keccak : List Byte → Word} {blockNumber amountIn amountOut : Word} {pool : WethPool}
  {encoded : EncodedSwapValue}

/-- What the backrun does is what it should do. -/
theorem v3_backrun_makes (keccak : List Byte → Word) (blockNumber : Word) (pool : WethPool)
    (smallIn : amountIn.toNat < 2 ^ 128) (smallOut : amountOut.toNat < 2 ^ 128)
    (found : V3.encodeNumBytes amountIn.toNat 5 = some encoded) :
    ∃ payload value,
      V3.createPayloadWethIsOutput keccak blockNumber amountIn amountOut pool.other getWethAddress
          pool.toPool = some (payload, value)
        ∧ Makes blockNumber payload value fun self =>
          [(backrunSwap keccak amountOut encoded pool).call self] := by
  obtain ⟨short, -, fits, -⟩ := V3.encodeNumBytes_spec found
  refine ⟨_, _, V3.createPayloadWethIsOutput_eq smallIn smallOut found, ?_⟩
  intro world message sends
  have label : (message.data 1).toNat
      = 0x30 + 5 * (V3.swapName false false pool.other getWethAddress).index :=
    sends.label (gate_lt _)
  have address : addressAt message.data 0x02 = pool.address := by
    rw [sends.data_eq]
    simp (disch := simp) only [addressAt_append_right, length_bigEndian, Nat.reduceSub]
    exact addressAt_bigEndian _
  have shift : (message.data 0x16).toNat = (32 - 5 - encoded.byteShift) * 8 := by
    rw [sends.data_eq, ← window_one]
    simp (disch := simp) only [window_append_right, length_bigEndian, Nat.reduceSub]
    exact window_field (by omega)
  have field : window message.data 0x17 5 = encoded.encodedValue := by
    rw [sends.data_eq]
    simp (disch := simp) only [window_append_right, length_bigEndian, Nat.reduceSub]
    exact window_field fits
  have token : addressAt message.data 0x1c = pool.other := by
    rw [sends.data_eq]
    simp (disch := simp) only [addressAt_append_right, length_bigEndian, Nat.reduceSub]
    exact addressAt_bigEndian _
  have hash : wordAt message.data 0x30 = V3.poolKeyHash keccak pool.toPool := by
    apply BitVec.eq_of_toNat_eq
    rw [toNat_wordAt, sends.data_eq]
    simp (disch := simp) only [window_append_right, length_bigEndian, Nat.reduceSub]
    rw [window_bigEndian]
    exact Nat.mod_eq_of_lt (BitVec.isLt _)
  have amount : packedWord message.data 0x16 0x17 5 = BitVec.ofNat 256 encoded.decode :=
    packedWord_decode (by omega) shift field
  have taken : message.callvalue <<< 0x20 = BitVec.ofNat 256 (encodeWeth amountOut.toNat) :=
    sends.callvalue ▸ shiftLeft_callvalue amountOut
  rcases pool.sides with ⟨side, -, -⟩ | ⟨side, -, -⟩
  · have name : V3.swapName false false pool.other getWethAddress = .v3Output0 := by
      simp only [V3.swapName, WethPool.other_lt_weth, side]
      rfl
    rw [name] at label
    refine ⟨_, single_executes .v3Output0 sends.authorised label fun behind =>
      v3Output0_attempts ?_⟩
    rw [v3Output0Swap, address, amount, token, hash]
    simp only [backrunSwap, side]
    rfl
  · have name : V3.swapName false false pool.other getWethAddress = .v3Output1 := by
      simp only [V3.swapName, WethPool.other_lt_weth, side]
      rfl
    rw [name] at label
    refine ⟨_, single_executes .v3Output1 sends.authorised label fun behind =>
      v3Output1_attempts ?_⟩
    rw [v3Output1Swap, address, taken, token, hash]
    simp only [backrunSwap, side]
    rfl

theorem backrun_faithful (smallIn : amountIn.toNat < 2 ^ 127) (smallOut : amountOut.toNat < 2 ^ 127)
    (found : V3.encodeNumBytes amountIn.toNat 5 = some encoded) :
    V3BackrunFaithful keccak blockNumber amountIn amountOut pool := by
  obtain ⟨payload, value, built, makes⟩ := v3_backrun_makes keccak blockNumber pool
    (smallIn.trans (by norm_num)) (smallOut.trans (by norm_num)) found
  exact ⟨payload, value, encoded, built, found, makes⟩

/-- The single backrun is faithful, and its callback pays the pool. -/
theorem v3_backrun_faithful (keccak : List Byte → Word) (blockNumber amountIn amountOut : Word)
    (pool : WethPool) (smallIn : amountIn.toNat < 2 ^ 127) (smallOut : amountOut.toNat < 2 ^ 127) :
    V3BackrunFaithful keccak blockNumber amountIn amountOut pool
      ∧ V3BackrunPays keccak amountIn amountOut pool := by
  obtain ⟨encoded, found⟩ :=
    V3.encodeNumBytes_isSome (by norm_num : 4 ≤ 5)
      (lt_trans smallIn (by norm_num : 2 ^ 127 < 2 ^ 128))
  refine ⟨backrun_faithful smallIn smallOut found, ?_⟩
  intro encoded self world message delta0 delta1 _ hashes deployed caller callsBack
  have authentic : IsPoolOf factories world.keccak message.caller
      (backrunSwap keccak amountOut encoded pool).poolKeyHash := by
    rw [hashes, caller]
    exact deployed
  obtain ⟨halt, executes⟩ := callsBack_executes callsBack authentic
  have amount : (if (backrunSwap keccak amountOut encoded pool).zeroForOne then delta0 else delta1)
      = if pool.isWethToken0 then delta1 else delta0 := by
    unfold backrunSwap
    cases pool.isWethToken0 <;> rfl
  rw [caller, amount] at executes
  exact ⟨halt, executes⟩

end Backrun

theorem v3_backrun_faithful_usdc :
    V3BackrunFaithful usdcKeccak 17000000 2000000000 1000000000000000000 usdcPool
      ∧ ∃ halt, (sandwich ⟨usdcKeccak, fun _ => ⟨true, []⟩, fun _ => 0, 0⟩ usdcCallback).Executes
        ⟨halt, [erc20Transfer 0xA0b86991c6218b36c1d19D4a2e9Eb0cE3606eB48
          0x88e6A0c2dDD26FEEb64F039a2c41296FcB3f5640 2000000000]⟩ := by
  obtain ⟨faithful, pays⟩ := v3_backrun_faithful usdcKeccak 17000000 2000000000
    1000000000000000000 usdcPool (by decide) (by decide)
  have deployed : IsPoolOf factories usdcKeccak usdcPool.address
      (V3.poolKeyHash usdcKeccak usdcPool.toPool) := by
    refine ⟨uniswapFactory, List.mem_cons_self, ?_⟩
    rw [poolAddress, usdcKeccak, if_neg (by simp)]
    decide
  have swap : backrunSwap usdcKeccak 1000000000000000000 ⟨2000000000, 63, 0⟩ usdcPool
      = ⟨usdcPool.address, true, 0 - 999999997191651328, usdcPool.token0,
        0x08374668a423750b443f65d645c5693995d43722b42cd84f7eeba28b008a40a2⟩ := by
    rw [backrunSwap, usdc_poolKeyHash]
    decide
  refine ⟨faithful, pays ⟨2000000000, 63, 0⟩ 1 _ usdcCallback 2000000000
    (0 - 1000000000000000000) (by decide) rfl deployed rfl ⟨rfl, by decide, 0xfa461e33,
      List.replicate 11 0, ?_⟩⟩
  rw [swap, V3Swap.input, dynamicArgument_poolSwapInput (by simp [poolData])]
  simp [usdcCallback, poolData, usdcPool]

end Sando.RoundTrip
