/-
From a V2 payload builder through the contract to the calls.

The builders and the handlers agree on a layout that neither of them states. Each theorem composes the
two: what the builder is given is what the pair is called with. The single frontrun is faithful. The
single backrun pays the right amount, but when WETH is token 1 the low four bytes of that amount stay
in memory and end up in the amount of WETH it takes (`backrun_makes`).
-/

import Sando.Huff.V2
import Sando.RoundTrip.Makes
import Sando.TxBuilder.V2

namespace Sando.RoundTrip

open Sando.Evm Sando.Evm.Context Sando.Huff Sando.TxBuilder

theorem getWethAddress_eq : getWethAddress = wethAddress := by decide

section Amounts

variable {amount : ℕ} {isWethToken0 : Bool} {encoded : EncodedSwapValue}

/-- The offset the builder computes for a frontrun is the one the handler stores at. -/
theorem input_memOffset
    (found : V2.encodeFourBytes amount true isWethToken0 = some encoded) :
    encoded.memOffset + encoded.byteShift = otherOffset isWethToken0 := by
  obtain ⟨-, -, -, place, -⟩ := V2.encodeFourBytes_spec found
  rw [place, otherOffset]
  cases isWethToken0 <;> rfl

/-- The offset of a backrun does not depend on the side of WETH. -/
theorem output_memOffset
    (found : V2.encodeFourBytes amount false isWethToken0 = some encoded) :
    encoded.memOffset + encoded.byteShift = 0x40 := by
  obtain ⟨-, -, -, place, -⟩ := V2.encodeFourBytes_spec found
  exact place

theorem encodeWeth_eq (amount : Word) :
    (BitVec.ofNat 256 (amount.toNat / 2 ^ 32)).toNat * 2 ^ 32 = encodeWeth amount.toNat := by
  have bound := amount.isLt
  rw [toNat_ofNat_of_lt (by omega)]
  rfl

/-- The call value of a WETH amount leaves 32 bits free. -/
theorem callvalue_lt (amount : Word) :
    (BitVec.ofNat 256 (amount.toNat / 2 ^ 32)).toNat < 2 ^ 224 := by
  have bound := amount.isLt
  rw [BitVec.toNat_ofNat]
  omega

end Amounts

/-! ### The single frontrun -/

/-- The frontrun pays the rounded WETH amount and takes the decoded amount of the other token. -/
def V2FrontrunFaithful (blockNumber amountIn amountOut : Word) (otherToken : Address) (pair : Pool) :
    Prop :=
  ∃ payload value bought,
    V2.createPayloadWethIsInput blockNumber amountIn amountOut otherToken pair = some (payload, value)
    ∧ V2.decodeIntermediary amountOut.toNat true otherToken = some bought
    ∧ Makes blockNumber payload value fun self =>
        v2Frontrun self pair.address (getWethAddress < otherToken) (encodeWeth amountIn.toNat) bought

/-- Every single frontrun is faithful. -/
theorem v2_frontrun_faithful (blockNumber amountIn amountOut : Word) (otherToken : Address)
    (pair : Pool) (small : amountOut.toNat < 2 ^ 128) :
    V2FrontrunFaithful blockNumber amountIn amountOut otherToken pair := by
  obtain ⟨encoded, found⟩ := V2.encodeFourBytes_isSome true (getWethAddress < otherToken) small
  obtain ⟨short, -, fits, -, -⟩ := V2.encodeFourBytes_spec found
  have place := input_memOffset found
  have low : encoded.memOffset ≤ 0x40 := by
    rw [otherOffset] at place
    split at place <;> omega
  refine ⟨_, _, encoded.decode, V2.createPayloadWethIsInput_eq found, ?_, ?_⟩
  · rw [V2.decodeIntermediary, found]
    rfl
  intro world message sends
  have label : (message.data 1).toNat = 0x30 := sends.label (by norm_num)
  have offset : (message.data 2).toNat = encoded.memOffset := by
    rw [sends.data_eq, ← window_one]
    simp (disch := simp) only [window_append_right, length_bigEndian, Nat.reduceSub]
    exact window_field (by omega)
  have address : addressAt message.data 3 = pair.address := by
    rw [sends.data_eq]
    simp (disch := simp) only [addressAt_append_right, length_bigEndian, Nat.reduceSub]
    exact addressAt_bigEndian _
  have field : window message.data 0x17 32 = encoded.encodedValue * 256 ^ 28 := by
    rw [sends.data_eq]
    simp (disch := simp) only [window_append_right, length_bigEndian, Nat.reduceSub]
    exact window_last_field (by omega) (by norm_num)
  have spent : message.callvalue.toNat % 2 ^ 224 * 2 ^ 32 = encodeWeth amountIn.toNat := by
    rw [sends.callvalue, Nat.mod_eq_of_lt (callvalue_lt amountIn), encodeWeth_eq]
  refine ⟨_, single_executes .v2InputSingle sends.authorised label fun behind =>
    v2InputSingle_attempts field (offset ▸ place) (by omega) ?_⟩
  rw [address, spent, EncodedSwapValue.decode_eq]

/-- A frontrun that buys USDC. -/
theorem v2_frontrun_faithful_usdc :
    V2FrontrunFaithful 17000000 1000000000000000000 1800000000
      0xA0b86991c6218b36c1d19D4a2e9Eb0cE3606eB48
      ⟨0x397FF1542f962076d0BFE58eA045FfA2d347ACa0, 0xA0b86991c6218b36c1d19D4a2e9Eb0cE3606eB48,
        getWethAddress, 3000⟩ :=
  v2_frontrun_faithful _ _ _ _ _ (by decide)

/-! ### The single backrun -/

/-- The backrun pays the decoded amount of the other token and takes the rounded WETH amount. -/
def V2BackrunFaithful (blockNumber amountIn amountOut : Word) (otherToken : Address) (pair : Pool) :
    Prop :=
  ∃ payload value encoded,
    V2.createPayloadWethIsOutput blockNumber amountIn amountOut otherToken pair
      = some (payload, value)
    ∧ V2.encodeFourBytes amountIn.toNat false (getWethAddress < otherToken) = some encoded
    ∧ Makes blockNumber payload value fun self =>
        v2Backrun self pair.address otherToken (getWethAddress < otherToken) encoded.decode
          (encodeWeth amountOut.toNat)

/-- What the backrun does: for WETH as token 1 the amount it takes also holds the low four bytes of
the amount it paid. -/
theorem backrun_completes (blockNumber amountIn amountOut : Word) (otherToken : Address) (pair : Pool)
    {encoded : EncodedSwapValue}
    (found : V2.encodeFourBytes amountIn.toNat false (getWethAddress < otherToken) = some encoded) :
    ∃ payload value,
      V2.createPayloadWethIsOutput blockNumber amountIn amountOut otherToken pair
        = some (payload, value)
      ∧ payload.length < 2 ^ 256
      ∧ Completes blockNumber payload value fun self =>
          v2Backrun self pair.address otherToken (getWethAddress < otherToken) encoded.decode
            (encodeWeth amountOut.toNat
              + if getWethAddress < otherToken then 0 else encoded.decode % 2 ^ 32) := by
  obtain ⟨short, -, fits, -, -⟩ := V2.encodeFourBytes_spec found
  have place := output_memOffset found
  refine ⟨_, _, V2.createPayloadWethIsOutput_eq found, by simp, ?_⟩
  intro world message sends
  have label : (message.data 1).toNat
      = 0x30 + 5 * (V2.swapName false false false otherToken).index :=
    sends.label (gate_lt _)
  have offset : (message.data 2).toNat = encoded.memOffset := by
    rw [sends.data_eq, ← window_one]
    simp (disch := simp) only [window_append_right, length_bigEndian, Nat.reduceSub]
    exact window_field (by omega)
  have address : addressAt message.data 3 = pair.address := by
    rw [sends.data_eq]
    simp (disch := simp) only [addressAt_append_right, length_bigEndian, Nat.reduceSub]
    exact addressAt_bigEndian _
  have token : addressAt message.data 0x17 = otherToken := by
    rw [sends.data_eq]
    simp (disch := simp) only [addressAt_append_right, length_bigEndian, Nat.reduceSub]
    exact addressAt_bigEndian _
  have field : window message.data 0x2b 32 = encoded.encodedValue * 256 ^ 28 := by
    rw [sends.data_eq]
    simp (disch := simp) only [window_append_right, length_bigEndian, Nat.reduceSub]
    exact window_last_field (by omega) (by norm_num)
  have room : message.callvalue.toNat < 2 ^ 224 := by
    rw [sends.callvalue]
    exact callvalue_lt amountOut
  have taken : message.callvalue.toNat * 2 ^ 32 = encodeWeth amountOut.toNat := by
    rw [sends.callvalue, encodeWeth_eq]
  by_cases side : getWethAddress < otherToken
  · have name : V2.swapName false false false otherToken = .v2Output0Single := by
      simp [V2.swapName, side]
    rw [name] at label
    refine single_executes .v2Output0Single sends.authorised label fun behind =>
      v2Output0Single_attempts field (offset ▸ place) (by omega) room ?_
    rw [address, token, taken, decide_eq_true side, if_pos side, Nat.add_zero,
      EncodedSwapValue.decode_eq]
  · have name : V2.swapName false false false otherToken = .v2Output1Single := by
      simp [V2.swapName, side]
    rw [name] at label
    refine single_executes .v2Output1Single sends.authorised label fun behind =>
      v2Output1Single_attempts field (offset ▸ place) (by omega) room ?_
    rw [address, token, taken, decide_eq_false side, if_neg side, EncodedSwapValue.decode_eq]

theorem backrun_makes (blockNumber amountIn amountOut : Word) (otherToken : Address) (pair : Pool)
    {encoded : EncodedSwapValue}
    (found : V2.encodeFourBytes amountIn.toNat false (getWethAddress < otherToken) = some encoded) :
    ∃ payload value,
      V2.createPayloadWethIsOutput blockNumber amountIn amountOut otherToken pair
        = some (payload, value)
      ∧ payload.length < 2 ^ 256
      ∧ Makes blockNumber payload value fun self =>
          v2Backrun self pair.address otherToken (getWethAddress < otherToken) encoded.decode
            (encodeWeth amountOut.toNat
              + if getWethAddress < otherToken then 0 else encoded.decode % 2 ^ 32) := by
  obtain ⟨payload, value, built, fits, completes⟩ :=
    backrun_completes blockNumber amountIn amountOut otherToken pair found
  exact ⟨payload, value, built, fits, completes.makes⟩

/-- The backrun is faithful exactly when nothing of the amount paid can end up in the amount taken. -/
theorem backrun_faithful_iff (blockNumber amountIn amountOut : Word) (otherToken : Address)
    (pair : Pool) {encoded : EncodedSwapValue}
    (found : V2.encodeFourBytes amountIn.toNat false (getWethAddress < otherToken) = some encoded) :
    V2BackrunFaithful blockNumber amountIn amountOut otherToken pair
      ↔ getWethAddress < otherToken ∨ encoded.decode % 2 ^ 32 = 0 := by
  obtain ⟨payload, value, built, fits, makes⟩ :=
    backrun_makes blockNumber amountIn amountOut otherToken pair found
  have faithful : V2BackrunFaithful blockNumber amountIn amountOut otherToken pair
      ↔ Makes blockNumber payload value fun self =>
        v2Backrun self pair.address otherToken (getWethAddress < otherToken) encoded.decode
          (encodeWeth amountOut.toNat) := by
    constructor
    · rintro ⟨payload', value', encoded', built', found', makes'⟩
      obtain ⟨rfl, rfl⟩ := Prod.mk.inj (Option.some.inj (built.symm.trans built'))
      obtain rfl := Option.some.inj (found.symm.trans found')
      exact makes'
    · exact fun makes' => ⟨payload, value, encoded, built, found, makes'⟩
  have small : encodeWeth amountOut.toNat + encoded.decode % 2 ^ 32 < 2 ^ 256 := by
    have bound := amountOut.isLt
    rw [encodeWeth, getWethEncodeDivisor]
    omega
  rw [faithful, makes.eq_iff fits]
  by_cases side : getWethAddress < otherToken
  · simp [side]
  · rw [if_neg side, decide_eq_false side]
    constructor
    · intro same
      have swap := (List.cons.inj (List.cons.inj (same 0)).2).1
      have amounts := pairSwap_amount1 swap (by omega) small
      exact Or.inr (by omega)
    · rintro (impossible | clear) self
      · exact absurd impossible side
      · rw [clear, Nat.add_zero]

/-- The amounts whose four-byte form ends in four zero bytes: large ones, and smaller ones that are
close above a multiple of `2 ^ 32`. -/
def LowBytesClear (amount : ℕ) : Prop :=
  2 ^ 31 < amount ∧ amount % 2 ^ 32 < 2 ^ 8
    ∨ 2 ^ 39 + 2 ^ 8 ≤ amount ∧ amount % 2 ^ 32 < 2 ^ 16
    ∨ 2 ^ 47 + 2 ^ 16 ≤ amount ∧ amount % 2 ^ 32 < 2 ^ 24
    ∨ 2 ^ 55 + 2 ^ 24 ≤ amount

theorem decode_clear_iff {amount : ℕ} {isWethInput isWethToken0 : Bool}
    {encoded : EncodedSwapValue} (nonzero : amount ≠ 0)
    (found : V2.encodeFourBytes amount isWethInput isWethToken0 = some encoded) :
    encoded.decode % 2 ^ 32 = 0 ↔ LowBytesClear amount := by
  obtain ⟨-, quotient, fits, -, minimal⟩ := V2.encodeFourBytes_spec found
  obtain ⟨value, offset, shift⟩ := encoded
  rw [EncodedSwapValue.decode_eq, LowBytesClear]
  simp only at quotient fits minimal ⊢
  subst quotient
  match shift, minimal with
  | 0, _ => omega
  | 1, minimal =>
    have above := minimal 0 (by norm_num)
    omega
  | 2, minimal =>
    have above := minimal 1 (by norm_num)
    omega
  | 3, minimal =>
    have above := minimal 2 (by norm_num)
    omega
  | shift + 4, minimal =>
    have above := minimal 3 (by omega)
    have multiple : amount / 256 ^ (shift + 4) * 256 ^ (shift + 4) % 2 ^ 32 = 0 := by
      rw [pow_add, ← Nat.mul_assoc, show (256 : ℕ) ^ 4 = 2 ^ 32 by norm_num, Nat.mul_mod_left]
    rw [multiple]
    exact iff_of_true rfl (by omega)

/-- The single backrun is faithful for WETH as token 0, and for amounts whose four-byte form ends in
four zero bytes. -/
theorem v2_backrun_faithful_iff (blockNumber amountIn amountOut : Word) (otherToken : Address)
    (pair : Pool) (nonzero : amountIn.toNat ≠ 0) (small : amountIn.toNat < 2 ^ 128) :
    V2BackrunFaithful blockNumber amountIn amountOut otherToken pair
      ↔ getWethAddress < otherToken ∨ LowBytesClear amountIn.toNat := by
  obtain ⟨encoded, found⟩ := V2.encodeFourBytes_isSome false (getWethAddress < otherToken) small
  rw [backrun_faithful_iff _ _ _ _ _ found, decode_clear_iff nonzero found]

/-- The condition, for a backrun that sells two thousand USDC. -/
theorem v2_backrun_faithful_iff_usdc :
    V2BackrunFaithful 17000000 2000000000 1000000000000000000
        0xA0b86991c6218b36c1d19D4a2e9Eb0cE3606eB48
        ⟨0x397FF1542f962076d0BFE58eA045FfA2d347ACa0, 0xA0b86991c6218b36c1d19D4a2e9Eb0cE3606eB48,
          getWethAddress, 3000⟩
      ↔ getWethAddress < (0xA0b86991c6218b36c1d19D4a2e9Eb0cE3606eB48 : Address)
        ∨ LowBytesClear 2000000000 :=
  v2_backrun_faithful_iff _ _ _ _ _ (by decide) (by decide)

/-- Two thousand USDC are two billion units, which is a four-byte value as it stands: all of it stays
behind in the amount of WETH. -/
theorem v2_backrun_usdc_not_faithful :
    ¬ V2BackrunFaithful 17000000 2000000000 1000000000000000000
        0xA0b86991c6218b36c1d19D4a2e9Eb0cE3606eB48
        ⟨0x397FF1542f962076d0BFE58eA045FfA2d347ACa0, 0xA0b86991c6218b36c1d19D4a2e9Eb0cE3606eB48,
          getWethAddress, 3000⟩ := by
  have found : V2.encodeFourBytes (2000000000 : Word).toNat false
      (getWethAddress < (0xA0b86991c6218b36c1d19D4a2e9Eb0cE3606eB48 : Address))
        = some ⟨2000000000, 64, 0⟩ := by decide
  rw [backrun_faithful_iff _ _ _ _ _ found]
  decide

end Sando.RoundTrip
