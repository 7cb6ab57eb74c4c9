/-
Payloads for V2 pairs.

The four builders of `SandwichLogicV2` and the functions they use. Amounts and block numbers are `U256`
words; an address is compared as a number. A result is the payload and the call value, `none` when the
builder panics.
-/

import Sando.Huff.Sandwich
import Sando.TxBuilder.EncodePacked
import Sando.TxBuilder.SwapValue

namespace Sando.TxBuilder.V2

open Sando.Evm
open Sando.Huff (Handler)

/-! ### Jump labels -/

def jumpLabelNamesSingle : List Handler := [.v2InputSingle, .v2Output0Single, .v2Output1Single]

def jumpLabelNamesMulti : List Handler :=
  [.v2InputMultiFirst, .v2InputMultiNext, .v2OutputMultiFirst, .v2OutputMultiNext]

/-- The map from names to labels, filled in steps of five. -/
def jumpLabels : List (Handler × ℕ) :=
  (jumpLabelNamesSingle.mapIdx fun x name => (name, 48 + 5 * x))
    ++ jumpLabelNamesMulti.mapIdx fun x name => (name, 83 + 5 * x)

/-- The name of the label for a kind of swap. -/
def swapName (isMultiple isFirstOfPayload isWethInput : Bool) (otherTokenAddr : Address) : Handler :=
  if isMultiple then
    match isFirstOfPayload, isWethInput with
    | true, true => .v2InputMultiFirst
    | false, true => .v2InputMultiNext
    | true, false => .v2OutputMultiFirst
    | false, false => .v2OutputMultiNext
  else
    match isWethInput, decide (getWethAddress < otherTokenAddr) with
    | true, _ => .v2InputSingle
    | false, true => .v2Output0Single
    | false, false => .v2Output1Single

/-- The label for a kind of swap. -/
def findSwapType (isMultiple isFirstOfPayload isWethInput : Bool) (otherTokenAddr : Address) :
    Option ℕ :=
  jumpLabels.lookup (swapName isMultiple isFirstOfPayload isWethInput otherTokenAddr)

/-- The builder knows the labels of the contract. -/
theorem findSwapType_eq (isMultiple isFirstOfPayload isWethInput : Bool) (otherTokenAddr : Address) :
    findSwapType isMultiple isFirstOfPayload isWethInput otherTokenAddr
      = some (0x30 + 5 * (swapName isMultiple isFirstOfPayload isWethInput otherTokenAddr).index) := by
  unfold findSwapType swapName
  cases isMultiple <;> cases isFirstOfPayload <;> cases isWethInput <;>
    cases decide (getWethAddress < otherTokenAddr) <;> rfl

/-! ### Amounts -/

/-- Encode the swap value into 4 bytes. The offset counts from the start of the call: the amount
ends where its ABI word ends. -/
def encodeFourBytes (amount : ℕ) (isWethInput isWethToken0 : Bool) : Option EncodedSwapValue := do
  let (fourByteEncodedValue, byteShift) ← findShift (fun encoded => encoded ≤ 2 ^ (4 * 8 - 1)) amount
  match isWethInput, isWethToken0 with
  | false, _ => some ⟨fourByteEncodedValue, 64 - byteShift, byteShift⟩
  | true, true => some ⟨fourByteEncodedValue, 64 - byteShift, byteShift⟩
  | true, false => some ⟨fourByteEncodedValue, 32 - byteShift, byteShift⟩

/-- Encode the swap value into 5 bytes. -/
def encodeFiveBytes (amount : ℕ) (isWethToken0 : Bool) : Option EncodedSwapValue := do
  let (fiveByteEncodedValue, byteShift) ← findShift (fun encoded => encoded ≤ 2 ^ (5 * 8 - 1)) amount
  some ⟨fiveByteEncodedValue, (if isWethToken0 then 68 else 100) - byteShift, byteShift⟩

/-- The amount of a backrun, with some dust kept on the contract. -/
def encodeIntermediaryToken (amountIn : ℕ) (isWethInput : Bool) (intermediaryAddress : Address) :
    Option ℕ := do
  let backrunIn ← encodeFourBytes amountIn isWethInput (getWethAddress < intermediaryAddress)
  if backrunIn.encodedValue = 0 then none
  else some { backrunIn with encodedValue := backrunIn.encodedValue - 1 }.decode

/-- The real amount after encoding and decoding. -/
def decodeIntermediary (amountIn : ℕ) (isWethInput : Bool) (intermediaryAddress : Address) :
    Option ℕ := do
  let encoded ← encodeFourBytes amountIn isWethInput (getWethAddress < intermediaryAddress)
  some encoded.decode

section Encoding

variable {amount : ℕ} {isWethInput isWethToken0 : Bool} {encoded : EncodedSwapValue}

/-- A four-byte value is the amount without its low bytes, and its offset leaves room for them. No
smaller shift would do. -/
theorem encodeFourBytes_spec
    (found : encodeFourBytes amount isWethInput isWethToken0 = some encoded) :
    encoded.byteShift ≤ 15 ∧ encoded.encodedValue = amount / 256 ^ encoded.byteShift
      ∧ encoded.encodedValue ≤ 2 ^ 31
      ∧ encoded.memOffset + encoded.byteShift
        = (if isWethInput && !isWethToken0 then 0x20 else 0x40)
      ∧ ∀ earlier, earlier < encoded.byteShift → 2 ^ 31 < amount / 256 ^ earlier := by
  rw [encodeFourBytes, Option.bind_eq_bind, Option.bind_eq_some_iff] at found
  obtain ⟨⟨value, shift⟩, search, built⟩ := found
  obtain ⟨small, quotient, fitting, minimal⟩ := findShift_spec search
  have fits : value ≤ 2 ^ 31 := of_decide_eq_true fitting
  have least : ∀ earlier, earlier < shift → 2 ^ 31 < amount / 256 ^ earlier := fun earlier before =>
    not_le.mp (of_decide_eq_false (minimal earlier before))
  cases isWethInput <;> cases isWethToken0 <;> obtain rfl := Option.some.inj built <;>
    exact ⟨small, quotient, fits, by simp; omega, least⟩

/-- Amounts below `2 ^ 128` have a four-byte value. -/
theorem encodeFourBytes_isSome (isWethInput isWethToken0 : Bool) (small : amount < 2 ^ 128) :
    ∃ encoded, encodeFourBytes amount isWethInput isWethToken0 = some encoded := by
  have fitting : decide (amount / 256 ^ 13 ≤ 2 ^ (4 * 8 - 1)) = true := by
    rw [decide_eq_true_iff]
    omega
  obtain ⟨⟨value, shift⟩, search⟩ := Option.isSome_iff_exists.mp
    (findShift_isSome (fun encoded => encoded ≤ 2 ^ (4 * 8 - 1)) (by norm_num) fitting)
  rw [encodeFourBytes, search]
  cases isWethInput <;> cases isWethToken0 <;> exact ⟨_, rfl⟩

end Encoding

/-! ### Payloads -/

/-- One swap, WETH is the input. -/
def createPayloadWethIsInput (blockNumber amountIn amountOut : Word) (otherToken : Address)
    (pair : Pool) : Option (List Byte × Word) := do
  let encodedSwapValue ← encodeFourBytes amountOut.toNat true (getWethAddress < otherToken)
  let swapType ← findSwapType false false true otherToken
  let payload := encodePacked [
    .numberWithShift blockNumber ⟨8, fits_8⟩,
    packed swapType ⟨8, fits_8⟩,
    packed encodedSwapValue.memOffset ⟨8, fits_8⟩,
    .address pair.address,
    packed encodedSwapValue.encodedValue ⟨32, fits_32⟩]
  let encodedCallValue := BitVec.ofNat 256 (amountIn.toNat / getWethEncodeDivisor)
  some (payload, encodedCallValue)

/-- One swap, WETH is the output. -/
def createPayloadWethIsOutput (blockNumber amountIn amountOut : Word) (otherToken : Address)
    (pair : Pool) : Option (List Byte × Word) := do
  let encodedSwapValue ← encodeFourBytes amountIn.toNat false (getWethAddress < otherToken)
  let swapType ← findSwapType false false false otherToken
  let payload := encodePacked [
    .numberWithShift blockNumber ⟨8, fits_8⟩,
    packed swapType ⟨8, fits_8⟩,
    packed encodedSwapValue.memOffset ⟨8, fits_8⟩,
    .address pair.address,
    .address otherToken,
    packed encodedSwapValue.encodedValue ⟨32, fits_32⟩]
  let encodedCallValue := BitVec.ofNat 256 (amountOut.toNat / getWethEncodeDivisor)
  some (payload, encodedCallValue)

/-- One of several swaps, WETH is the input. -/
def createMultiPayloadWethIsInput (blockNumber amountIn amountOut : Word) (otherToken : Address)
    (pair : Pool) (isFirst : Bool) : Option (List Byte × Word) := do
  let encodedAmountOutSwapValue ← encodeFourBytes amountOut.toNat true (getWethAddress < otherToken)
  let swapType ← findSwapType true isFirst true otherToken
  let encodedAmountIn := amountIn.toNat / getWethEncodeDivisor
  if isFirst then
    let payload := encodePacked [
      .numberWithShift blockNumber ⟨8, fits_8⟩,
      packed swapType ⟨8, fits_8⟩,
      packed encodedAmountOutSwapValue.memOffset ⟨8, fits_8⟩,
      .address pair.address,
      packed encodedAmountOutSwapValue.encodedValue ⟨32, fits_32⟩]
    some (payload, BitVec.ofNat 256 encodedAmountIn)
  else
    let payload := encodePacked [
      .numberWithShift blockNumber ⟨8, fits_8⟩,
      packed swapType ⟨8, fits_8⟩,
      packed encodedAmountOutSwapValue.memOffset ⟨8, fits_8⟩,
      .address pair.address,
      packed encodedAmountOutSwapValue.encodedValue ⟨32, fits_32⟩,
      packed encodedAmountIn ⟨40, fits_40⟩]
    some (payload, 0)

/-- One of several swaps, WETH is the output. -/
def createMultiPayloadWethIsOutput (blockNumber amountIn amountOut : Word) (otherToken : Address)
    (pair : Pool) (isFirst : Bool) : Option (List Byte × Word) := do
  let encodedAmountOutSwapValue ← encodeFiveBytes amountOut.toNat (getWethAddress < otherToken)
  let swapType ← findSwapType true isFirst false otherToken
  let encodedAmountInSwapValue ← encodeFourBytes amountIn.toNat false (getWethAddress < otherToken)
  if isFirst then
    let payload := encodePacked [
      .numberWithShift blockNumber ⟨8, fits_8⟩,
      packed swapType ⟨8, fits_8⟩,
      packed encodedAmountInSwapValue.memOffset ⟨8, fits_8⟩,
      .address pair.address,
      .address otherToken,
      packed encodedAmountInSwapValue.encodedValue ⟨32, fits_32⟩,
      packed encodedAmountOutSwapValue.memOffset ⟨8, fits_8⟩]
    some (payload, BitVec.ofNat 256 encodedAmountOutSwapValue.encodedValue)
  else
    let payload := encodePacked [
      .numberWithShift blockNumber ⟨8, fits_8⟩,
      packed swapType ⟨8, fits_8⟩,
      packed encodedAmountInSwapValue.memOffset ⟨8, fits_8⟩,
      .address pair.address,
      .address otherToken,
      packed encodedAmountInSwapValue.encodedValue ⟨32, fits_32⟩,
      packed encodedAmountOutSwapValue.encodedValue ⟨40, fits_40⟩,
      packed encodedAmountOutSwapValue.memOffset ⟨8, fits_8⟩]
    some (payload, 0)

/-! ### The bytes of a payload -/

section Bytes

variable {blockNumber amountIn amountOut : Word} {otherToken : Address} {pair : Pool}
  {encoded : EncodedSwapValue}

theorem createPayloadWethIsInput_eq
    (found : encodeFourBytes amountOut.toNat true (getWethAddress < otherToken) = some encoded) :
    createPayloadWethIsInput blockNumber amountIn amountOut otherToken pair
      = some (bigEndian 1 blockNumber.toNat ++ (bigEndian 1 0x30 ++ (bigEndian 1 encoded.memOffset
          ++ (bigEndian 20 pair.address.toNat ++ bigEndian 4 encoded.encodedValue))),
          BitVec.ofNat 256 (amountIn.toNat / 2 ^ 32)) := by
  rw [createPayloadWethIsInput, found, findSwapType_eq]
  simp [swapName, Handler.index, Handler.all, getWethEncodeDivisor]

theorem createPayloadWethIsOutput_eq
    (found : encodeFourBytes amountIn.toNat false (getWethAddress < otherToken) = some encoded) :
    createPayloadWethIsOutput blockNumber amountIn amountOut otherToken pair
      = some (bigEndian 1 blockNumber.toNat
          ++ (bigEndian 1 (0x30 + 5 * (swapName false false false otherToken).index)
          ++ (bigEndian 1 encoded.memOffset ++ (bigEndian 20 pair.address.toNat
          ++ (bigEndian 20 otherToken.toNat ++ bigEndian 4 encoded.encodedValue)))),
          BitVec.ofNat 256 (amountOut.toNat / 2 ^ 32)) := by
  rw [createPayloadWethIsOutput, found, findSwapType_eq]
  simp [getWethEncodeDivisor]

variable {value : Word} {payload : List Byte} {isFirst : Bool}

/-- Every payload of several starts with the block number. -/
theorem createMultiPayloadWethIsInput_starts
    (built : createMultiPayloadWethIsInput blockNumber amountIn amountOut otherToken pair isFirst
      = some (payload, value)) : ∃ rest, payload = bigEndian 1 blockNumber.toNat ++ rest := by
  unfold createMultiPayloadWethIsInput at built
  simp only [Option.bind_eq_bind, Option.bind_eq_some_iff] at built
  obtain ⟨encoded, -, swapType, -, built⟩ := built
  cases isFirst
  all_goals
    simp only [Bool.false_eq_true, if_false, if_true, Option.some.injEq, Prod.mk.injEq,
      encodePacked_cons, pack_numberWithShift] at built
    exact ⟨_, built.1.symm⟩

/-- A backrun of several has the amount it sells behind the two addresses. -/
theorem createMultiPayloadWethIsOutput_fields
    (built : createMultiPayloadWethIsOutput blockNumber amountIn amountOut otherToken pair isFirst
      = some (payload, value)) : ∃ encoded rest,
    encodeFourBytes amountIn.toNat false (getWethAddress < otherToken) = some encoded
      ∧ payload = bigEndian 1 blockNumber.toNat
        ++ (bigEndian 1 (0x30 + 5 * (swapName true isFirst false otherToken).index)
        ++ (bigEndian 1 encoded.memOffset ++ (bigEndian 20 pair.address.toNat
        ++ (bigEndian 20 otherToken.toNat ++ (bigEndian 4 encoded.encodedValue ++ rest))))) := by
  unfold createMultiPayloadWethIsOutput at built
  simp only [Option.bind_eq_bind, Option.bind_eq_some_iff, findSwapType_eq] at built
  obtain ⟨taken, -, swapType, label, encoded, found, built⟩ := built
  obtain rfl := Option.some.inj label
  cases isFirst
  case false =>
    obtain ⟨rfl, rfl⟩ := Prod.mk.inj (Option.some.inj built)
    exact ⟨encoded, bigEndian 5 taken.encodedValue ++ bigEndian 1 taken.memOffset, found, by simp⟩
  case true =>
    obtain ⟨rfl, rfl⟩ := Prod.mk.inj (Option.some.inj built)
    exact ⟨encoded, bigEndian 1 taken.memOffset, found, by simp⟩

theorem createMultiPayloadWethIsOutput_starts
    (built : createMultiPayloadWethIsOutput blockNumber amountIn amountOut otherToken pair isFirst
      = some (payload, value)) : ∃ rest, payload = bigEndian 1 blockNumber.toNat ++ rest := by
  obtain ⟨_, _, -, same⟩ := createMultiPayloadWethIsOutput_fields built
  exact ⟨_, same⟩

/-- A frontrun as the first of several. -/
theorem createMultiPayloadWethIsInput_first
    (built : createMultiPayloadWethIsInput blockNumber amountIn amountOut otherToken pair true
      = some (payload, value)) : ∃ encoded,
    encodeFourBytes amountOut.toNat true (getWethAddress < otherToken) = some encoded
      ∧ payload = bigEndian 1 blockNumber.toNat ++ (bigEndian 1 0x53
        ++ (bigEndian 1 encoded.memOffset ++ (bigEndian 20 pair.address.toNat
        ++ bigEndian 4 encoded.encodedValue))) := by
  unfold createMultiPayloadWethIsInput at built
  simp only [Option.bind_eq_bind, Option.bind_eq_some_iff, findSwapType_eq, if_true] at built
  obtain ⟨encoded, found, swapType, label, built⟩ := built
  obtain ⟨rfl, rfl⟩ := Prod.mk.inj (Option.some.inj built)
  obtain rfl := Option.some.inj label
  exact ⟨encoded, found, by simp [swapName, Handler.index, Handler.all]⟩

/-- A backrun as the first of several. -/
theorem createMultiPayloadWethIsOutput_first
    (built : createMultiPayloadWethIsOutput blockNumber amountIn amountOut otherToken pair true
      = some (payload, value)) : ∃ encoded taken,
    encodeFourBytes amountIn.toNat false (getWethAddress < otherToken) = some encoded
      ∧ payload = bigEndian 1 blockNumber.toNat ++ (bigEndian 1 0x5d
        ++ (bigEndian 1 encoded.memOffset ++ (bigEndian 20 pair.address.toNat
        ++ (bigEndian 20 otherToken.toNat ++ (bigEndian 4 encoded.encodedValue
        ++ bigEndian 1 taken))))) := by
  unfold createMultiPayloadWethIsOutput at built
  simp only [Option.bind_eq_bind, Option.bind_eq_some_iff, findSwapType_eq, if_true] at built
  obtain ⟨taken, -, swapType, label, encoded, found, built⟩ := built
  obtain ⟨rfl, rfl⟩ := Prod.mk.inj (Option.some.inj built)
  obtain rfl := Option.some.inj label
  exact ⟨encoded, taken.memOffset, found, by simp [swapName, Handler.index, Handler.all]⟩

end Bytes

end Sando.TxBuilder.V2
