/-
Payloads for V3 pools.

The four builders of `SandwichLogicV3` and the functions they use. Amounts are `I256`, cast to `u128`,
which panics on a negative value and from `2 ^ 128` on. The hash function is a parameter.
-/

import Sando.Huff.Sandwich
import Sando.TxBuilder.EncodePacked
import Sando.TxBuilder.V2

namespace Sando.TxBuilder.V3

open Sando.Evm
open Sando.Huff (Handler)

/-! ### Jump labels -/

def jumpLabelNamesSingle : List Handler := [.v3Input0, .v3Input1, .v3Output0, .v3Output1]

def jumpLabelNamesMulti : List Handler :=
  [.v3Input0Multi, .v3Input1Multi, .v3Output0Multi, .v3Output1Multi]

/-- The map from names to labels, filled in steps of five. -/
def jumpLabels : List (Handler × ℕ) :=
  (jumpLabelNamesSingle.mapIdx fun x name => (name, 63 + 5 * x))
    ++ jumpLabelNamesMulti.mapIdx fun x name => (name, 108 + 5 * x)

/-- The name of the label for a kind of swap. -/
def swapName (isMultiple isWethInput : Bool) (input output : Address) : Handler :=
  if isMultiple then
    match isWethInput, decide (input < output) with
    | true, true => .v3Input0Multi
    | true, false => .v3Input1Multi
    | false, true => .v3Output1Multi
    | false, false => .v3Output0Multi
  else
    match isWethInput, decide (input < output) with
    | true, true => .v3Input0
    | true, false => .v3Input1
    | false, true => .v3Output1
    | false, false => .v3Output0

/-- The label for a kind of swap. -/
def findSwapType (isMultiple isWethInput : Bool) (input output : Address) : Option ℕ :=
  jumpLabels.lookup (swapName isMultiple isWethInput input output)

/-- The builder knows the labels of the contract. -/
theorem findSwapType_eq (isMultiple isWethInput : Bool) (input output : Address) :
    findSwapType isMultiple isWethInput input output
      = some (0x30 + 5 * (swapName isMultiple isWethInput input output).index) := by
  unfold findSwapType swapName
  cases isMultiple <;> cases isWethInput <;> cases decide (input < output) <;> rfl

/-! ### Amounts -/

/-- Encode the swap value into a number of bytes. -/
def encodeNumBytes (amount numBytes : ℕ) : Option EncodedSwapValue := do
  let (encodedValue, byteShift) ← findShift (fun encoded => encoded < 2 ^ (numBytes * 8)) amount
  some ⟨encodedValue, 68 - numBytes - byteShift, byteShift⟩

/-- The amount of a backrun, with some dust kept on the contract. -/
def encodeIntermediaryToken (amountIn : ℕ) : Option ℕ := do
  let backrunIn ← encodeNumBytes amountIn 5
  if backrunIn.encodedValue = 0 then none
  else some { backrunIn with encodedValue := backrunIn.encodedValue - 1 }.decode

/-- The real amount after encoding and decoding. -/
def decodeIntermediary (amountIn : ℕ) : Option ℕ := do
  let encoded ← encodeNumBytes amountIn 5
  some encoded.decode

/-- A signed word as an unsigned 128-bit integer. -/
def asU128 (amount : Word) : Option ℕ :=
  if 0 ≤ amount.toInt ∧ amount.toInt < 2 ^ 128 then some amount.toNat else none

section Encoding

variable {amount numBytes : ℕ} {encoded : EncodedSwapValue}

/-- An encoded value is the amount without its low bytes. No smaller shift would do. -/
theorem encodeNumBytes_spec (found : encodeNumBytes amount numBytes = some encoded) :
    encoded.byteShift ≤ 15 ∧ encoded.encodedValue = amount / 256 ^ encoded.byteShift
      ∧ encoded.encodedValue < 256 ^ numBytes
      ∧ ∀ earlier, earlier < encoded.byteShift → 256 ^ numBytes ≤ amount / 256 ^ earlier := by
  have power : 2 ^ (numBytes * 8) = 256 ^ numBytes := two_pow_mul_eight numBytes
  rw [encodeNumBytes, power, Option.bind_eq_bind, Option.bind_eq_some_iff] at found
  obtain ⟨⟨value, shift⟩, search, built⟩ := found
  obtain ⟨small, quotient, fitting, minimal⟩ := findShift_spec search
  obtain rfl := Option.some.inj built
  exact ⟨small, quotient, of_decide_eq_true fitting, fun earlier before =>
    not_lt.mp (of_decide_eq_false (minimal earlier before))⟩

/-- Amounts below `2 ^ 128` have a value of four or more bytes. -/
theorem encodeNumBytes_isSome (wide : 4 ≤ numBytes) (small : amount < 2 ^ 128) :
    ∃ encoded, encodeNumBytes amount numBytes = some encoded := by
  have fitting : decide (amount / 256 ^ 12 < 2 ^ (numBytes * 8)) = true := by
    rw [decide_eq_true_iff]
    calc amount / 256 ^ 12 < 2 ^ (4 * 8) := by omega
      _ ≤ 2 ^ (numBytes * 8) := Nat.pow_le_pow_right (by norm_num) (by omega)
  obtain ⟨⟨value, shift⟩, search⟩ := Option.isSome_iff_exists.mp
    (findShift_isSome (fun encoded => encoded < 2 ^ (numBytes * 8)) (by norm_num) fitting)
  rw [encodeNumBytes, search]
  exact ⟨_, rfl⟩

theorem asU128_eq {amount : Word} (small : amount.toNat < 2 ^ 128) :
    asU128 amount = some amount.toNat := by
  have signed : amount.toInt = amount.toNat := BitVec.toInt_eq_toNat_of_lt (by omega)
  rw [asU128, signed, if_pos (by omega)]

theorem asU128_eq_some {amount : Word} {cast : ℕ} (casts : asU128 amount = some cast) :
    cast = amount.toNat ∧ amount.toNat < 2 ^ 128 := by
  unfold asU128 at casts
  split at casts
  · rename_i inside
    rw [BitVec.toInt_eq_toNat_cond] at inside
    exact ⟨(Option.some.inj casts).symm, by split at inside <;> omega⟩
  · exact absurd casts (by simp)

end Encoding

/-! ### Payloads -/

/-- The hash of the pool key, which names the pool to its factory. -/
def poolKeyHash (keccak : List Byte → Word) (pool : Pool) : Word :=
  keccak (encodeWords [pool.token0.toNat, pool.token1.toNat, pool.swapFee.toNat])

/-- One swap, WETH is the input. -/
def createPayloadWethIsInput (keccak : List Byte → Word) (blockNumber amountIn amountOut : Word)
    (input output : Address) (pool : Pool) : Option (List Byte × Word) := do
  let swapType ← findSwapType false true input output
  let encodedSwapValue ← encodeNumBytes (← asU128 amountOut) 5
  let payload := encodePacked [
    .numberWithShift blockNumber ⟨8, fits_8⟩,
    packed swapType ⟨8, fits_8⟩,
    .address pool.address,
    packed ((32 - 5 - encodedSwapValue.byteShift) * 8) ⟨8, fits_8⟩,
    packed encodedSwapValue.encodedValue ⟨40, fits_40⟩,
    .bytes (bigEndian 32 (poolKeyHash keccak pool).toNat)]
  let encodedCallValue := BitVec.ofNat 256 ((← asU128 amountIn) / getWethEncodeDivisor)
  some (payload, encodedCallValue)

/-- One swap, WETH is the output. -/
def createPayloadWethIsOutput (keccak : List Byte → Word) (blockNumber amountIn amountOut : Word)
    (input output : Address) (pool : Pool) : Option (List Byte × Word) := do
  let swapType ← findSwapType false false input output
  let encodedSwapValue ← encodeNumBytes (← asU128 amountIn) 5
  let payload := encodePacked [
    .numberWithShift blockNumber ⟨8, fits_8⟩,
    packed swapType ⟨8, fits_8⟩,
    .address pool.address,
    packed ((32 - 5 - encodedSwapValue.byteShift) * 8) ⟨8, fits_8⟩,
    packed encodedSwapValue.encodedValue ⟨40, fits_40⟩,
    .address input,
    .bytes (bigEndian 32 (poolKeyHash keccak pool).toNat)]
  let encodedCallValue := BitVec.ofNat 256 ((← asU128 amountOut) / getWethEncodeDivisor)
  some (payload, encodedCallValue)

/-- The payload of one of several swaps, with the block number in front and, for the first one, the
label that puts the cursor on the stack. -/
def withBlock (blockNumber : Word) (isFirst : Bool) (payloadData : List Byte) : List Byte :=
  if isFirst then
    encodePacked [
      .numberWithShift blockNumber ⟨8, fits_8⟩,
      packed getPrepareStackPayload.toNat ⟨8, fits_8⟩,
      .bytes payloadData]
  else
    encodePacked [.numberWithShift blockNumber ⟨8, fits_8⟩, .bytes payloadData]

/-- One of several swaps, WETH is the input. -/
def createMultiPayloadWethIsInput (keccak : List Byte → Word)
    (blockNumber amountIn amountOut : Word) (input output : Address) (pool : Pool) (isFirst : Bool) :
    Option (List Byte × Word) := do
  let swapType ← findSwapType true true input output
  let encodedAmountInSwapValue ← encodeNumBytes (← asU128 amountIn) 4
  let encodedAmountOutSwapValue ← encodeNumBytes (← asU128 amountOut) 5
  let payloadData := encodePacked [
    packed swapType ⟨8, fits_8⟩,
    .address pool.address,
    packed ((32 - 4 - encodedAmountInSwapValue.byteShift) * 8) ⟨8, fits_8⟩,
    packed encodedAmountInSwapValue.encodedValue ⟨32, fits_32⟩,
    packed ((32 - 5 - encodedAmountOutSwapValue.byteShift) * 8) ⟨8, fits_8⟩,
    packed encodedAmountOutSwapValue.encodedValue ⟨40, fits_40⟩,
    .bytes (bigEndian 32 (poolKeyHash keccak pool).toNat)]
  some (withBlock blockNumber isFirst payloadData, 0)

/-- One of several swaps, WETH is the output. -/
def createMultiPayloadWethIsOutput (keccak : List Byte → Word)
    (blockNumber amountIn amountOut : Word) (input output : Address) (pool : Pool) (isFirst : Bool) :
    Option (List Byte × Word) := do
  let swapType ← findSwapType true false input output
  let encodedAmountInSwapValue ← encodeNumBytes (← asU128 amountIn) 5
  let encodedAmountOutSwapValue ← encodeNumBytes (← asU128 amountOut) 4
  let payloadData := encodePacked [
    packed swapType ⟨8, fits_8⟩,
    .address pool.address,
    packed ((32 - 4 - encodedAmountOutSwapValue.byteShift) * 8) ⟨8, fits_8⟩,
    packed encodedAmountOutSwapValue.encodedValue ⟨32, fits_32⟩,
    packed ((32 - 5 - encodedAmountInSwapValue.byteShift) * 8) ⟨8, fits_8⟩,
    packed encodedAmountInSwapValue.encodedValue ⟨40, fits_40⟩,
    .address input,
    .bytes (bigEndian 32 (poolKeyHash keccak pool).toNat)]
  some (withBlock blockNumber isFirst payloadData, 0)

/-! ### The bytes of a payload -/

section Bytes

variable {keccak : List Byte → Word} {blockNumber amountIn amountOut : Word} {input output : Address}
  {pool : Pool} {encoded : EncodedSwapValue}

theorem createPayloadWethIsInput_eq (smallIn : amountIn.toNat < 2 ^ 128)
    (smallOut : amountOut.toNat < 2 ^ 128)
    (found : encodeNumBytes amountOut.toNat 5 = some encoded) :
    createPayloadWethIsInput keccak blockNumber amountIn amountOut input output pool
      = some (bigEndian 1 blockNumber.toNat
          ++ (bigEndian 1 (0x30 + 5 * (swapName false true input output).index)
          ++ (bigEndian 20 pool.address.toNat ++ (bigEndian 1 ((27 - encoded.byteShift) * 8)
          ++ (bigEndian 5 encoded.encodedValue
          ++ bigEndian 32 (poolKeyHash keccak pool).toNat)))),
          BitVec.ofNat 256 (amountIn.toNat / 2 ^ 32)) := by
  rw [createPayloadWethIsInput, asU128_eq smallIn, asU128_eq smallOut, findSwapType_eq]
  simp [found, getWethEncodeDivisor]

theorem createPayloadWethIsOutput_eq (smallIn : amountIn.toNat < 2 ^ 128)
    (smallOut : amountOut.toNat < 2 ^ 128)
    (found : encodeNumBytes amountIn.toNat 5 = some encoded) :
    createPayloadWethIsOutput keccak blockNumber amountIn amountOut input output pool
      = some (bigEndian 1 blockNumber.toNat
          ++ (bigEndian 1 (0x30 + 5 * (swapName false false input output).index)
          ++ (bigEndian 20 pool.address.toNat ++ (bigEndian 1 ((27 - encoded.byteShift) * 8)
          ++ (bigEndian 5 encoded.encodedValue ++ (bigEndian 20 input.toNat
          ++ bigEndian 32 (poolKeyHash keccak pool).toNat))))),
          BitVec.ofNat 256 (amountOut.toNat / 2 ^ 32)) := by
  rw [createPayloadWethIsOutput, asU128_eq smallIn, asU128_eq smallOut, findSwapType_eq]
  simp [found, getWethEncodeDivisor]

variable {value : Word} {payload payloadData : List Byte} {isFirst : Bool}

/-- The payload of a single frontrun has the amount it buys in five bytes. -/
theorem createPayloadWethIsInput_fields
    (built : createPayloadWethIsInput keccak blockNumber amountIn amountOut input output pool
      = some (payload, value)) :
    ∃ bought rest, encodeNumBytes amountOut.toNat 5 = some bought
      ∧ payload = bigEndian 1 blockNumber.toNat
          ++ (bigEndian 1 (0x30 + 5 * (swapName false true input output).index)
          ++ (bigEndian 20 pool.address.toNat ++ (bigEndian 1 ((27 - bought.byteShift) * 8)
          ++ (bigEndian 5 bought.encodedValue ++ rest)))) := by
  unfold createPayloadWethIsInput at built
  simp only [Option.bind_eq_bind, Option.bind_eq_some_iff, findSwapType_eq, Option.some.injEq,
    Prod.mk.injEq] at built
  obtain ⟨swapType, rfl, amount, cast, bought, found, amount', -, rfl, -⟩ := built
  obtain ⟨rfl, -⟩ := asU128_eq_some cast
  exact ⟨bought, bigEndian 32 (poolKeyHash keccak pool).toNat, found, by simp⟩

/-- The payload of a single backrun has the amount it sells there. -/
theorem createPayloadWethIsOutput_fields
    (built : createPayloadWethIsOutput keccak blockNumber amountIn amountOut input output pool
      = some (payload, value)) :
    ∃ sold rest, encodeNumBytes amountIn.toNat 5 = some sold
      ∧ payload = bigEndian 1 blockNumber.toNat
          ++ (bigEndian 1 (0x30 + 5 * (swapName false false input output).index)
          ++ (bigEndian 20 pool.address.toNat ++ (bigEndian 1 ((27 - sold.byteShift) * 8)
          ++ (bigEndian 5 sold.encodedValue ++ rest)))) := by
  unfold createPayloadWethIsOutput at built
  simp only [Option.bind_eq_bind, Option.bind_eq_some_iff, findSwapType_eq, Option.some.injEq,
    Prod.mk.injEq] at built
  obtain ⟨swapType, rfl, amount, cast, sold, found, amount', -, rfl, -⟩ := built
  obtain ⟨rfl, -⟩ := asU128_eq_some cast
  exact ⟨sold, bigEndian 20 input.toNat ++ bigEndian 32 (poolKeyHash keccak pool).toNat, found,
    by simp⟩

/-- The block number comes first, then the label of the first payload. -/
theorem withBlock_eq : withBlock blockNumber isFirst payloadData = bigEndian 1 blockNumber.toNat
    ++ ((if isFirst then bigEndian 1 getPrepareStackPayload.toNat else []) ++ payloadData) := by
  rw [withBlock]
  cases isFirst <;> simp

/-- The two amounts of a segment, each with its shift in bits in front. -/
def amountFields (four five : EncodedSwapValue) : List Byte :=
  bigEndian 1 ((28 - four.byteShift) * 8) ++ (bigEndian 4 four.encodedValue
    ++ (bigEndian 1 ((27 - five.byteShift) * 8) ++ bigEndian 5 five.encodedValue))

/-- A frontrun has its amount of WETH in four bytes. -/
theorem createMultiPayloadWethIsInput_fields
    (built : createMultiPayloadWethIsInput keccak blockNumber amountIn amountOut input output pool
      isFirst = some (payload, value)) :
    ∃ spent bought rest, encodeNumBytes amountIn.toNat 4 = some spent
      ∧ encodeNumBytes amountOut.toNat 5 = some bought
      ∧ payload = withBlock blockNumber isFirst
          (bigEndian 1 (0x30 + 5 * (swapName true true input output).index)
            ++ (bigEndian 20 pool.address.toNat ++ (amountFields spent bought ++ rest))) := by
  unfold createMultiPayloadWethIsInput at built
  simp only [Option.bind_eq_bind, Option.bind_eq_some_iff, findSwapType_eq, Option.some.injEq,
    Prod.mk.injEq] at built
  obtain ⟨swapType, rfl, amount, cast, spent, foundIn, amount', cast', bought, foundOut, rfl, -⟩ :=
    built
  obtain ⟨rfl, -⟩ := asU128_eq_some cast
  obtain ⟨rfl, -⟩ := asU128_eq_some cast'
  exact ⟨spent, bought, bigEndian 32 (poolKeyHash keccak pool).toNat, foundIn, foundOut,
    by simp [amountFields]⟩

/-- So does a backrun. -/
theorem createMultiPayloadWethIsOutput_fields
    (built : createMultiPayloadWethIsOutput keccak blockNumber amountIn amountOut input output pool
      isFirst = some (payload, value)) :
    ∃ taken sold rest, encodeNumBytes amountOut.toNat 4 = some taken
      ∧ encodeNumBytes amountIn.toNat 5 = some sold
      ∧ payload = withBlock blockNumber isFirst
          (bigEndian 1 (0x30 + 5 * (swapName true false input output).index)
            ++ (bigEndian 20 pool.address.toNat ++ (amountFields taken sold ++ rest))) := by
  unfold createMultiPayloadWethIsOutput at built
  simp only [Option.bind_eq_bind, Option.bind_eq_some_iff, findSwapType_eq, Option.some.injEq,
    Prod.mk.injEq] at built
  obtain ⟨swapType, rfl, amount, cast, sold, foundIn, amount', cast', taken, foundOut, rfl, -⟩ :=
    built
  obtain ⟨rfl, -⟩ := asU128_eq_some cast
  obtain ⟨rfl, -⟩ := asU128_eq_some cast'
  exact ⟨taken, sold, bigEndian 20 input.toNat ++ bigEndian 32 (poolKeyHash keccak pool).toNat,
    foundOut, foundIn, by simp [amountFields]⟩

theorem createMultiPayloadWethIsInput_isSome (keccak : List Byte → Word) (blockNumber : Word)
    (input output : Address) (pool : Pool) (isFirst : Bool) (smallIn : amountIn.toNat < 2 ^ 128)
    (smallOut : amountOut.toNat < 2 ^ 128) :
    (createMultiPayloadWethIsInput keccak blockNumber amountIn amountOut input output pool
      isFirst).isSome := by
  obtain ⟨spent, foundIn⟩ := encodeNumBytes_isSome (le_refl 4) smallIn
  obtain ⟨bought, foundOut⟩ := encodeNumBytes_isSome (by norm_num : 4 ≤ 5) smallOut
  rw [createMultiPayloadWethIsInput, findSwapType_eq, asU128_eq smallIn, asU128_eq smallOut]
  simp only [Option.bind_eq_bind, Option.bind_some, foundIn, foundOut, Option.isSome_some]

theorem createMultiPayloadWethIsOutput_isSome (keccak : List Byte → Word) (blockNumber : Word)
    (input output : Address) (pool : Pool) (isFirst : Bool) (smallIn : amountIn.toNat < 2 ^ 128)
    (smallOut : amountOut.toNat < 2 ^ 128) :
    (createMultiPayloadWethIsOutput keccak blockNumber amountIn amountOut input output pool
      isFirst).isSome := by
  obtain ⟨sold, foundIn⟩ := encodeNumBytes_isSome (by norm_num : 4 ≤ 5) smallIn
  obtain ⟨taken, foundOut⟩ := encodeNumBytes_isSome (le_refl 4) smallOut
  rw [createMultiPayloadWethIsOutput, findSwapType_eq, asU128_eq smallIn, asU128_eq smallOut]
  simp only [Option.bind_eq_bind, Option.bind_some, foundIn, foundOut, Option.isSome_some]

theorem createMultiPayloadWethIsInput_withBlock
    (built : createMultiPayloadWethIsInput keccak blockNumber amountIn amountOut input output pool
      isFirst = some (payload, value)) :
    ∃ payloadData, payload = withBlock blockNumber isFirst payloadData := by
  obtain ⟨_, _, _, -, -, same⟩ := createMultiPayloadWethIsInput_fields built
  exact ⟨_, same⟩

theorem createMultiPayloadWethIsOutput_withBlock
    (built : createMultiPayloadWethIsOutput keccak blockNumber amountIn amountOut input output pool
      isFirst = some (payload, value)) :
    ∃ payloadData, payload = withBlock blockNumber isFirst payloadData := by
  obtain ⟨_, _, _, -, -, same⟩ := createMultiPayloadWethIsOutput_fields built
  exact ⟨_, same⟩

end Bytes

end Sando.TxBuilder.V3
