/-
The fields of a payload.

Every builder packs its numbers into fields of so many bytes and cuts off what does not fit. `fields` are
the tokens of a payload behind its block number; each number among them fits its field, because the
encoders bound it, but for one: a V2 frontrun that is not the first of several packs its amount of WETH,
which no encoder has shortened, into five bytes (`keepsFields_iff`).
-/

import Sando.Huff.Layout
import Sando.TxBuilder.Amounts

namespace Sando.TxBuilder

open Sando.Evm Sando.Huff

/-! ### Numbers that are kept -/

/-- A number is below the size of its field, and the field reads as the number. -/
def Kept : PackedToken → Prop
  | .numberWithShift number toTake => number.toNat < 2 ^ toTake.bits
    ∧ window (byteAt (pack (.numberWithShift number toTake))) 0 (toTake.bits / 8) = number.toNat
  | _ => True

section Kept

variable {value : ℕ} {toTake : TakeLastXBytes}

/-- What fits a field of whole bytes is kept. -/
theorem kept_numberWithShift {number : Word} (whole : 8 * (toTake.bits / 8) = toTake.bits)
    (small : number.toNat < 2 ^ toTake.bits) : Kept (.numberWithShift number toTake) := by
  have bytes : number.toNat < 256 ^ (toTake.bits / 8) := by
    rwa [← two_pow_eight_mul, whole]
  refine ⟨small, ?_⟩
  rw [pack_numberWithShift, window_bigEndian, Nat.mod_eq_of_lt bytes]

theorem kept_packed (whole : 8 * (toTake.bits / 8) = toTake.bits) (small : value < 2 ^ toTake.bits) :
    Kept (packed value toTake) := by
  apply kept_numberWithShift whole
  rw [BitVec.toNat_ofNat]
  exact (Nat.mod_le _ _).trans_lt small

/-- A byte. -/
theorem kept_byte (small : value < 256) : Kept (packed value ⟨8, fits_8⟩) := kept_packed rfl small

/-- A mantissa of four bytes. -/
theorem kept_four (small : value < 256 ^ 4) : Kept (packed value ⟨32, fits_32⟩) :=
  kept_packed rfl (by rwa [show (2 : ℕ) ^ 32 = 256 ^ 4 by norm_num])

/-- A mantissa of five bytes. -/
theorem kept_five (small : value < 256 ^ 5) : Kept (packed value ⟨40, fits_40⟩) :=
  kept_packed rfl (by rwa [show (2 : ℕ) ^ 40 = 256 ^ 5 by norm_num])

end Kept

/-! ### The builders -/

/-- A payload builder, with all it is called with but the block number and the amounts. -/
inductive Builder
  | v2WethIsInput (otherToken : Address) (pair : Pool)
  | v2WethIsOutput (otherToken : Address) (pair : Pool)
  | v2MultiWethIsInput (otherToken : Address) (pair : Pool) (isFirst : Bool)
  | v2MultiWethIsOutput (otherToken : Address) (pair : Pool) (isFirst : Bool)
  | v3WethIsInput (keccak : List Byte → Word) (input output : Address) (pool : Pool)
  | v3WethIsOutput (keccak : List Byte → Word) (input output : Address) (pool : Pool)
  | v3MultiWethIsInput (keccak : List Byte → Word) (input output : Address) (pool : Pool)
      (isFirst : Bool)
  | v3MultiWethIsOutput (keccak : List Byte → Word) (input output : Address) (pool : Pool)
      (isFirst : Bool)

namespace Builder

/-- Build a payload. -/
def run (blockNumber amountIn amountOut : Word) : Builder → Option (List Byte × Word)
  | v2WethIsInput otherToken pair =>
    V2.createPayloadWethIsInput blockNumber amountIn amountOut otherToken pair
  | v2WethIsOutput otherToken pair =>
    V2.createPayloadWethIsOutput blockNumber amountIn amountOut otherToken pair
  | v2MultiWethIsInput otherToken pair isFirst =>
    V2.createMultiPayloadWethIsInput blockNumber amountIn amountOut otherToken pair isFirst
  | v2MultiWethIsOutput otherToken pair isFirst =>
    V2.createMultiPayloadWethIsOutput blockNumber amountIn amountOut otherToken pair isFirst
  | v3WethIsInput keccak input output pool =>
    V3.createPayloadWethIsInput keccak blockNumber amountIn amountOut input output pool
  | v3WethIsOutput keccak input output pool =>
    V3.createPayloadWethIsOutput keccak blockNumber amountIn amountOut input output pool
  | v3MultiWethIsInput keccak input output pool isFirst =>
    V3.createMultiPayloadWethIsInput keccak blockNumber amountIn amountOut input output pool isFirst
  | v3MultiWethIsOutput keccak input output pool isFirst =>
    V3.createMultiPayloadWethIsOutput keccak blockNumber amountIn amountOut input output pool isFirst

end Builder

/-- The label of the first V3 segment of several. -/
def prepareStack (isFirst : Bool) : List PackedToken :=
  if isFirst then [packed getPrepareStackPayload.toNat ⟨8, fits_8⟩] else []

/-- The tokens of a payload behind its block number, nested ones spread out, and the call value. -/
def Builder.fields (amountIn amountOut : Word) : Builder → Option (List PackedToken × Word)
  | .v2WethIsInput otherToken pair => do
    let encoded ← V2.encodeFourBytes amountOut.toNat true (getWethAddress < otherToken)
    let swapType ← V2.findSwapType false false true otherToken
    some ([packed swapType ⟨8, fits_8⟩, packed encoded.memOffset ⟨8, fits_8⟩,
      .address pair.address, packed encoded.encodedValue ⟨32, fits_32⟩],
      BitVec.ofNat 256 (amountIn.toNat / getWethEncodeDivisor))
  | .v2WethIsOutput otherToken pair => do
    let encoded ← V2.encodeFourBytes amountIn.toNat false (getWethAddress < otherToken)
    let swapType ← V2.findSwapType false false false otherToken
    some ([packed swapType ⟨8, fits_8⟩, packed encoded.memOffset ⟨8, fits_8⟩,
      .address pair.address, .address otherToken, packed encoded.encodedValue ⟨32, fits_32⟩],
      BitVec.ofNat 256 (amountOut.toNat / getWethEncodeDivisor))
  | .v2MultiWethIsInput otherToken pair isFirst => do
    let bought ← V2.encodeFourBytes amountOut.toNat true (getWethAddress < otherToken)
    let swapType ← V2.findSwapType true isFirst true otherToken
    let common := [packed swapType ⟨8, fits_8⟩, packed bought.memOffset ⟨8, fits_8⟩,
      .address pair.address, packed bought.encodedValue ⟨32, fits_32⟩]
    if isFirst then
      some (common, BitVec.ofNat 256 (amountIn.toNat / getWethEncodeDivisor))
    else some (common ++ [packed (amountIn.toNat / getWethEncodeDivisor) ⟨40, fits_40⟩], 0)
  | .v2MultiWethIsOutput otherToken pair isFirst => do
    let taken ← V2.encodeFiveBytes amountOut.toNat (getWethAddress < otherToken)
    let swapType ← V2.findSwapType true isFirst false otherToken
    let sold ← V2.encodeFourBytes amountIn.toNat false (getWethAddress < otherToken)
    let common := [packed swapType ⟨8, fits_8⟩, packed sold.memOffset ⟨8, fits_8⟩,
      .address pair.address, .address otherToken, packed sold.encodedValue ⟨32, fits_32⟩]
    if isFirst then
      some (common ++ [packed taken.memOffset ⟨8, fits_8⟩], BitVec.ofNat 256 taken.encodedValue)
    else
      some (common ++ [packed taken.encodedValue ⟨40, fits_40⟩, packed taken.memOffset ⟨8, fits_8⟩], 0)
  | .v3WethIsInput keccak input output pool => do
    let swapType ← V3.findSwapType false true input output
    let bought ← V3.encodeNumBytes (← V3.asU128 amountOut) 5
    some ([packed swapType ⟨8, fits_8⟩, .address pool.address,
      packed ((32 - 5 - bought.byteShift) * 8) ⟨8, fits_8⟩, packed bought.encodedValue ⟨40, fits_40⟩,
      .bytes (bigEndian 32 (V3.poolKeyHash keccak pool).toNat)],
      BitVec.ofNat 256 ((← V3.asU128 amountIn) / getWethEncodeDivisor))
  | .v3WethIsOutput keccak input output pool => do
    let swapType ← V3.findSwapType false false input output
    let sold ← V3.encodeNumBytes (← V3.asU128 amountIn) 5
    some ([packed swapType ⟨8, fits_8⟩, .address pool.address,
      packed ((32 - 5 - sold.byteShift) * 8) ⟨8, fits_8⟩, packed sold.encodedValue ⟨40, fits_40⟩,
      .address input, .bytes (bigEndian 32 (V3.poolKeyHash keccak pool).toNat)],
      BitVec.ofNat 256 ((← V3.asU128 amountOut) / getWethEncodeDivisor))
  | .v3MultiWethIsInput keccak input output pool isFirst => do
    let swapType ← V3.findSwapType true true input output
    let spent ← V3.encodeNumBytes (← V3.asU128 amountIn) 4
    let bought ← V3.encodeNumBytes (← V3.asU128 amountOut) 5
    some (prepareStack isFirst ++ [packed swapType ⟨8, fits_8⟩, .address pool.address,
      packed ((32 - 4 - spent.byteShift) * 8) ⟨8, fits_8⟩, packed spent.encodedValue ⟨32, fits_32⟩,
      packed ((32 - 5 - bought.byteShift) * 8) ⟨8, fits_8⟩, packed bought.encodedValue ⟨40, fits_40⟩,
      .bytes (bigEndian 32 (V3.poolKeyHash keccak pool).toNat)], 0)
  | .v3MultiWethIsOutput keccak input output pool isFirst => do
    let swapType ← V3.findSwapType true false input output
    let sold ← V3.encodeNumBytes (← V3.asU128 amountIn) 5
    let taken ← V3.encodeNumBytes (← V3.asU128 amountOut) 4
    some (prepareStack isFirst ++ [packed swapType ⟨8, fits_8⟩, .address pool.address,
      packed ((32 - 4 - taken.byteShift) * 8) ⟨8, fits_8⟩, packed taken.encodedValue ⟨32, fits_32⟩,
      packed ((32 - 5 - sold.byteShift) * 8) ⟨8, fits_8⟩, packed sold.encodedValue ⟨40, fits_40⟩,
      .address input, .bytes (bigEndian 32 (V3.poolKeyHash keccak pool).toNat)], 0)

/-- A payload is its block number and its fields. -/
theorem run_eq (builder : Builder) (blockNumber amountIn amountOut : Word) :
    builder.run blockNumber amountIn amountOut
      = (builder.fields amountIn amountOut).map fun built =>
        (encodePacked (.numberWithShift blockNumber ⟨8, fits_8⟩ :: built.1), built.2) := by
  cases builder with
  | v2WethIsInput otherToken pair =>
      unfold Builder.run Builder.fields V2.createPayloadWethIsInput
      simp only [Option.bind_eq_bind, Option.map_bind, Function.comp_def, Option.map_some]
  | v2WethIsOutput otherToken pair =>
      unfold Builder.run Builder.fields V2.createPayloadWethIsOutput
      simp only [Option.bind_eq_bind, Option.map_bind, Function.comp_def, Option.map_some]
  | v2MultiWethIsInput otherToken pair isFirst =>
      unfold Builder.run Builder.fields V2.createMultiPayloadWethIsInput
      cases isFirst <;> simp [Option.map_bind]
  | v2MultiWethIsOutput otherToken pair isFirst =>
      unfold Builder.run Builder.fields V2.createMultiPayloadWethIsOutput
      cases isFirst <;> simp [Option.map_bind]
  | v3WethIsInput keccak input output pool =>
      unfold Builder.run Builder.fields V3.createPayloadWethIsInput
      simp only [Option.bind_eq_bind, Option.map_bind, Function.comp_def, Option.map_some]
  | v3WethIsOutput keccak input output pool =>
      unfold Builder.run Builder.fields V3.createPayloadWethIsOutput
      simp only [Option.bind_eq_bind, Option.map_bind, Function.comp_def, Option.map_some]
  | v3MultiWethIsInput keccak input output pool isFirst =>
      unfold Builder.run Builder.fields V3.createMultiPayloadWethIsInput
      cases isFirst <;> simp [Option.map_bind, V3.withBlock_eq, prepareStack]
  | v3MultiWethIsOutput keccak input output pool isFirst =>
      unfold Builder.run Builder.fields V3.createMultiPayloadWethIsOutput
      cases isFirst <;> simp [Option.map_bind, V3.withBlock_eq, prepareStack]

/-! ### The bounds of the fields -/

section Bounds

variable {amount label : ℕ} {isMultiple isFirst isWethInput isWethToken0 : Bool}
  {otherToken input output : Address} {encoded : EncodedSwapValue}

/-- A label is a byte. -/
theorem V2.kept_label
    (found : V2.findSwapType isMultiple isFirst isWethInput otherToken = some label) :
    Kept (packed label ⟨8, fits_8⟩) := by
  rw [V2.findSwapType_eq] at found
  obtain rfl := Option.some.inj found
  exact kept_byte (gate_lt _)

theorem V3.kept_label (found : V3.findSwapType isMultiple isWethInput input output = some label) :
    Kept (packed label ⟨8, fits_8⟩) := by
  rw [V3.findSwapType_eq] at found
  obtain rfl := Option.some.inj found
  exact kept_byte (gate_lt _)

/-- The offset and the mantissa of four bytes. -/
theorem V2.kept_four (found : V2.encodeFourBytes amount isWethInput isWethToken0 = some encoded) :
    Kept (packed encoded.memOffset ⟨8, fits_8⟩) ∧ Kept (packed encoded.encodedValue ⟨32, fits_32⟩) := by
  obtain ⟨-, -, value, offset, -⟩ := V2.encodeFourBytes_spec found
  refine ⟨kept_byte ?_, TxBuilder.kept_four (value.trans_lt (by norm_num))⟩
  split_ifs at offset <;> omega

/-- The offset and the mantissa of five bytes. -/
theorem V2.kept_five (found : V2.encodeFiveBytes amount isWethToken0 = some encoded) :
    Kept (packed encoded.memOffset ⟨8, fits_8⟩) ∧ Kept (packed encoded.encodedValue ⟨40, fits_40⟩) := by
  have value := ((V2.fiveBytes isWethToken0).encodes found).fitting
  refine ⟨kept_byte ?_, TxBuilder.kept_five (value.trans_lt (by norm_num))⟩
  rw [V2.encodeFiveBytes, Option.bind_eq_bind, Option.bind_eq_some_iff] at found
  obtain ⟨⟨_, shift⟩, -, built⟩ := found
  obtain rfl := Option.some.inj built
  show (if isWethToken0 then 68 else 100) - shift < 256
  split_ifs <;> omega

/-- The shift in bits and the mantissa of a number of bytes. -/
theorem V3.kept_four (found : V3.encodeNumBytes amount 4 = some encoded) :
    Kept (packed ((32 - 4 - encoded.byteShift) * 8) ⟨8, fits_8⟩)
      ∧ Kept (packed encoded.encodedValue ⟨32, fits_32⟩) := by
  obtain ⟨-, -, value, -⟩ := V3.encodeNumBytes_spec found
  exact ⟨kept_byte (by omega), TxBuilder.kept_four value⟩

theorem V3.kept_five (found : V3.encodeNumBytes amount 5 = some encoded) :
    Kept (packed ((32 - 5 - encoded.byteShift) * 8) ⟨8, fits_8⟩)
      ∧ Kept (packed encoded.encodedValue ⟨40, fits_40⟩) := by
  obtain ⟨-, -, value, -⟩ := V3.encodeNumBytes_spec found
  exact ⟨kept_byte (by omega), TxBuilder.kept_five value⟩

@[simp] theorem kept_address (address : Address) : Kept (.address address) := trivial

@[simp] theorem kept_bytes (bytes : List Byte) : Kept (.bytes bytes) := trivial

theorem kept_prepareStack (isFirst : Bool) : ∀ field ∈ prepareStack isFirst, Kept field := by
  intro field member
  unfold prepareStack at member
  split_ifs at member
  · obtain rfl := List.mem_singleton.mp member
    exact kept_byte getPrepareStackPayload.isLt
  · cases member

/-- An amount of WETH is kept in five bytes below `2 ^ 72`. -/
theorem kept_weth_iff (amountIn : Word) :
    Kept (packed (amountIn.toNat / getWethEncodeDivisor) ⟨40, fits_40⟩) ↔ amountIn.toNat < 2 ^ 72 := by
  have word := amountIn.isLt
  unfold getWethEncodeDivisor
  constructor
  · intro kept
    have small : (BitVec.ofNat 256 (amountIn.toNat / 4294967296)).toNat < 2 ^ 40 := kept.1
    rw [toNat_ofNat_of_lt ((Nat.div_le_self _ _).trans_lt word)] at small
    omega
  · intro small
    refine TxBuilder.kept_five ?_
    omega

end Bounds

/-! ### Every field is kept -/

/-- The amount of a V2 frontrun that is not the first of several fits five bytes. -/
def Builder.Narrow (amountIn : Word) : Builder → Prop
  | .v2MultiWethIsInput _ _ false => amountIn.toNat < 2 ^ 72
  | _ => True

theorem fields_kept_iff {builder : Builder} {amountIn amountOut : Word} {fields : List PackedToken}
    {value : Word} (found : builder.fields amountIn amountOut = some (fields, value)) :
    (∀ field ∈ fields, Kept field) ↔ builder.Narrow amountIn := by
  cases builder with
  | v2WethIsInput otherToken pair =>
      simp only [Builder.fields, Option.bind_eq_bind, Option.bind_eq_some_iff, Option.some.injEq,
        Prod.mk.injEq] at found
      obtain ⟨encoded, encodes, label, labels, rfl, -⟩ := found
      have kept := V2.kept_four encodes
      have kept_label := V2.kept_label labels
      simp [kept, kept_label, Builder.Narrow]
  | v2WethIsOutput otherToken pair =>
      simp only [Builder.fields, Option.bind_eq_bind, Option.bind_eq_some_iff, Option.some.injEq,
        Prod.mk.injEq] at found
      obtain ⟨encoded, encodes, label, labels, rfl, -⟩ := found
      have kept := V2.kept_four encodes
      have kept_label := V2.kept_label labels
      simp [kept, kept_label, Builder.Narrow]
  | v2MultiWethIsInput otherToken pair isFirst =>
      simp only [Builder.fields, Option.bind_eq_bind, Option.bind_eq_some_iff] at found
      obtain ⟨bought, encodes, label, labels, built⟩ := found
      have kept := V2.kept_four encodes
      have kept_label := V2.kept_label labels
      cases isFirst with
      | true =>
          obtain ⟨rfl, -⟩ := Prod.mk.inj (Option.some.inj built)
          simp [kept, kept_label, Builder.Narrow]
      | false =>
          -- the last field is not the result of an encoder
          obtain ⟨rfl, -⟩ := Prod.mk.inj (Option.some.inj built)
          simp [kept, kept_label, kept_weth_iff, Builder.Narrow]
  | v2MultiWethIsOutput otherToken pair isFirst =>
      simp only [Builder.fields, Option.bind_eq_bind, Option.bind_eq_some_iff] at found
      obtain ⟨taken, encodesTaken, label, labels, sold, encodesSold, built⟩ := found
      have kept_taken := V2.kept_five encodesTaken
      have kept_sold := V2.kept_four encodesSold
      have kept_label := V2.kept_label labels
      cases isFirst <;> obtain ⟨rfl, -⟩ := Prod.mk.inj (Option.some.inj built) <;>
        simp [kept_taken, kept_sold, kept_label, Builder.Narrow]
  | v3WethIsInput keccak input output pool =>
      simp only [Builder.fields, Option.bind_eq_bind, Option.bind_eq_some_iff, Option.some.injEq,
        Prod.mk.injEq] at found
      obtain ⟨label, labels, amount, -, bought, encodes, amount', -, rfl, -⟩ := found
      have kept := V3.kept_five encodes
      have kept_label := V3.kept_label labels
      simp [kept, kept_label, Builder.Narrow]
  | v3WethIsOutput keccak input output pool =>
      simp only [Builder.fields, Option.bind_eq_bind, Option.bind_eq_some_iff, Option.some.injEq,
        Prod.mk.injEq] at found
      obtain ⟨label, labels, amount, -, sold, encodes, amount', -, rfl, -⟩ := found
      have kept := V3.kept_five encodes
      have kept_label := V3.kept_label labels
      simp [kept, kept_label, Builder.Narrow]
  | v3MultiWethIsInput keccak input output pool isFirst =>
      simp only [Builder.fields, Option.bind_eq_bind, Option.bind_eq_some_iff, Option.some.injEq,
        Prod.mk.injEq] at found
      obtain ⟨label, labels, amount, -, spent, encodesSpent, amount', -, bought, encodesBought, rfl, -⟩ :=
        found
      have kept_spent := V3.kept_four encodesSpent
      have kept_bought := V3.kept_five encodesBought
      have kept_label := V3.kept_label labels
      refine iff_of_true (List.forall_mem_append.mpr ⟨kept_prepareStack isFirst, ?_⟩) trivial
      simp [kept_spent, kept_bought, kept_label]
  | v3MultiWethIsOutput keccak input output pool isFirst =>
      simp only [Builder.fields, Option.bind_eq_bind, Option.bind_eq_some_iff, Option.some.injEq,
        Prod.mk.injEq] at found
      obtain ⟨label, labels, amount, -, sold, encodesSold, amount', -, taken, encodesTaken, rfl, -⟩ :=
        found
      have kept_sold := V3.kept_five encodesSold
      have kept_taken := V3.kept_four encodesTaken
      have kept_label := V3.kept_label labels
      refine iff_of_true (List.forall_mem_append.mpr ⟨kept_prepareStack isFirst, ?_⟩) trivial
      simp [kept_sold, kept_taken, kept_label]

/-- The payload of a builder is its block number and its fields, and every number among them is kept. -/
def KeepsFields (builder : Builder) (blockNumber amountIn amountOut : Word) : Prop :=
  ∃ fields value, builder.fields amountIn amountOut = some (fields, value)
    ∧ builder.run blockNumber amountIn amountOut
      = some (encodePacked (.numberWithShift blockNumber ⟨8, fits_8⟩ :: fields), value)
    ∧ ∀ field ∈ fields, Kept field

/-- Nothing is cut off a payload, but for amounts of WETH from `2 ^ 72` on in a V2 frontrun that is not
the first of several. -/
theorem keepsFields_iff (builder : Builder) (blockNumber amountIn amountOut : Word)
    (returns : (builder.run blockNumber amountIn amountOut).isSome) :
    KeepsFields builder blockNumber amountIn amountOut ↔ builder.Narrow amountIn := by
  have same := run_eq builder blockNumber amountIn amountOut
  rw [same, Option.isSome_map] at returns
  obtain ⟨⟨fields, value⟩, found⟩ := Option.isSome_iff_exists.mp returns
  rw [found, Option.map_some] at same
  rw [← fields_kept_iff found]
  constructor
  · rintro ⟨fields', value', found', -, kept⟩
    cases found.symm.trans found'
    exact kept
  · intro kept
    exact ⟨fields, value, found, same, kept⟩

/-- A segment behind the first that buys USDC. -/
def usdcSegment : Builder :=
  .v2MultiWethIsInput 0xA0b86991c6218b36c1d19D4a2e9Eb0cE3606eB48
    ⟨0xB4e16d0168e52d35CaCD2c6185b44281Ec28C9Dc, 0xA0b86991c6218b36c1d19D4a2e9Eb0cE3606eB48,
      getWethAddress, 3000⟩ false

theorem keepsFields_usdc : KeepsFields usdcSegment 17000000 1000000000000000000 2000000000 :=
  (keepsFields_iff usdcSegment _ _ _ rfl).mpr (show _ < _ by decide)

/-- Of `2 ^ 72` wei nothing is left. -/
theorem not_keepsFields_usdc : ¬ KeepsFields usdcSegment 17000000 4722366482869645213696 2000000000 := by
  rintro ⟨fields, value, found, -, kept⟩
  simp only [usdcSegment, Builder.fields, Option.bind_eq_bind, Option.bind_eq_some_iff] at found
  obtain ⟨bought, -, label, -, built⟩ := found
  obtain ⟨rfl, -⟩ := Prod.mk.inj (Option.some.inj built)
  have weth := kept _ (List.mem_append_right _ (List.mem_singleton_self _))
  exact absurd ((kept_weth_iff 4722366482869645213696).mp weth) (by decide)

end Sando.TxBuilder
