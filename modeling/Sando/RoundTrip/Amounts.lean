/-
Amounts on their way into the contract.

The helper of the tests encodes amounts too (`helperLoop`). The V3 encoder agrees with it, with the
builders and with the handlers (`v3_encoding_tight`); the V2 encoders test one bit too few and then
lose a byte (`v2_encoding_matches_iff`). A backrun amount that was decoded once and decreased by one
unit arrives as it is (`backrun_survives`). An amount of WETH, which is rounded down to a multiple of
`2 ^ 32` first, is encoded again by the V3 builders for several swaps, in four bytes
(`v3_multi_agrees_iff`).
-/

import Sando.Huff.Segments
import Sando.RoundTrip.V3
import Sando.TxBuilder.Amounts

namespace Sando.RoundTrip

open Sando.Evm Sando.Huff Sando.TxBuilder Sando.Mantissa

/-! ### The helper -/

/-- The encoded amount, the byte shift and the amount after encoding. -/
def encodeNumToByteAndOffsetV2 (amount numBytesToEncodeTo : ℕ) : ℕ × ℕ × ℕ :=
  let (encodedAmount, encodedByteShift) := helperLoop amount numBytesToEncodeTo
  (encodedAmount, encodedByteShift, encodedAmount * 2 ^ (encodedByteShift * 8) % 2 ^ 256)

/-- The encoded amount, how many bytes it is to be shifted right, the amount after encoding and its
offset in memory. -/
def encodeNumToByteAndOffsetV3 (amount numBytesToEncodeTo : ℕ) : ℕ × ℕ × ℕ × ℕ :=
  let (encodedAmount, byteShift) := helperLoop amount numBytesToEncodeTo
  let amountAfterEncoding := encodedAmount * 2 ^ (byteShift * 8) % 2 ^ 256
  let encodedByteShift := 32 - numBytesToEncodeTo - byteShift
  let memOffset := 68 - numBytesToEncodeTo - encodedByteShift
  (encodedAmount, encodedByteShift, amountAfterEncoding, memOffset)

/-! ### Against the helper -/

/-- The leading digits of an amount. -/
def leading (digits amount : ℕ) : ℕ := amount / 256 ^ (Nat.log 256 amount - (digits - 1))

/-- An encoding like the one of the helper: the same value and the same shift, which is the least one,
and what is left is the greatest number of that form below the amount. -/
structure MatchesHelper (encoded : EncodedSwapValue) (amount count : ℕ) : Prop where
  encodedAmount : encoded.encodedValue = (encodeNumToByteAndOffsetV2 amount count).1
  encodedByteShift : encoded.byteShift = (encodeNumToByteAndOffsetV2 amount count).2.1
  least : Shortens 256 (· < 256 ^ count) amount encoded.byteShift
  quotient : encoded.encodedValue = amount / 256 ^ encoded.byteShift
  greatest : IsGreatest {number | number ≤ amount ∧ Representable 256 count number} encoded.decode

section Helper

variable {fits : ℕ → Prop} {amount count : ℕ} {encoded : EncodedSwapValue}

/-- An encoder with a stronger test matches the helper where the leading digits pass it. -/
theorem matchesHelper_iff (positive : 0 < count) (narrow : count ≤ 32) (small : amount < 2 ^ 256)
    (stronger : ∀ value, fits value → value < 256 ^ count) (encodes : Encodes fits amount encoded) :
    MatchesHelper encoded amount count ↔ fits (leading count amount) := by
  obtain ⟨shortens, value, -⟩ := helperLoop_spec positive narrow small
  rw [leading, ← shortens.exponent_eq positive (by norm_num),
    ← encodes.shortens.exponent_eq_iff stronger shortens]
  constructor
  · exact fun same => same.encodedByteShift
  · intro same
    have least : Shortens 256 (· < 256 ^ count) amount encoded.byteShift := same ▸ shortens
    refine ⟨?_, same, least, encodes.value_eq, ?_⟩
    · rw [encodes.value_eq, same]
      exact value.symm
    · rw [encodes.decode_eq]
      exact least.isGreatest positive (by norm_num)

end Helper

/-- The V2 encoders match the helper for the amounts whose leading bytes, as a number, are at most half
of what fits. -/
theorem v2_encoding_matches_iff (amount : Word) :
    (∀ isWethInput isWethToken0 encoded,
      V2.encodeFourBytes amount.toNat isWethInput isWethToken0 = some encoded →
        (MatchesHelper encoded amount.toNat 4 ↔ leading 4 amount.toNat ≤ 2 ^ 31))
    ∧ (∀ isWethToken0 encoded, V2.encodeFiveBytes amount.toNat isWethToken0 = some encoded →
        (MatchesHelper encoded amount.toNat 5 ↔ leading 5 amount.toNat ≤ 2 ^ 39)) := by
  constructor
  · intro isWethInput isWethToken0 encoded found
    exact matchesHelper_iff (by norm_num) (by norm_num) amount.isLt
      (fun value (fitting : value ≤ 2 ^ 31) => by omega)
      ((V2.fourBytes isWethInput isWethToken0).encodes found)
  · intro isWethToken0 encoded found
    exact matchesHelper_iff (by norm_num) (by norm_num) amount.isLt
      (fun value (fitting : value ≤ 2 ^ 39) => by omega)
      ((V2.fiveBytes isWethToken0).encodes found)

/-- The amount of Dai that the test of the contract sells, whose four leading bytes are all `0xff`. -/
def daiAmount : Word := 4722366481770134000000

/-- The condition, for that amount. -/
theorem v2_encoding_matches_iff_dai :
    (MatchesHelper ⟨16777215, 58, 6⟩ daiAmount.toNat 4 ↔ leading 4 daiAmount.toNat ≤ 2 ^ 31)
    ∧ (MatchesHelper ⟨4294967295, 63, 5⟩ daiAmount.toNat 5 ↔ leading 5 daiAmount.toNat ≤ 2 ^ 39) :=
  ⟨(v2_encoding_matches_iff daiAmount).1 false true _ (by decide +kernel),
    (v2_encoding_matches_iff daiAmount).2 true _ (by decide +kernel)⟩

/-- The encoder takes a shift of six where five would do. -/
theorem v2_encoding_dai_not_matches :
    ∃ encoded, V2.encodeFourBytes daiAmount.toNat false false = some encoded
      ∧ ¬ MatchesHelper encoded daiAmount.toNat 4 := by
  refine ⟨⟨16777215, 58, 6⟩, by decide +kernel, fun matching => ?_⟩
  exact matching.least.first 5 (by norm_num) (by decide +kernel)

/-! ### Against the handlers -/

/-- A payload has an encoding in a place: its shift in bits, and its value behind that. -/
structure HasField (payload : List Byte) (place count : ℕ) (encoded : EncodedSwapValue) : Prop where
  shiftByte : (byteAt payload place).toNat = (32 - count - encoded.byteShift) * 8
  value : window (byteAt payload) (place + 1) count = encoded.encodedValue

/-- Where the segment of a V3 payload for several swaps starts. -/
def multiCursor (isFirst : Bool) : ℕ := if isFirst then 2 else 1

section Field

variable {encoded : EncodedSwapValue}

/-- The handlers read the decoded amount. -/
theorem HasField.handed {payload : List Byte} {place count : ℕ}
    (field : HasField payload place count encoded) (room : count + encoded.byteShift ≤ 32) :
    (packedWord (byteAt payload) place (place + 1) count).toNat = encoded.decode := by
  rw [toNat_packedWord room field.shiftByte, field.value, EncodedSwapValue.decode_eq]

theorem hasField_append {count place : ℕ} (front rest : List Byte) (length : front.length = place)
    (positive : 0 < count) (fits : encoded.encodedValue < 256 ^ count) :
    HasField (front ++ (bigEndian 1 ((32 - count - encoded.byteShift) * 8)
      ++ (bigEndian count encoded.encodedValue ++ rest))) place count encoded := by
  subst length
  constructor
  · rw [← window_one, window_append_right (le_refl _), Nat.sub_self]
    exact window_field (by omega)
  · rw [window_append_right (by omega), Nat.add_sub_cancel_left, window_append_right (by simp),
      length_bigEndian]
    exact window_field fits

section Payloads

variable {rest : List Byte} {blockNumber name pool : ℕ}

/-- The amount of a single swap stands behind the address of the pool. -/
theorem single_hasField (fits : encoded.encodedValue < 256 ^ 5) :
    HasField (bigEndian 1 blockNumber ++ (bigEndian 1 name ++ (bigEndian 20 pool
      ++ (bigEndian 1 ((27 - encoded.byteShift) * 8) ++ (bigEndian 5 encoded.encodedValue ++ rest)))))
      0x16 5 encoded := by
  have field := hasField_append (bigEndian 1 blockNumber ++ (bigEndian 1 name ++ bigEndian 20 pool))
    rest (by simp : _ = 0x16) (by norm_num) fits
  simpa only [List.append_assoc] using field

variable {block : Word} {isFirst : Bool} {four five : EncodedSwapValue}

/-- So does the amount of WETH in a segment for several swaps. -/
theorem four_hasField (fits : four.encodedValue < 256 ^ 4) :
    HasField (V3.withBlock block isFirst (bigEndian 1 name ++ (bigEndian 20 pool
      ++ (V3.amountFields four five ++ rest)))) (multiCursor isFirst + 0x15) 4 four := by
  have field := hasField_append (bigEndian 1 block.toNat
    ++ ((if isFirst then bigEndian 1 getPrepareStackPayload.toNat else [])
    ++ (bigEndian 1 name ++ bigEndian 20 pool)))
    (bigEndian 1 ((27 - five.byteShift) * 8) ++ (bigEndian 5 five.encodedValue ++ rest))
    (by cases isFirst <;> simp [multiCursor] : _ = multiCursor isFirst + 0x15) (by norm_num) fits
  simpa only [V3.withBlock_eq, V3.amountFields, List.append_assoc] using field

/-- The amount of the other token follows it. -/
theorem five_hasField (fits : five.encodedValue < 256 ^ 5) :
    HasField (V3.withBlock block isFirst (bigEndian 1 name ++ (bigEndian 20 pool
      ++ (V3.amountFields four five ++ rest)))) (multiCursor isFirst + 0x1a) 5 five := by
  have field := hasField_append (bigEndian 1 block.toNat
    ++ ((if isFirst then bigEndian 1 getPrepareStackPayload.toNat else [])
    ++ (bigEndian 1 name ++ (bigEndian 20 pool ++ (bigEndian 1 ((28 - four.byteShift) * 8)
    ++ bigEndian 4 four.encodedValue))))) rest
    (by cases isFirst <;> simp [multiCursor] : _ = multiCursor isFirst + 0x1a) (by norm_num) fits
  simpa only [V3.withBlock_eq, V3.amountFields, List.append_assoc] using field

end Payloads

end Field

/-- The payloads for several swaps have an amount of WETH in four bytes, where the handlers read it. -/
structure FourEmitted (amount : Word) (encoded : EncodedSwapValue) : Prop where
  input : ∀ keccak blockNumber amountOut input output pool isFirst payload value,
    V3.createMultiPayloadWethIsInput keccak blockNumber amount amountOut input output pool isFirst
      = some (payload, value) →
    HasField payload (multiCursor isFirst + 0x15) 4 encoded
  output : ∀ keccak blockNumber amountIn input output pool isFirst payload value,
    V3.createMultiPayloadWethIsOutput keccak blockNumber amountIn amount input output pool isFirst
      = some (payload, value) →
    HasField payload (multiCursor isFirst + 0x15) 4 encoded

/-- All V3 payloads have an amount of the other token in five bytes, where the handlers read it. -/
structure FiveEmitted (amount : Word) (encoded : EncodedSwapValue) : Prop where
  singleInput : ∀ keccak blockNumber amountIn input output pool payload value,
    V3.createPayloadWethIsInput keccak blockNumber amountIn amount input output pool
      = some (payload, value) →
    HasField payload 0x16 5 encoded
  singleOutput : ∀ keccak blockNumber amountOut input output pool payload value,
    V3.createPayloadWethIsOutput keccak blockNumber amount amountOut input output pool
      = some (payload, value) →
    HasField payload 0x16 5 encoded
  input : ∀ keccak blockNumber amountIn input output pool isFirst payload value,
    V3.createMultiPayloadWethIsInput keccak blockNumber amountIn amount input output pool isFirst
      = some (payload, value) →
    HasField payload (multiCursor isFirst + 0x1a) 5 encoded
  output : ∀ keccak blockNumber amountOut input output pool isFirst payload value,
    V3.createMultiPayloadWethIsOutput keccak blockNumber amount amountOut input output pool isFirst
      = some (payload, value) →
    HasField payload (multiCursor isFirst + 0x1a) 5 encoded

section Emitted

variable {amount : Word} {encoded : EncodedSwapValue}

theorem four_emitted (found : V3.encodeNumBytes amount.toNat 4 = some encoded) :
    FourEmitted amount encoded := by
  obtain ⟨-, -, fitting, -⟩ := V3.encodeNumBytes_spec found
  constructor
  · intro keccak blockNumber amountOut input output pool isFirst payload value built
    obtain ⟨spent, bought, rest, foundIn, -, rfl⟩ := V3.createMultiPayloadWethIsInput_fields built
    obtain rfl := Option.some.inj (found.symm.trans foundIn)
    exact four_hasField fitting
  · intro keccak blockNumber amountIn input output pool isFirst payload value built
    obtain ⟨taken, sold, rest, foundOut, -, rfl⟩ := V3.createMultiPayloadWethIsOutput_fields built
    obtain rfl := Option.some.inj (found.symm.trans foundOut)
    exact four_hasField fitting

theorem five_emitted (found : V3.encodeNumBytes amount.toNat 5 = some encoded) :
    FiveEmitted amount encoded := by
  obtain ⟨-, -, fitting, -⟩ := V3.encodeNumBytes_spec found
  constructor
  · intro keccak blockNumber amountIn input output pool payload value built
    obtain ⟨bought, rest, foundOut, rfl⟩ := V3.createPayloadWethIsInput_fields built
    obtain rfl := Option.some.inj (found.symm.trans foundOut)
    exact single_hasField fitting
  · intro keccak blockNumber amountOut input output pool payload value built
    obtain ⟨sold, rest, foundIn, rfl⟩ := V3.createPayloadWethIsOutput_fields built
    obtain rfl := Option.some.inj (found.symm.trans foundIn)
    exact single_hasField fitting
  · intro keccak blockNumber amountIn input output pool isFirst payload value built
    obtain ⟨spent, bought, rest, -, foundOut, rfl⟩ := V3.createMultiPayloadWethIsInput_fields built
    obtain rfl := Option.some.inj (found.symm.trans foundOut)
    exact five_hasField fitting
  · intro keccak blockNumber amountOut input output pool isFirst payload value built
    obtain ⟨taken, sold, rest, -, foundIn, rfl⟩ := V3.createMultiPayloadWethIsOutput_fields built
    obtain rfl := Option.some.inj (found.symm.trans foundIn)
    exact five_hasField fitting

end Emitted

theorem toNat_small {amount : ℕ} (small : amount < 2 ^ 128) :
    (BitVec.ofNat 256 amount).toNat = amount :=
  Nat.mod_eq_of_lt (small.trans (by norm_num))

/-- What the contract makes of an encoding: the shift byte, and the value at the front of a word that
is shifted right by it. -/
def handed (encoded : EncodedSwapValue) (count : ℕ) : Word :=
  packedWord (byteAt (bigEndian 1 ((32 - count - encoded.byteShift) * 8)
    ++ bigEndian count encoded.encodedValue)) 0 1 count

/-- An encoding that agrees with the helper, the builders and the handlers, and loses as little as
possible. -/
structure Tight (encoded : EncodedSwapValue) (amount count : ℕ) : Prop where
  encodedAmount : encoded.encodedValue = (encodeNumToByteAndOffsetV3 amount count).1
  room : count + encoded.byteShift ≤ 32
  shiftByte : (32 - count - encoded.byteShift) * 8 = (encodeNumToByteAndOffsetV3 amount count).2.1 * 8
  shiftByte_lt : (32 - count - encoded.byteShift) * 8 < 256
  four : count = 4 → FourEmitted (BitVec.ofNat 256 amount) encoded
  five : count = 5 → FiveEmitted (BitVec.ofNat 256 amount) encoded
  handed : (handed encoded count).toNat = encoded.decode
  greatest : IsGreatest {number | number ≤ amount ∧ Representable 256 count number} encoded.decode

/-- Every V3 encoding is tight. -/
theorem v3_encoding_tight (amount count : ℕ) (width : count = 4 ∨ count = 5)
    (small : amount < 2 ^ 128) :
    ∃ encoded, V3.encodeNumBytes amount count = some encoded ∧ Tight encoded amount count := by
  have positive : 0 < count := by omega
  have narrow : count ≤ 32 := by omega
  obtain ⟨encoded, found⟩ := (V3.numBytes count positive).complete small
  have encodes := (V3.numBytes count positive).encodes found
  have early := encodes.shift_le
  have fitting := encodes.fitting
  obtain ⟨shortens, value, room⟩ := helperLoop_spec positive narrow (small.trans (by norm_num))
  have same := encodes.shortens.unique shortens
  have emitted : V3.encodeNumBytes (BitVec.ofNat 256 amount).toNat count = some encoded := by
    rw [toNat_small small]
    exact found
  refine ⟨encoded, found, ?_, by omega, ?_, by omega, ?_, ?_, ?_, ?_⟩
  · rw [encodes.value_eq, same]
    exact value.symm
  · rw [same]
    rfl
  · rintro rfl
    exact four_emitted emitted
  · rintro rfl
    exact five_emitted emitted
  · rw [RoundTrip.handed, ← List.append_nil (bigEndian count encoded.encodedValue)]
    exact (hasField_append [] [] rfl positive fitting).handed (by omega)
  · rw [encodes.decode_eq]
    exact encodes.shortens.isGreatest positive (by norm_num)

/-- For two thousand USDC in four bytes. -/
theorem v3_encoding_tight_usdc :
    ∃ encoded, V3.encodeNumBytes 2000000000 4 = some encoded ∧ Tight encoded 2000000000 4 :=
  v3_encoding_tight 2000000000 4 (Or.inl rfl) (by norm_num)

/-! ### The amount of a backrun -/

/-- A builder hands an amount on: it returns for amounts out below `2 ^ 128`, and what it returns
carries the amount in the place where the contract reads it. -/
structure Hands (build : Word → Option (List Byte × Word)) (read : List Byte → ℕ) (amount : ℕ) :
    Prop where
  returns : ∀ amountOut, amountOut.toNat < 2 ^ 128 → (build amountOut).isSome
  carries : ∀ amountOut payload value, build amountOut = some (payload, value) → read payload = amount

/-- The amount a V2 handler pays with: four bytes, stored in front of the end of an ABI word. -/
def v2Paid (payload : List Byte) : ℕ :=
  window (byteAt payload) 0x2b 4 * 256 ^ (0x40 - (byteAt payload 2).toNat)

/-- The amount of a single V3 backrun. -/
def v3Sold (payload : List Byte) : ℕ := (packedWord (byteAt payload) 0x16 0x17 5).toNat

/-- The amount of WETH in a segment for several swaps. -/
def v3MultiWeth (isFirst : Bool) (payload : List Byte) : ℕ :=
  (packedWord (byteAt payload) (multiCursor isFirst + 0x15) (multiCursor isFirst + 0x16) 4).toNat

/-- The amount of the other token in it. -/
def v3MultiOther (isFirst : Bool) (payload : List Byte) : ℕ :=
  (packedWord (byteAt payload) (multiCursor isFirst + 0x1a) (multiCursor isFirst + 0x1b) 5).toNat

/-- A quoted amount on its way through a V2 backrun: once decoded it stays, less some dust it is what
the builders pack, and what the contract pays the pair. -/
def V2BackrunSurvives (otherToken : Address) (amount : ℕ) : Prop :=
  ∃ front back,
    (∀ isWethInput, V2.decodeIntermediary amount isWethInput otherToken = some front)
    ∧ (∀ isWethInput, V2.decodeIntermediary front isWethInput otherToken = some front)
    ∧ (∀ isWethInput, V2.encodeIntermediaryToken front isWethInput otherToken = some back)
    ∧ back < front ∧ front ≤ amount
    ∧ (∀ blockNumber pair, Hands (fun amountOut => V2.createPayloadWethIsOutput blockNumber
        (BitVec.ofNat 256 back) amountOut otherToken pair) v2Paid back)
    ∧ (∀ blockNumber pair isFirst, Hands (fun amountOut => V2.createMultiPayloadWethIsOutput
        blockNumber (BitVec.ofNat 256 back) amountOut otherToken pair isFirst) v2Paid back)
    ∧ ∀ blockNumber amountOut pair, ∃ payload value taken,
      V2.createPayloadWethIsOutput blockNumber (BitVec.ofNat 256 back) amountOut otherToken pair
        = some (payload, value)
      ∧ Makes blockNumber payload value fun self =>
        v2Backrun self pair.address otherToken (getWethAddress < otherToken) back taken

/-- The same for a V3 backrun. -/
def V3BackrunSurvives (keccak : List Byte → Word) (amount : ℕ) : Prop :=
  ∃ front back, V3.decodeIntermediary amount = some front
    ∧ V3.decodeIntermediary front = some front
    ∧ V3.encodeIntermediaryToken front = some back
    ∧ back < front ∧ front ≤ amount
    ∧ (∀ blockNumber input output pool, Hands (fun amountOut => V3.createPayloadWethIsOutput keccak
        blockNumber (BitVec.ofNat 256 back) amountOut input output pool) v3Sold back)
    ∧ ∀ blockNumber input output pool isFirst, Hands (fun amountOut =>
        V3.createMultiPayloadWethIsOutput keccak blockNumber (BitVec.ofNat 256 back) amountOut input
          output pool isFirst) (v3MultiOther isFirst) back

section Fields

variable {payload rest : List Byte} {encoded : EncodedSwapValue}

/-- The V2 field gives the decoded amount. -/
theorem v2Paid_eq {blockNumber name pair token : ℕ} (place : encoded.memOffset + encoded.byteShift = 0x40)
    (fits : encoded.encodedValue < 256 ^ 4) :
    v2Paid (bigEndian 1 blockNumber ++ (bigEndian 1 name ++ (bigEndian 1 encoded.memOffset
      ++ (bigEndian 20 pair ++ (bigEndian 20 token ++ (bigEndian 4 encoded.encodedValue ++ rest))))))
      = encoded.decode := by
  have offset : (byteAt (bigEndian 1 blockNumber ++ (bigEndian 1 name
      ++ (bigEndian 1 encoded.memOffset ++ (bigEndian 20 pair ++ (bigEndian 20 token
      ++ (bigEndian 4 encoded.encodedValue ++ rest)))))) 2).toNat = encoded.memOffset := by
    rw [← window_one]
    simp (disch := simp) only [window_append_right, length_bigEndian, Nat.reduceSub]
    exact window_field (by omega)
  rw [v2Paid, offset, EncodedSwapValue.decode_eq, ← place, Nat.add_sub_cancel_left]
  simp (disch := simp) only [window_append_right, length_bigEndian, Nat.reduceSub]
  rw [window_field fits]

end Fields

/-! ### Backruns -/

section Backrun

variable {back : ℕ}

section V2

variable {otherToken : Address} (small : back < 2 ^ 128)
  (arrives : ∀ encoded, V2.encodeFourBytes back false (getWethAddress < otherToken) = some encoded →
    encoded.decode = back)

include small arrives

/-- The single builder packs the amount. -/
theorem v2_single_hands (blockNumber : Word) (pair : Pool) : Hands (fun amountOut =>
    V2.createPayloadWethIsOutput blockNumber (BitVec.ofNat 256 back) amountOut otherToken pair)
      v2Paid back := by
  obtain ⟨encoded, found⟩ := V2.encodeFourBytes_isSome false (getWethAddress < otherToken) small
  have arrived := arrives encoded found
  have fitting := (V2.encodeFourBytes_spec found).2.2.1
  have place := output_memOffset found
  rw [← toNat_small small] at found
  have built (amountOut : Word) : V2.createPayloadWethIsOutput blockNumber (BitVec.ofNat 256 back)
      amountOut otherToken pair = some _ := V2.createPayloadWethIsOutput_eq found
  constructor
  · intro amountOut _
    simp only [built, Option.isSome_some]
  · intro amountOut payload value same
    obtain ⟨rfl, -⟩ := Prod.mk.inj (Option.some.inj ((built amountOut).symm.trans same))
    rw [← List.append_nil (bigEndian 4 encoded.encodedValue), v2Paid_eq place (by omega), arrived]

/-- So does the builder for several swaps. -/
theorem v2_multi_hands (blockNumber : Word) (pair : Pool) (isFirst : Bool) : Hands (fun amountOut =>
    V2.createMultiPayloadWethIsOutput blockNumber (BitVec.ofNat 256 back) amountOut otherToken pair
      isFirst) v2Paid back := by
  constructor
  · intro amountOut smallOut
    obtain ⟨sold, foundIn⟩ := V2.encodeFourBytes_isSome false (getWethAddress < otherToken) small
    obtain ⟨taken, foundOut⟩ := (V2.fiveBytes (getWethAddress < otherToken)).complete smallOut
    change V2.encodeFiveBytes amountOut.toNat (getWethAddress < otherToken) = some taken at foundOut
    rw [← toNat_small small] at foundIn
    simp only [V2.createMultiPayloadWethIsOutput, foundIn, foundOut, V2.findSwapType_eq,
      Option.bind_eq_bind, Option.bind_some]
    cases isFirst <;> rfl
  · intro amountOut payload value built
    obtain ⟨encoded, rest, found, rfl⟩ := V2.createMultiPayloadWethIsOutput_fields built
    rw [toNat_small small] at found
    have fitting := (V2.encodeFourBytes_spec found).2.2.1
    rw [v2Paid_eq (output_memOffset found) (by omega), arrives encoded found]

/-- The contract pays the pair the amount. -/
theorem v2_single_makes (blockNumber amountOut : Word) (pair : Pool) : ∃ payload value taken,
    V2.createPayloadWethIsOutput blockNumber (BitVec.ofNat 256 back) amountOut otherToken pair
        = some (payload, value)
      ∧ Makes blockNumber payload value fun self =>
        v2Backrun self pair.address otherToken (getWethAddress < otherToken) back taken := by
  obtain ⟨encoded, found⟩ := V2.encodeFourBytes_isSome false (getWethAddress < otherToken) small
  have arrived := arrives encoded found
  rw [← toNat_small small] at found
  obtain ⟨payload, value, built, -, makes⟩ :=
    backrun_makes blockNumber (BitVec.ofNat 256 back) amountOut otherToken pair found
  rw [arrived] at makes
  exact ⟨payload, value, _, built, makes⟩

end V2

section V3

variable (small : back < 2 ^ 128)
  (arrives : ∀ encoded, V3.encodeNumBytes back 5 = some encoded → encoded.decode = back)
  (keccak : List Byte → Word) (blockNumber : Word) (input output : Address) (pool : Pool)

include small arrives

theorem v3_single_hands : Hands (fun amountOut => V3.createPayloadWethIsOutput keccak blockNumber
    (BitVec.ofNat 256 back) amountOut input output pool) v3Sold back := by
  obtain ⟨encoded, found⟩ := V3.encodeNumBytes_isSome (by norm_num : 4 ≤ 5) small
  have arrived := arrives encoded found
  obtain ⟨early, -, -, -⟩ := V3.encodeNumBytes_spec found
  have back_eq := toNat_small small
  rw [← back_eq] at found
  have built {amountOut : Word} (smallOut : amountOut.toNat < 2 ^ 128) :
      V3.createPayloadWethIsOutput keccak blockNumber (BitVec.ofNat 256 back) amountOut input output
        pool = some _ := V3.createPayloadWethIsOutput_eq (back_eq.trans_lt small) smallOut found
  constructor
  · intro amountOut smallOut
    simp only [built smallOut, Option.isSome_some]
  · intro amountOut payload value same
    rw [← arrived]
    exact ((five_emitted found).singleOutput _ _ _ _ _ _ _ _ same).handed (by omega)

theorem v3_multi_hands (isFirst : Bool) : Hands (fun amountOut => V3.createMultiPayloadWethIsOutput
    keccak blockNumber (BitVec.ofNat 256 back) amountOut input output pool isFirst)
      (v3MultiOther isFirst) back := by
  constructor
  · intro amountOut smallOut
    exact V3.createMultiPayloadWethIsOutput_isSome keccak blockNumber input output pool isFirst
      ((toNat_small small).trans_lt small) smallOut
  · intro amountOut payload value built
    obtain ⟨taken, sold, rest, -, found, -⟩ := V3.createMultiPayloadWethIsOutput_fields built
    have field := (five_emitted found).output _ _ _ _ _ _ _ _ _ built
    rw [toNat_small small] at found
    obtain ⟨early, -, -, -⟩ := V3.encodeNumBytes_spec found
    rw [← arrives sold found]
    exact field.handed (by omega)

end V3

end Backrun

section Survives

variable {amount : ℕ}

theorem v2_decodeIntermediary_eq (amount : ℕ) (isWethInput : Bool) (otherToken : Address) :
    V2.decodeIntermediary amount isWethInput otherToken
      = (V2.fourBytes false (getWethAddress < otherToken)).decoded amount := by
  simp only [V2.decodeIntermediary, Encoder.decoded, V2.fourBytes, V2.encodeFourBytes]
  cases findShift (fun encoded => encoded ≤ 2 ^ (4 * 8 - 1)) amount <;> cases isWethInput <;>
    cases decide (getWethAddress < otherToken) <;> rfl

theorem v2_encodeIntermediaryToken_eq (amount : ℕ) (isWethInput : Bool) (otherToken : Address) :
    V2.encodeIntermediaryToken amount isWethInput otherToken
      = (V2.fourBytes false (getWethAddress < otherToken)).dusted amount := by
  simp only [V2.encodeIntermediaryToken, Encoder.dusted, V2.fourBytes, V2.encodeFourBytes]
  cases findShift (fun encoded => encoded ≤ 2 ^ (4 * 8 - 1)) amount <;> cases isWethInput <;>
    cases decide (getWethAddress < otherToken) <;> rfl

/-- Every quoted amount below `2 ^ 128` survives both backruns. -/
theorem backrun_survives (otherToken : Address) (keccak : List Byte → Word) (nonzero : amount ≠ 0)
    (small : amount < 2 ^ 128) :
    V2BackrunSurvives otherToken amount ∧ V3BackrunSurvives keccak amount := by
  constructor
  · obtain ⟨front, back, survives⟩ :=
      (V2.fourBytes false (getWethAddress < otherToken)).survives nonzero small
    have backSmall : back < 2 ^ 128 := survives.dust.trans (survives.below.trans_lt small)
    refine ⟨front, back, fun _ => ?_, fun _ => ?_, fun _ => ?_, survives.dust, survives.below,
      v2_single_hands backSmall survives.encoded, v2_multi_hands backSmall survives.encoded,
      v2_single_makes backSmall survives.encoded⟩
    · rw [v2_decodeIntermediary_eq, survives.decoded]
    · rw [v2_decodeIntermediary_eq, survives.again]
    · rw [v2_encodeIntermediaryToken_eq, survives.dusted]
  · obtain ⟨front, back, survives⟩ := (V3.numBytes 5 (by norm_num)).survives nonzero small
    have backSmall : back < 2 ^ 128 := survives.dust.trans (survives.below.trans_lt small)
    exact ⟨front, back, survives.decoded, survives.again, survives.dusted, survives.dust,
      survives.below, v3_single_hands backSmall survives.encoded keccak,
      v3_multi_hands backSmall survives.encoded keccak⟩

/-- Two thousand USDC do. -/
theorem backrun_survives_usdc :
    V2BackrunSurvives 0xA0b86991c6218b36c1d19D4a2e9Eb0cE3606eB48 2000000000
      ∧ V3BackrunSurvives usdcKeccak 2000000000 :=
  backrun_survives _ _ (by norm_num) (by norm_num)

end Survives

/-! ### WETH in payloads for several swaps -/

/-- The amounts of WETH that a V3 segment is quoted with, both rounded, are the ones the contract
reads from it. -/
structure MultiAgrees (spent taken : Word) : Prop where
  input : ∀ keccak blockNumber amountOut input output pool isFirst payload value,
    V3.createMultiPayloadWethIsInput keccak blockNumber (BitVec.ofNat 256 (encodeWeth spent.toNat))
      amountOut input output pool isFirst = some (payload, value) →
    v3MultiWeth isFirst payload = encodeWeth spent.toNat
  output : ∀ keccak blockNumber amountIn input output pool isFirst payload value,
    V3.createMultiPayloadWethIsOutput keccak blockNumber amountIn
      (BitVec.ofNat 256 (encodeWeth taken.toNat)) input output pool isFirst = some (payload, value) →
    v3MultiWeth isFirst payload = encodeWeth taken.toNat

/-- The amounts whose bytes between the leading four and the last four are zero. -/
def FourBytesEnough (amount : ℕ) : Prop := amount / 2 ^ 32 % 256 ^ (Nat.log 256 amount - 7) = 0

section Multi

variable {amount : ℕ}

/-- A rounded amount is as long as the amount, unless nothing is left of it. -/
theorem log_encodeWeth (large : 2 ^ 32 ≤ amount) :
    Nat.log 256 (encodeWeth amount) = Nat.log 256 amount := by
  have nonzero : amount ≠ 0 := by omega
  have four : 4 ≤ Nat.log 256 amount :=
    (Nat.le_log_iff_pow_le (by norm_num) nonzero).mpr (le_trans (by norm_num) large)
  obtain ⟨extra, length⟩ := Nat.exists_eq_add_of_le four
  refine Nat.log_eq_of_pow_le_of_lt_pow ?_ (encodeWeth_le.trans_lt (Nat.lt_pow_succ_log_self
    (by norm_num) amount))
  have below : 256 ^ extra ≤ amount / 2 ^ 32 := by
    rw [Nat.le_div_iff_mul_le (by norm_num), show (2 : ℕ) ^ 32 = 256 ^ 4 by norm_num, ← pow_add,
      Nat.add_comm, ← length]
    exact Nat.pow_log_le_self 256 nonzero
  calc 256 ^ Nat.log 256 amount = 256 ^ extra * 2 ^ 32 := by
        rw [length, pow_add, Nat.mul_comm]
        norm_num
    _ ≤ encodeWeth amount := Nat.mul_le_mul_right _ below

/-- Four bytes hold a rounded amount exactly when the bytes behind them are zero. -/
theorem four_bytes_enough_iff {encoded : EncodedSwapValue}
    (found : V3.encodeNumBytes (encodeWeth amount) 4 = some encoded) :
    encoded.decode = encodeWeth amount ↔ FourBytesEnough amount := by
  have encodes := (V3.numBytes 4 (by norm_num)).encodes found
  rw [encodes.decode_eq, truncate_eq_self_iff,
    encodes.shortens.exponent_eq (by norm_num) (by norm_num), FourBytesEnough,
    ← Nat.dvd_iff_mod_eq_zero]
  by_cases large : 2 ^ 32 ≤ amount
  · rw [log_encodeWeth large, encodeWeth, getWethEncodeDivisor,
      show (4294967296 : ℕ) = 256 ^ 4 by norm_num, show (2 : ℕ) ^ 32 = 256 ^ 4 by norm_num]
    by_cases long : 7 ≤ Nat.log 256 amount
    · obtain ⟨extra, length⟩ := Nat.exists_eq_add_of_le long
      rw [length, show 7 + extra - (4 - 1) = extra + 4 by omega,
        show 7 + extra - 7 = extra by omega, pow_add, Nat.mul_dvd_mul_iff_right (by norm_num)]
    · rw [show Nat.log 256 amount - 7 = 0 by omega, pow_zero]
      refine iff_of_true ((pow_dvd_pow 256 ?_).trans (Nat.dvd_mul_left _ _)) (one_dvd _)
      omega
  · have nothing : amount / 2 ^ 32 = 0 := Nat.div_eq_of_lt (not_le.mp large)
    rw [encodeWeth, getWethEncodeDivisor, show (4294967296 : ℕ) = 2 ^ 32 by norm_num, nothing]
    simp

theorem toNat_encodeWeth (amount : Word) :
    (BitVec.ofNat 256 (encodeWeth amount.toNat)).toNat = encodeWeth amount.toNat := by
  rw [toNat_ofNat_of_lt (encodeWeth_le.trans_lt amount.isLt)]

section Builders

variable {keccak : List Byte → Word} {blockNumber amountIn amountOut value : Word}
  {input output : Address} {pool : Pool} {isFirst : Bool} {payload : List Byte}

theorem v3MultiWeth_input
    (built : V3.createMultiPayloadWethIsInput keccak blockNumber amountIn amountOut input output pool
      isFirst = some (payload, value)) :
    ∃ encoded, V3.encodeNumBytes amountIn.toNat 4 = some encoded
      ∧ v3MultiWeth isFirst payload = encoded.decode := by
  obtain ⟨spent, bought, rest, found, -, -⟩ := V3.createMultiPayloadWethIsInput_fields built
  obtain ⟨early, -, -, -⟩ := V3.encodeNumBytes_spec found
  exact ⟨spent, found, ((four_emitted found).input _ _ _ _ _ _ _ _ _ built).handed (by omega)⟩

theorem v3MultiWeth_output
    (built : V3.createMultiPayloadWethIsOutput keccak blockNumber amountIn amountOut input output pool
      isFirst = some (payload, value)) :
    ∃ encoded, V3.encodeNumBytes amountOut.toNat 4 = some encoded
      ∧ v3MultiWeth isFirst payload = encoded.decode := by
  obtain ⟨taken, sold, rest, found, -, -⟩ := V3.createMultiPayloadWethIsOutput_fields built
  obtain ⟨early, -, -, -⟩ := V3.encodeNumBytes_spec found
  exact ⟨taken, found, ((four_emitted found).output _ _ _ _ _ _ _ _ _ built).handed (by omega)⟩

end Builders

/-- What the contract reads of a rounded amount. -/
theorem weth_read_iff {amount : Word} {read : ℕ}
    (reads : ∃ encoded, V3.encodeNumBytes (BitVec.ofNat 256 (encodeWeth amount.toNat)).toNat 4
      = some encoded ∧ read = encoded.decode) :
    read = encodeWeth amount.toNat ↔ FourBytesEnough amount.toNat := by
  obtain ⟨encoded, found, rfl⟩ := reads
  rw [toNat_encodeWeth] at found
  exact four_bytes_enough_iff found

/-- The amounts agree exactly when four bytes are enough for both. -/
theorem v3_multi_agrees_iff (spent taken : Word) (spentSmall : spent.toNat < 2 ^ 128)
    (takenSmall : taken.toNat < 2 ^ 128) :
    MultiAgrees spent taken ↔ FourBytesEnough spent.toNat ∧ FourBytesEnough taken.toNat := by
  have zero : (0 : Word).toNat < 2 ^ 128 := by decide
  have fits (amount : Word) (small : amount.toNat < 2 ^ 128) :
      (BitVec.ofNat 256 (encodeWeth amount.toNat)).toNat < 2 ^ 128 :=
    (toNat_encodeWeth amount).trans_lt (encodeWeth_le.trans_lt small)
  constructor
  · rintro ⟨input, output⟩
    constructor
    · obtain ⟨⟨payload, value⟩, built⟩ := Option.isSome_iff_exists.mp
        (V3.createMultiPayloadWethIsInput_isSome (fun _ => 0) 0 0 0 ⟨0, 0, 0, 0⟩ true
          (fits spent spentSmall) zero)
      exact (weth_read_iff (v3MultiWeth_input built)).mp (input _ _ _ _ _ _ _ _ _ built)
    · obtain ⟨⟨payload, value⟩, built⟩ := Option.isSome_iff_exists.mp
        (V3.createMultiPayloadWethIsOutput_isSome (fun _ => 0) 0 0 0 ⟨0, 0, 0, 0⟩ true zero
          (fits taken takenSmall))
      exact (weth_read_iff (v3MultiWeth_output built)).mp (output _ _ _ _ _ _ _ _ _ built)
  · rintro ⟨enoughSpent, enoughTaken⟩
    constructor
    · intro keccak blockNumber amountOut input output pool isFirst payload value built
      exact (weth_read_iff (v3MultiWeth_input built)).mpr enoughSpent
    · intro keccak blockNumber amountIn input output pool isFirst payload value built
      exact (weth_read_iff (v3MultiWeth_output built)).mpr enoughTaken

/-- The condition, for twenty WETH in and 21 WETH out. -/
theorem v3_multi_agrees_iff_ether :
    MultiAgrees 20000000000000000000 21000000000000000000
      ↔ FourBytesEnough (20000000000000000000 : Word).toNat
        ∧ FourBytesEnough (21000000000000000000 : Word).toNat :=
  v3_multi_agrees_iff _ _ (by decide) (by decide)

/-- Of twenty WETH the contract reads almost a thousandth of a millionth less. -/
theorem v3_multi_ether_not_agrees :
    ¬ MultiAgrees 20000000000000000000 20000000000000000000 := by
  intro agrees
  obtain ⟨⟨payload, value⟩, built⟩ := Option.isSome_iff_exists.mp
    (V3.createMultiPayloadWethIsInput_isSome (fun _ => 0) 0 0 0 ⟨0, 0, 0, 0⟩ true
      (show (BitVec.ofNat 256 (encodeWeth 20000000000000000000)).toNat < 2 ^ 128 by decide +kernel)
      (show (0 : Word).toNat < 2 ^ 128 by decide))
  obtain ⟨encoded, found, read⟩ := v3MultiWeth_input built
  have lost : (V3.encodeNumBytes (BitVec.ofNat 256 (encodeWeth 20000000000000000000)).toNat 4).map
      EncodedSwapValue.decode = some 19999999961012895744 := by decide +kernel
  rw [found, Option.map_some, Option.some.injEq] at lost
  have handed := read.symm.trans (agrees.input _ _ _ _ _ _ _ _ _ built)
  rw [lost] at handed
  exact absurd handed (by decide +kernel)

end Multi

end Sando.RoundTrip
