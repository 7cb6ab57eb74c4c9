/-
The amount encoders.

All encoders run one loop with tests of their own, so that what they return is the first quotient that
passes the test (`Encodes`). An `Encoder` is one of them with that fact: it completes for amounts
below `2 ^ 128`, an amount it has decoded once is not changed again, and neither is that amount less
one unit of its mantissa (`Encoder.survives`). No encoder completes for all words: the sixteenth power
of the loop does not exist, in a debug build because it overflows and in a release build because it
wraps to zero and is divided by (`searchShift_release`). `total_iff` says where that starts.
-/

import Sando.Mantissa.Truncation
import Sando.TxBuilder.V3

namespace Sando.TxBuilder

open Sando.Evm Sando.Mantissa

/-! ### What the encoders have in common -/

/-- An encoding is the quotient for the first byte shift that makes it fit. -/
structure Encodes (fits : ℕ → Prop) (amount : ℕ) (encoded : EncodedSwapValue) : Prop where
  shortens : Shortens 256 fits amount encoded.byteShift
  value_eq : encoded.encodedValue = amount / 256 ^ encoded.byteShift
  shift_le : encoded.byteShift ≤ 15

section Encodes

variable {fits : ℕ → Prop} {amount mantissa exponent : ℕ} {encoded : EncodedSwapValue}

theorem Encodes.fitting (encodes : Encodes fits amount encoded) : fits encoded.encodedValue :=
  encodes.value_eq ▸ encodes.shortens.fitting

theorem Encodes.decode_eq (encodes : Encodes fits amount encoded) :
    encoded.decode = truncate 256 amount encoded.byteShift := by
  rw [EncodedSwapValue.decode_eq, encodes.value_eq, truncate]

/-- A representable amount is decoded as it is. -/
theorem Encodes.decode_representable (fitting : fits mantissa)
    (encodes : Encodes fits (mantissa * 256 ^ exponent) encoded) :
    encoded.decode = mantissa * 256 ^ exponent := by
  rw [encodes.decode_eq]
  exact encodes.shortens.truncate_representable (by norm_num) fitting

/-- An amount that is not zero keeps a digit. -/
theorem Encodes.value_ne_zero (nonzero : amount ≠ 0) (byte : ∀ value, value < 256 → fits value)
    (encodes : Encodes fits amount encoded) : encoded.encodedValue ≠ 0 := by
  rw [encodes.value_eq]
  cases shift : encoded.byteShift with
  | zero => simpa using nonzero
  | succ earlier =>
    -- one byte less and the quotient did not even fit a byte
    have long := encodes.shortens.first earlier (by omega)
    have large : 256 ≤ amount / 256 ^ earlier := by
      by_contra small
      exact long (byte _ (not_le.mp small))
    rw [pow_succ, ← Nat.div_div_eq_div_mul]
    omega

end Encodes

section Loop

variable {fits : ℕ → Prop} [DecidablePred fits] {amount : ℕ}

theorem encodes_findShift {value shift : ℕ} (offset : ℕ)
    (found : findShift (fun encoded => fits encoded) amount = some (value, shift)) :
    Encodes fits amount ⟨value, offset, shift⟩ := by
  obtain ⟨small, quotient, fitting, minimal⟩ := findShift_spec found
  exact ⟨⟨quotient ▸ of_decide_eq_true fitting, fun earlier before =>
    of_decide_eq_false (minimal earlier before)⟩, quotient, small⟩

/-- The loop finds a quotient exactly when the fifteenth one fits. -/
theorem findShift_isSome_iff (shrink : ∀ large small, small ≤ large → fits large → fits small) :
    (findShift (fun encoded => fits encoded) amount).isSome ↔ fits (amount / 256 ^ 15) := by
  refine ⟨fun found => ?_, fun fitting =>
    findShift_isSome _ (show 15 ≤ 15 by norm_num) (decide_eq_true fitting)⟩
  obtain ⟨⟨value, shift⟩, search⟩ := Option.isSome_iff_exists.mp found
  obtain ⟨small, quotient, fitting, -⟩ := findShift_spec search
  refine shrink _ _ ?_ (of_decide_eq_true fitting)
  rw [quotient]
  exact Nat.div_le_div_left (Nat.pow_le_pow_right (by norm_num) small) (by positivity)

end Loop

/-- An encoder: a function that returns encodings, and where it returns. Its test passes every
byte, and every value below one that passes. -/
structure Encoder (fits : ℕ → Prop) where
  encode : ℕ → Option EncodedSwapValue
  encodes : ∀ {amount encoded}, encode amount = some encoded → Encodes fits amount encoded
  isSome_iff : ∀ amount, (encode amount).isSome ↔ fits (amount / 256 ^ 15)
  byte : ∀ value, value < 256 → fits value
  shrink : ∀ large small, small ≤ large → fits large → fits small

/-- `encode_four_bytes`. -/
def V2.fourBytes (isWethInput isWethToken0 : Bool) : Encoder (· ≤ 2 ^ 31) where
  encode amount := V2.encodeFourBytes amount isWethInput isWethToken0
  encodes found := by
    obtain ⟨small, quotient, fitting, -, minimal⟩ := V2.encodeFourBytes_spec found
    exact ⟨⟨quotient ▸ fitting, fun earlier before => not_le.mpr (minimal earlier before)⟩,
      quotient, small⟩
  isSome_iff amount := by
    have loop : (V2.encodeFourBytes amount isWethInput isWethToken0).isSome
        = (findShift (fun encoded => encoded ≤ 2 ^ 31) amount).isSome := by
      unfold V2.encodeFourBytes
      cases findShift _ amount <;> cases isWethInput <;> cases isWethToken0 <;> rfl
    rw [loop]
    exact findShift_isSome_iff fun large small less fitting => less.trans fitting
  byte value small := by omega
  shrink large small less fitting := less.trans fitting

/-- `encode_five_bytes`. -/
def V2.fiveBytes (isWethToken0 : Bool) : Encoder (· ≤ 2 ^ 39) where
  encode amount := V2.encodeFiveBytes amount isWethToken0
  encodes found := by
    rw [V2.encodeFiveBytes, Option.bind_eq_bind, Option.bind_eq_some_iff] at found
    obtain ⟨⟨value, shift⟩, search, built⟩ := found
    obtain rfl := Option.some.inj built
    exact encodes_findShift _ search
  isSome_iff amount := by
    have loop : (V2.encodeFiveBytes amount isWethToken0).isSome
        = (findShift (fun encoded => encoded ≤ 2 ^ 39) amount).isSome := by
      unfold V2.encodeFiveBytes
      cases findShift _ amount <;> rfl
    rw [loop]
    exact findShift_isSome_iff fun large small less fitting => less.trans fitting
  byte value small := by omega
  shrink large small less fitting := less.trans fitting

/-- `encode_num_bytes`. -/
def V3.numBytes (count : ℕ) (positive : 0 < count) : Encoder (· < 256 ^ count) where
  encode amount := V3.encodeNumBytes amount count
  encodes found := by
    obtain ⟨small, quotient, fitting, minimal⟩ := V3.encodeNumBytes_spec found
    exact ⟨⟨quotient ▸ fitting, fun earlier before => not_lt.mpr (minimal earlier before)⟩,
      quotient, small⟩
  isSome_iff amount := by
    have loop : (V3.encodeNumBytes amount count).isSome
        = (findShift (fun encoded => encoded < 256 ^ count) amount).isSome := by
      rw [← two_pow_eight_mul, Nat.mul_comm 8, V3.encodeNumBytes]
      cases findShift _ amount <;> rfl
    rw [loop]
    exact findShift_isSome_iff fun large small less fitting => less.trans_lt fitting
  byte value small := small.trans_le (Nat.le_self_pow positive.ne' 256)
  shrink large small less fitting := less.trans_lt fitting

section Encoder

variable {fits : ℕ → Prop} (encoder : Encoder fits) {amount : ℕ}

theorem Encoder.complete (small : amount < 2 ^ 128) :
    ∃ encoded, encoder.encode amount = some encoded :=
  Option.isSome_iff_exists.mp ((encoder.isSome_iff amount).mpr (encoder.byte _ (by omega)))

/-! ### Encoding an amount again -/

/-- The real amount after encoding and decoding. -/
def Encoder.decoded (amount : ℕ) : Option ℕ := do
  let encoded ← encoder.encode amount
  some encoded.decode

/-- The real amount, less one unit of the mantissa. -/
def Encoder.dusted (amount : ℕ) : Option ℕ := do
  let encoded ← encoder.encode amount
  if encoded.encodedValue = 0 then none
  else some { encoded with encodedValue := encoded.encodedValue - 1 }.decode

/-- A quoted amount, once decoded, and what a backrun sells of it. -/
structure Survives (amount front back : ℕ) : Prop where
  decoded : encoder.decoded amount = some front
  again : encoder.decoded front = some front
  dusted : encoder.dusted front = some back
  dust : back < front
  below : front ≤ amount
  encoded : ∀ encoded, encoder.encode back = some encoded → encoded.decode = back

/-- Every amount below `2 ^ 128` survives, and leaves some dust. -/
theorem Encoder.survives (nonzero : amount ≠ 0) (small : amount < 2 ^ 128) :
    ∃ front back, Survives encoder amount front back := by
  obtain ⟨first, found⟩ := encoder.complete small
  have quoted := encoder.encodes found
  have below : first.decode ≤ amount := quoted.decode_eq.trans_le truncate_le
  have front := first.decode_eq
  obtain ⟨second, foundAgain⟩ := encoder.complete (below.trans_lt small)
  have again := encoder.encodes foundAgain
  have same : second.decode = first.decode := by
    rw [front] at again ⊢
    exact again.decode_representable quoted.fitting
  have positive : second.encodedValue ≠ 0 := by
    refine again.value_ne_zero ?_ encoder.byte
    rw [front]
    exact Nat.mul_ne_zero (quoted.value_ne_zero nonzero encoder.byte) (by positivity)
  have less : (second.encodedValue - 1) * 256 ^ second.byteShift < first.decode := by
    rw [← same, EncodedSwapValue.decode_eq]
    exact Nat.mul_lt_mul_of_pos_right (by omega) (by positivity)
  refine ⟨first.decode, (second.encodedValue - 1) * 256 ^ second.byteShift, ?_, ?_, ?_, less, below,
    fun encoded builds => ?_⟩
  · rw [Encoder.decoded, found]
    rfl
  · rw [Encoder.decoded, foundAgain, ← same]
    rfl
  · rw [Encoder.dusted, foundAgain]
    simp only [Option.bind_eq_bind, Option.bind_some, positive, if_false]
    rw [EncodedSwapValue.decode_eq]
  · exact (encoder.encodes builds).decode_representable
      (encoder.shrink _ _ (Nat.sub_le _ _) again.fitting)

end Encoder

/-! ### Where the encoders stop -/

/-- The loop in a release build, where multiplication wraps around 128 bits and a division by zero is
a panic. -/
def searchShiftRelease (fits : ℕ → Bool) (amount : ℕ) : ℕ → ℕ → Option (ℕ × ℕ)
  | 0, _ => some (0, 0)
  | rounds + 1, i =>
    let divisor := 2 ^ (8 * i) % 2 ^ 128
    if divisor = 0 then none
    else if fits (amount / divisor) then some (amount / divisor, i)
    else searchShiftRelease fits amount rounds (i + 1)

/-- Both builds stop at the same amounts. -/
theorem searchShift_release (fits : ℕ → Bool) (amount rounds i : ℕ) :
    searchShiftRelease fits amount rounds i = searchShift fits amount rounds i := by
  induction rounds generalizing i with
  | zero => rfl
  | succ rounds ih =>
    rw [searchShiftRelease, searchShift]
    by_cases late : 128 ≤ 8 * i
    · have wraps : 2 ^ (8 * i) % 2 ^ 128 = 0 :=
        Nat.mod_eq_zero_of_dvd (pow_dvd_pow 2 late)
      simp only [wraps, if_true, if_pos late]
    · have whole : 2 ^ (8 * i) % 2 ^ 128 = 2 ^ (8 * i) :=
        Nat.mod_eq_of_lt (Nat.pow_lt_pow_right (by norm_num) (not_le.mp late))
      simp only [whole, if_neg late, ih]
      rw [if_neg (by positivity)]

/-- An encoder completes with a value of so many bytes: its loop ends with a quotient, the
differences of its offset do not underflow and its decoding does not overflow. -/
def Completes (encoder : Option EncodedSwapValue) (amount count : ℕ) : Prop :=
  ∃ encoded, encoder = some encoded
    ∧ encoded.encodedValue = amount / 256 ^ encoded.byteShift
    ∧ encoded.encodedValue < 256 ^ count
    ∧ count + encoded.byteShift ≤ 32
    ∧ encoded.encodedValue * 256 ^ encoded.byteShift < 2 ^ 256

theorem Encoder.completes_iff {fits : ℕ → Prop} (encoder : Encoder fits) {amount : ℕ} (count : ℕ)
    (narrow : ∀ value, fits value → value < 256 ^ count) (short : count ≤ 17)
    (word : amount < 2 ^ 256) :
    Completes (encoder.encode amount) amount count ↔ fits (amount / 256 ^ 15) := by
  rw [← encoder.isSome_iff, Option.isSome_iff_exists]
  refine ⟨fun ⟨encoded, found, _⟩ => ⟨encoded, found⟩, fun ⟨encoded, found⟩ => ?_⟩
  have encodes := encoder.encodes found
  have early := encodes.shift_le
  have whole : encoded.encodedValue * 256 ^ encoded.byteShift ≤ amount := by
    rw [encodes.value_eq]
    exact Nat.div_mul_le_self _ _
  exact ⟨encoded, found, encodes.value_eq, narrow _ encodes.fitting, by omega,
    whole.trans_lt word⟩

/-- Everything that is done to an amount completes. -/
structure Total (amount : ℕ) : Prop where
  fourBytes : ∀ isWethInput isWethToken0,
    Completes (V2.encodeFourBytes amount isWethInput isWethToken0) amount 4
  fiveBytes : ∀ isWethToken0, Completes (V2.encodeFiveBytes amount isWethToken0) amount 5
  numBytes : ∀ count, count = 4 ∨ count = 5 →
    Completes (V3.encodeNumBytes amount count) amount count
  v2DecodeIntermediary : ∀ isWethInput intermediary,
    (V2.decodeIntermediary amount isWethInput intermediary).isSome
  v2EncodeIntermediaryToken : ∀ isWethInput intermediary,
    (V2.encodeIntermediaryToken amount isWethInput intermediary).isSome
  v3DecodeIntermediary : (V3.decodeIntermediary amount).isSome
  v3EncodeIntermediaryToken : (V3.encodeIntermediaryToken amount).isSome

section Total

variable {fits : ℕ → Prop} (encoder : Encoder fits) {amount : ℕ}

theorem Encoder.decoded_isSome : (encoder.decoded amount).isSome = (encoder.encode amount).isSome := by
  rw [Encoder.decoded]
  cases encoder.encode amount <;> rfl

/-- The mantissa of an amount that is not zero can be decreased. -/
theorem Encoder.dusted_isSome (nonzero : amount ≠ 0) :
    (encoder.dusted amount).isSome = (encoder.encode amount).isSome := by
  rw [Encoder.dusted]
  cases found : encoder.encode amount with
  | none => rfl
  | some encoded =>
    have positive := (encoder.encodes found).value_ne_zero nonzero encoder.byte
    simp [positive]

/-- All of it completes for the amounts below a little more than `2 ^ 151`, where the four-byte
encoder still finds a quotient. -/
theorem total_iff (amount : Word) (nonzero : amount.toNat ≠ 0) :
    Total amount.toNat ↔ amount.toNat < 2 ^ 151 + 2 ^ 120 := by
  have four (isWethInput isWethToken0 : Bool) :
      Completes (V2.encodeFourBytes amount.toNat isWethInput isWethToken0) amount.toNat 4
        ↔ amount.toNat / 256 ^ 15 ≤ 2 ^ 31 :=
    (V2.fourBytes isWethInput isWethToken0).completes_iff 4 (fun _ _ => by omega) (by norm_num)
      amount.isLt
  have five (isWethToken0 : Bool) :
      Completes (V2.encodeFiveBytes amount.toNat isWethToken0) amount.toNat 5
        ↔ amount.toNat / 256 ^ 15 ≤ 2 ^ 39 :=
    (V2.fiveBytes isWethToken0).completes_iff 5 (fun _ _ => by omega) (by norm_num) amount.isLt
  have num (count : ℕ) (positive : 0 < count) (short : count ≤ 17) :
      Completes (V3.encodeNumBytes amount.toNat count) amount.toNat count
        ↔ amount.toNat / 256 ^ 15 < 256 ^ count :=
    (V3.numBytes count positive).completes_iff count (fun _ small => small) short amount.isLt
  constructor
  · intro total
    have fits := (four false false).mp (total.fourBytes false false)
    omega
  · intro small
    have fits : amount.toNat / 256 ^ 15 ≤ 2 ^ 31 := by omega
    have v2 (isWethInput isWethToken0 : Bool) :=
      ((V2.fourBytes isWethInput isWethToken0).isSome_iff amount.toNat).mpr fits
    have v3 := ((V3.numBytes 5 (by norm_num)).isSome_iff amount.toNat).mpr
      (fits.trans_lt (by norm_num))
    exact {
      fourBytes := fun _ _ => (four _ _).mpr fits
      fiveBytes := fun _ => (five _).mpr (fits.trans (by norm_num))
      numBytes := by
        rintro count (rfl | rfl)
        · exact (num 4 (by norm_num) (by norm_num)).mpr (fits.trans_lt (by norm_num))
        · exact (num 5 (by norm_num) (by norm_num)).mpr (fits.trans_lt (by norm_num))
      v2DecodeIntermediary := fun _ _ =>
        (Encoder.decoded_isSome (V2.fourBytes _ _)).trans (v2 _ _)
      v2EncodeIntermediaryToken := fun _ _ =>
        (Encoder.dusted_isSome (V2.fourBytes _ _) nonzero).trans (v2 _ _)
      v3DecodeIntermediary := (Encoder.decoded_isSome (V3.numBytes 5 _)).trans v3
      v3EncodeIntermediaryToken := (Encoder.dusted_isSome (V3.numBytes 5 _) nonzero).trans v3 }

/-- Two thousand USDC are below. -/
theorem total_iff_usdc : Total (2000000000 : Word).toNat
    ↔ (2000000000 : Word).toNat < 2 ^ 151 + 2 ^ 120 :=
  total_iff 2000000000 (by decide)

/-- For `2 ^ 152` the four-byte encoder has no result. -/
theorem not_total_large : ¬ Total (2 ^ 152) := by
  intro total
  obtain ⟨encoded, found, -⟩ := total.fourBytes false false
  have stuck : V2.encodeFourBytes (2 ^ 152) false false = none := by decide +kernel
  rw [stuck] at found
  exact Option.some_ne_none _ found.symm

end Total

end Sando.TxBuilder
