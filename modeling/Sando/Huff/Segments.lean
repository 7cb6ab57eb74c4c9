/-
The segments of a chain.

A chain is a first segment and then later segments in any mix, each laid out the way the helper of the
tests packs it. `Segment.calls` and `Segment.accepts` say what a later segment is for: its calls and
when it goes on, as functions of its own fields. `Segment.runs` proves that the contract does just
that at any cursor, on any memory and behind any calls. `Field` is an amount that fits its bytes and,
shifted, a word; `helperLoop` is where the helper gets one from.
-/

import Sando.Huff.V2
import Sando.Huff.V3
import Sando.Mantissa.Truncation

namespace Sando.Huff

open Sando.Evm Sando.Evm.Context Sando.Mantissa Memory

/-! ### Amounts -/

/-- An amount in `count` bytes and a byte shift that keeps it inside a word. -/
structure Field (count : ℕ) where
  value : ℕ
  shift : ℕ
  value_lt : value < 256 ^ count
  room : count + shift ≤ 32

/-- The amount. -/
def Field.amount {count : ℕ} (field : Field count) : ℕ := field.value * 256 ^ field.shift

/-- The bytes of a V3 amount, with the shift in bits in front. -/
def Field.encode {count : ℕ} (field : Field count) : List Byte :=
  bigEndian 1 ((32 - count - field.shift) * 8) ++ bigEndian count field.value

/-- An amount of WETH at the end of a V2 segment, whose shift moves it towards the front. -/
structure TakenField where
  value : ℕ
  shift : ℕ
  value_lt : value < 256 ^ 5
  shift_lt : shift < 32
  fits : value * 256 ^ shift < 2 ^ 256

/-- The amount. -/
def TakenField.amount (field : TakenField) : ℕ := field.value * 256 ^ field.shift

section Field

variable {count : ℕ}

@[simp] theorem Field.length_encode (field : Field count) : field.encode.length = 1 + count := by
  rw [Field.encode, List.length_append, length_bigEndian, length_bigEndian]

/-- The loop of both encoders of the helper of the tests: the first quotient that fits and its shift. -/
def helperLoop (amount numBytesToEncodeTo : ℕ) : ℕ × ℕ :=
  match (List.range 32).find? fun i =>
    decide (amount / 2 ^ (8 * i) ≤ 2 ^ (numBytesToEncodeTo * 8) - 1) with
  | some i => (amount / 2 ^ (8 * i), i)
  | none => (0, 0)

theorem helperLoop_spec {amount : ℕ} (positive : 0 < count) (narrow : count ≤ 32)
    (small : amount < 2 ^ 256) :
    Shortens 256 (· < 256 ^ count) amount (helperLoop amount count).2
      ∧ (helperLoop amount count).1 = amount / 256 ^ (helperLoop amount count).2
      ∧ count + (helperLoop amount count).2 ≤ 32 := by
  have fits (i : ℕ) : amount / 2 ^ (8 * i) ≤ 2 ^ (count * 8) - 1 ↔ amount / 256 ^ i < 256 ^ count := by
    have one : 0 < 256 ^ count := by positivity
    rw [two_pow_eight_mul, two_pow_mul_eight]
    omega
  -- some round fits, the one that keeps the first bytes at the latest
  have late : amount / 256 ^ (32 - count) < 256 ^ count := by
    rw [Nat.div_lt_iff_lt_mul (by positivity), ← pow_add, Nat.add_sub_cancel' narrow]
    exact lt_of_lt_of_eq small (by norm_num)
  unfold helperLoop
  cases found : (List.range 32).find? fun i =>
      decide (amount / 2 ^ (8 * i) ≤ 2 ^ (count * 8) - 1) with
  | none =>
    have missed := List.find?_eq_none.mp found (32 - count) (List.mem_range.mpr (by omega))
    rw [decide_eq_true_iff, fits] at missed
    exact absurd late missed
  | some first =>
    obtain ⟨here, -, earlier⟩ := List.find?_range_eq_some.mp found
    have shortens : Shortens 256 (· < 256 ^ count) amount first := by
      refine ⟨(fits first).mp (of_decide_eq_true here), fun place before => ?_⟩
      have missed := earlier place before
      rwa [Bool.not_eq_true', decide_eq_false_iff_not, fits] at missed
    have room : first ≤ 32 - count := shortens.le late
    have total : count + first ≤ 32 := by omega
    exact ⟨shortens, congrArg (amount / ·) (two_pow_eight_mul first), total⟩

/-- The field of the helper. -/
def Field.ofAmount (amount : Word) (count : ℕ) (positive : 0 < count) (narrow : count ≤ 32) :
    Field count where
  value := (helperLoop amount.toNat count).1
  shift := (helperLoop amount.toNat count).2
  value_lt := by
    obtain ⟨shortens, value, -⟩ := helperLoop_spec positive narrow amount.isLt
    rw [value]
    exact shortens.fitting
  room := (helperLoop_spec positive narrow amount.isLt).2.2

end Field

/-! ### Later segments -/

/-- A later segment of a chain. -/
inductive Segment
  | v2InputMultiNext (pair : Address) (isWethToken0 : Bool) (amountOut : Field 4)
      (amountIn : BitVec 40)
  | v2OutputMultiNext (pair token : Address) (isWethToken0 : Bool) (amountIn : Field 4)
      (amountOut : TakenField)
  | v3Input0Multi (pool : Address) (amountIn : Field 4) (amountOut : Field 5) (poolKeyHash : Word)
  | v3Input1Multi (pool : Address) (amountIn : Field 4) (amountOut : Field 5) (poolKeyHash : Word)
  | v3Output0Multi (pool : Address) (amountOut : Field 4) (amountIn : Field 5) (token : Address)
      (poolKeyHash : Word)
  | v3Output1Multi (pool : Address) (amountOut : Field 4) (amountIn : Field 5) (token : Address)
      (poolKeyHash : Word)

namespace Segment

/-- Its handler. -/
def handler : Segment → Handler
  | v2InputMultiNext .. => .v2InputMultiNext
  | v2OutputMultiNext .. => .v2OutputMultiNext
  | v3Input0Multi .. => .v3Input0Multi
  | v3Input1Multi .. => .v3Input1Multi
  | v3Output0Multi .. => .v3Output0Multi
  | v3Output1Multi .. => .v3Output1Multi

/-- What is behind its label. -/
def fields : Segment → List Byte
  | v2InputMultiNext pair isWethToken0 amountOut amountIn =>
    bigEndian 1 (otherOffset isWethToken0 - amountOut.shift) ++ (bigEndian 20 pair.toNat
      ++ (bigEndian 4 amountOut.value ++ bigEndian 5 amountIn.toNat))
  | v2OutputMultiNext pair token isWethToken0 amountIn amountOut =>
    bigEndian 1 (0x40 - amountIn.shift) ++ (bigEndian 20 pair.toNat ++ (bigEndian 20 token.toNat
      ++ (bigEndian 4 amountIn.value ++ (bigEndian 5 amountOut.value
      ++ bigEndian 1 (wethOffset isWethToken0 - amountOut.shift)))))
  | v3Input0Multi pool amountIn amountOut poolKeyHash
  | v3Input1Multi pool amountIn amountOut poolKeyHash =>
    bigEndian 20 pool.toNat ++ (amountIn.encode ++ (amountOut.encode
      ++ bigEndian 32 poolKeyHash.toNat))
  | v3Output0Multi pool amountOut amountIn token poolKeyHash
  | v3Output1Multi pool amountOut amountIn token poolKeyHash =>
    bigEndian 20 pool.toNat ++ (amountOut.encode ++ (amountIn.encode ++ (bigEndian 20 token.toNat
      ++ bigEndian 32 poolKeyHash.toNat)))

/-- Its bytes. -/
def encode (segment : Segment) : List Byte :=
  bigEndian 1 (0x30 + 5 * segment.handler.index) ++ segment.fields

/-- The swap of a V3 segment. -/
def swap : Segment → Option V3Swap
  | v2InputMultiNext .. | v2OutputMultiNext .. => none
  | v3Input0Multi pool _ amountOut poolKeyHash =>
    some ⟨pool, true, 0 - BitVec.ofNat 256 amountOut.amount, wethAddress, poolKeyHash⟩
  | v3Input1Multi pool amountIn _ poolKeyHash =>
    some ⟨pool, false, BitVec.ofNat 256 amountIn.amount, wethAddress, poolKeyHash⟩
  | v3Output0Multi pool _ amountIn token poolKeyHash =>
    some ⟨pool, false, BitVec.ofNat 256 amountIn.amount, token, poolKeyHash⟩
  | v3Output1Multi pool amountOut _ token poolKeyHash =>
    some ⟨pool, true, 0 - BitVec.ofNat 256 amountOut.amount, token, poolKeyHash⟩

/-- Its calls. -/
def calls (self : Address) (segment : Segment) : List Event :=
  match segment with
  | v2InputMultiNext pair isWethToken0 amountOut amountIn =>
    v2Frontrun self pair isWethToken0 (amountIn.toNat * 2 ^ 32) amountOut.amount
  | v2OutputMultiNext pair token isWethToken0 amountIn amountOut =>
    v2Backrun self pair token isWethToken0 amountIn.amount amountOut.amount
  | _ => (segment.swap.map (V3Swap.call · self)).toList

/-- The first word a V3 pool returns, against the limit of the segment. -/
def guard (word : Word) : Segment → Bool
  | v2InputMultiNext .. | v2OutputMultiNext .. => true
  | v3Input0Multi _ amountIn _ _ => word < BitVec.ofNat 256 amountIn.amount
  | v3Input1Multi _ _ amountOut _ => BitVec.ofNat 256 amountOut.amount < 1 - word
  | v3Output0Multi _ amountOut _ _ _ => BitVec.ofNat 256 amountOut.amount < 1 - word
  | v3Output1Multi _ _ amountIn _ _ => word < BitVec.ofNat 256 amountIn.amount

/-- The segment goes on when its last call, the swap, succeeded and passes the guard. -/
def accepts (self : Address) (reply : Reply) (segment : Segment) : Bool :=
  reply.success && match segment.swap with
    | none => true
    | some swap => segment.guard (swap.returned self reply.output)

end Segment

/-! ### Reading a segment -/

section Reading

variable {message : Message} {front tail : List Byte} {count : ℕ}

theorem window_laid (laid : message.calldata = front ++ tail) (offset count : ℕ) :
    window message.data (front.length + offset) count = window (byteAt tail) offset count := by
  rw [Message.data, laid, window_append_right (Nat.le_add_right _ _), Nat.add_sub_cancel_left]

theorem data_laid (laid : message.calldata = front ++ tail) (offset : ℕ) :
    message.data (front.length + offset) = byteAt tail offset := by
  rw [Message.data, laid, byteAt_append_right (Nat.le_add_right _ _), Nat.add_sub_cancel_left]

theorem addressAt_laid (laid : message.calldata = front ++ tail) (offset : ℕ) :
    addressAt message.data (front.length + offset) = addressAt (byteAt tail) offset := by
  rw [addressAt, addressAt, window_laid laid]

theorem wordAt_laid (laid : message.calldata = front ++ tail) (offset : ℕ) :
    wordAt message.data (front.length + offset) = wordAt (byteAt tail) offset := by
  rw [wordAt, wordAt, window_laid laid]

theorem packedWord_laid (laid : message.calldata = front ++ tail)
    (shiftOffset fieldOffset count : ℕ) :
    packedWord message.data (front.length + shiftOffset) (front.length + fieldOffset) count
      = packedWord (byteAt tail) shiftOffset fieldOffset count := by
  rw [packedWord, packedWord, window_laid laid, data_laid laid]

/-- A word is read back. -/
theorem wordAt_bigEndian (word : Word) :
    wordAt (byteAt (bigEndian 32 word.toNat ++ tail)) 0 = word := by
  apply BitVec.eq_of_toNat_eq
  rw [toNat_wordAt, window_append_left (by simp), window_bigEndian]
  exact Nat.mod_eq_of_lt word.isLt

/-- Reading a word behind the first part of a byte string. -/
theorem wordAt_append_right {offset : ℕ} (beyond : front.length ≤ offset) :
    wordAt (byteAt (front ++ tail)) offset = wordAt (byteAt tail) (offset - front.length) := by
  rw [wordAt, wordAt, window_append_right beyond]

theorem packedWord_append_right {shiftOffset fieldOffset : ℕ} (beyond : front.length ≤ shiftOffset)
    (further : front.length ≤ fieldOffset) :
    packedWord (byteAt (front ++ tail)) shiftOffset fieldOffset count
      = packedWord (byteAt tail) (shiftOffset - front.length) (fieldOffset - front.length) count := by
  rw [packedWord, packedWord, window_append_right further, byteAt_append_right beyond]

/-- A V3 amount is read back. -/
theorem packedWord_encode (field : Field count) (wide : 0 < count) :
    packedWord (byteAt (field.encode ++ tail)) 0 1 count = BitVec.ofNat 256 field.amount := by
  have room := field.room
  have shift : (byteAt (field.encode ++ tail) 0).toNat = (32 - count - field.shift) * 8 := by
    rw [← window_one, Field.encode, List.append_assoc, window_append_left (by simp),
      window_bigEndian]
    exact Nat.mod_eq_of_lt (by omega)
  have value : window (byteAt (field.encode ++ tail)) 1 count = field.value := by
    rw [Field.encode, List.append_assoc, window_append_right (by simp), length_bigEndian,
      window_append_left (by simp), window_bigEndian, Nat.mod_eq_of_lt field.value_lt]
  have read : (packedWord (byteAt (field.encode ++ tail)) 0 1 count).toNat = field.amount := by
    rw [toNat_packedWord room shift, value]
    rfl
  rw [← read, BitVec.ofNat_toNat, BitVec.setWidth_eq]

end Reading

/-! ### Running a segment -/

namespace Segment

variable {world : World} {message : Message} {behind : Code Label} {front rest : List Byte}
  {events : List Event} {memory : Memory} {count : ℕ}

/-- What a segment does, wherever it lies in calldata and whatever happened before: it makes its calls
and goes on to the label behind itself when it is accepted. The stack holds the cursor and nothing
else. -/
def Runs (world : World) (message : Message) (front rest : List Byte) (memory : Memory)
    (events : List Event) (behind : Code Label) (segment : Segment) : Prop :=
  (sandwich world message).Attempts (segment.handler.code ++ behind)
    ⟨[BitVec.ofNat 256 front.length], memory, events⟩
    (segment.accepts message.address
      (world.reply (events ++ segment.calls message.address)) = true)
    (byteAt rest 0).toNat [BitVec.ofNat 256 (front.length + segment.encode.length)]
    (events ++ segment.calls message.address)

/-- The label behind a segment lies in calldata. -/
theorem next_laid {segment : Segment}
    (laid : message.calldata = front ++ (segment.encode ++ rest))
    (total : segment.encode.length = count) :
    front.length + count < 2 ^ 256
      ∧ (message.data (front.length + count)).toNat = (byteAt rest 0).toNat := by
  have size := message.calldata_fits
  rw [laid, List.length_append, List.length_append, total] at size
  rw [data_laid laid, byteAt_append_right total.le, total, Nat.sub_self]
  exact ⟨by omega, rfl⟩

theorem v2InputMultiNext_runs {pair : Address} {isWethToken0 : Bool} {amountOut : Field 4}
    {amountIn : BitVec 40}
    (laid : message.calldata = front
      ++ ((v2InputMultiNext pair isWethToken0 amountOut amountIn).encode ++ rest)) :
    (v2InputMultiNext pair isWethToken0 amountOut amountIn).Runs world message front rest
      memory events behind := by
  have total : (v2InputMultiNext pair isWethToken0 amountOut amountIn).encode.length = 0x1f := by
    simp [encode, fields]
  have small : amountOut.shift ≤ 28 := by have room := amountOut.room; omega
  have offset : amountOut.shift ≤ otherOffset isWethToken0 ∧ otherOffset isWethToken0 ≤ 0x40 := by
    cases isWethToken0 <;> simp only [otherOffset] <;> constructor <;> norm_num <;> omega
  have place : (message.data (front.length + 1)).toNat + amountOut.shift
      = otherOffset isWethToken0 := by
    rw [data_laid laid, ← window_one, encode, fields]
    simp (disch := simp) only [List.append_assoc, window_append_right, length_bigEndian,
      Nat.reduceSub]
    rw [window_append_left (by simp), window_bigEndian, Nat.mod_eq_of_lt (by omega)]
    omega
  have target : addressAt message.data (front.length + 2) = pair := by
    rw [addressAt_laid laid, encode, fields]
    simp (disch := simp) only [List.append_assoc, addressAt_append_right, length_bigEndian,
      Nat.reduceSub, addressAt_bigEndian]
  have bought : window message.data (front.length + 0x16) 4 = amountOut.value := by
    rw [window_laid laid, encode, fields]
    simp (disch := simp) only [List.append_assoc, window_append_right, length_bigEndian,
      Nat.reduceSub]
    rw [window_append_left (by simp), window_bigEndian, Nat.mod_eq_of_lt amountOut.value_lt]
  have spent : window message.data (front.length + 0x1a) 5 = amountIn.toNat := by
    rw [window_laid laid, encode, fields]
    simp (disch := simp) only [List.append_assoc, window_append_right, length_bigEndian,
      Nat.reduceSub]
    rw [window_append_left (by simp), window_bigEndian]
    exact Nat.mod_eq_of_lt amountIn.isLt
  obtain ⟨room, next⟩ := next_laid laid total
  rw [Runs, total]
  have run : (sandwich world message).Attempts (Huff.v2InputMultiNext ++ behind)
      ⟨[BitVec.ofNat 256 front.length], memory, events⟩ _ _ _ _ :=
    v2InputMultiNext_attempts room place small rfl
  rw [next, target, bought, spent] at run
  simp only [accepts, swap, Bool.and_true]
  exact run

theorem v2OutputMultiNext_runs {pair token : Address} {isWethToken0 : Bool} {amountIn : Field 4}
    {amountOut : TakenField}
    (laid : message.calldata = front
      ++ ((v2OutputMultiNext pair token isWethToken0 amountIn amountOut).encode ++ rest)) :
    (v2OutputMultiNext pair token isWethToken0 amountIn amountOut).Runs world message front rest
      memory events behind := by
  have total : (v2OutputMultiNext pair token isWethToken0 amountIn amountOut).encode.length
      = 0x34 := by simp [encode, fields]
  have paidSmall : amountIn.shift ≤ 28 := by have room := amountIn.room; omega
  have small := amountOut.shift_lt
  have offset : 0x20 ≤ wethOffset isWethToken0 ∧ wethOffset isWethToken0 ≤ 0x64 := by
    cases isWethToken0 <;> decide
  have paidPlace : (message.data (front.length + 1)).toNat + amountIn.shift = 0x40 := by
    rw [data_laid laid, ← window_one, encode, fields]
    simp (disch := simp) only [List.append_assoc, window_append_right, length_bigEndian,
      Nat.reduceSub]
    rw [window_append_left (by simp), window_bigEndian, Nat.mod_eq_of_lt (by omega)]
    omega
  have place : (message.data (front.length + 0x33)).toNat + amountOut.shift
      = wethOffset isWethToken0 := by
    rw [data_laid laid, ← window_one, encode, fields]
    simp (disch := simp) only [List.append_assoc, window_append_right, length_bigEndian,
      Nat.reduceSub]
    rw [window_append_left (by simp), window_bigEndian, Nat.mod_eq_of_lt (by omega)]
    omega
  have target : addressAt message.data (front.length + 2) = pair := by
    rw [addressAt_laid laid, encode, fields]
    simp (disch := simp) only [List.append_assoc, addressAt_append_right, length_bigEndian,
      Nat.reduceSub, addressAt_bigEndian]
  have paidToken : addressAt message.data (front.length + 0x16) = token := by
    rw [addressAt_laid laid, encode, fields]
    simp (disch := simp) only [List.append_assoc, addressAt_append_right, length_bigEndian,
      Nat.reduceSub, addressAt_bigEndian]
  have paid : window message.data (front.length + 0x2a) 4 = amountIn.value := by
    rw [window_laid laid, encode, fields]
    simp (disch := simp) only [List.append_assoc, window_append_right, length_bigEndian,
      Nat.reduceSub]
    rw [window_append_left (by simp), window_bigEndian, Nat.mod_eq_of_lt amountIn.value_lt]
  have taken : window message.data (front.length + 0x2e) 5 = amountOut.value := by
    rw [window_laid laid, encode, fields]
    simp (disch := simp) only [List.append_assoc, window_append_right, length_bigEndian,
      Nat.reduceSub]
    rw [window_append_left (by simp), window_bigEndian, Nat.mod_eq_of_lt amountOut.value_lt]
  obtain ⟨room, next⟩ := next_laid laid total
  rw [Runs, total]
  have run : (sandwich world message).Attempts (Huff.v2OutputMultiNext ++ behind)
      ⟨[BitVec.ofNat 256 front.length], memory, events⟩ _ _ _ _ :=
    v2OutputMultiNext_attempts room paidPlace paidSmall place small
      (taken ▸ amountOut.fits) rfl
  rw [next, target, paidToken, paid, taken] at run
  simp only [accepts, swap, Bool.and_true]
  exact run

theorem v3Input0Multi_runs {pool : Address} {amountIn : Field 4} {amountOut : Field 5} {poolKeyHash : Word}
    (laid : message.calldata = front
      ++ ((v3Input0Multi pool amountIn amountOut poolKeyHash).encode ++ rest)) :
    (v3Input0Multi pool amountIn amountOut poolKeyHash).Runs world message front rest
      memory events behind := by
  have total : (v3Input0Multi pool amountIn amountOut poolKeyHash).encode.length = 0x40 := by
    simp [encode, fields]
  have swap : v3Input0MultiSwap message front.length
      = ⟨pool, true, 0 - BitVec.ofNat 256 amountOut.amount, wethAddress, poolKeyHash⟩ := by
    rw [v3Input0MultiSwap, addressAt_laid laid, packedWord_laid laid, wordAt_laid laid, encode,
      fields]
    simp (disch := simp) only [List.append_assoc, addressAt_append_right, packedWord_append_right,
      wordAt_append_right, length_bigEndian, Field.length_encode, Nat.reduceAdd, Nat.reduceSub,
      addressAt_bigEndian, packedWord_encode, wordAt_bigEndian]
  have guard (word : Word) : v3Input0MultiGuard message front.length word
      = (v3Input0Multi pool amountIn amountOut poolKeyHash).guard word := by
    rw [v3Input0MultiGuard, packedWord_laid laid, encode, fields]
    simp (disch := simp) only [List.append_assoc, packedWord_append_right, length_bigEndian,
      Nat.reduceSub, packedWord_encode]
    rfl
  obtain ⟨room, next⟩ := next_laid laid total
  rw [Runs, total]
  have run : (sandwich world message).Attempts (Huff.v3Input0Multi ++ behind)
      ⟨[BitVec.ofNat 256 front.length], memory, events⟩ _ _ _ _ :=
    v3Input0Multi_attempts room rfl
  rw [next] at run
  simp only [swap, guard, ← Bool.and_eq_true] at run
  exact run

theorem v3Input1Multi_runs {pool : Address} {amountIn : Field 4} {amountOut : Field 5} {poolKeyHash : Word}
    (laid : message.calldata = front
      ++ ((v3Input1Multi pool amountIn amountOut poolKeyHash).encode ++ rest)) :
    (v3Input1Multi pool amountIn amountOut poolKeyHash).Runs world message front rest
      memory events behind := by
  have total : (v3Input1Multi pool amountIn amountOut poolKeyHash).encode.length = 0x40 := by
    simp [encode, fields]
  have swap : v3Input1MultiSwap message front.length
      = ⟨pool, false, BitVec.ofNat 256 amountIn.amount, wethAddress, poolKeyHash⟩ := by
    rw [v3Input1MultiSwap, addressAt_laid laid, packedWord_laid laid, wordAt_laid laid, encode,
      fields]
    simp (disch := simp) only [List.append_assoc, addressAt_append_right, packedWord_append_right,
      wordAt_append_right, length_bigEndian, Field.length_encode, Nat.reduceAdd, Nat.reduceSub,
      addressAt_bigEndian, packedWord_encode, wordAt_bigEndian]
  have guard (word : Word) : v3Input1MultiGuard message front.length word
      = (v3Input1Multi pool amountIn amountOut poolKeyHash).guard word := by
    rw [v3Input1MultiGuard, packedWord_laid laid, encode, fields]
    simp (disch := simp) only [List.append_assoc, packedWord_append_right, length_bigEndian,
      Field.length_encode, Nat.reduceAdd, Nat.reduceSub, packedWord_encode]
    rfl
  obtain ⟨room, next⟩ := next_laid laid total
  rw [Runs, total]
  have run : (sandwich world message).Attempts (Huff.v3Input1Multi ++ behind)
      ⟨[BitVec.ofNat 256 front.length], memory, events⟩ _ _ _ _ :=
    v3Input1Multi_attempts room rfl
  rw [next] at run
  simp only [swap, guard, ← Bool.and_eq_true] at run
  exact run

theorem v3Output0Multi_runs {pool token : Address} {amountOut : Field 4} {amountIn : Field 5}
    {poolKeyHash : Word}
    (laid : message.calldata = front
      ++ ((v3Output0Multi pool amountOut amountIn token poolKeyHash).encode ++ rest)) :
    (v3Output0Multi pool amountOut amountIn token poolKeyHash).Runs world message front rest
      memory events behind := by
  have total : (v3Output0Multi pool amountOut amountIn token poolKeyHash).encode.length = 0x54 := by
    simp [encode, fields]
  have swap : v3Output0MultiSwap message front.length
      = ⟨pool, false, BitVec.ofNat 256 amountIn.amount, token, poolKeyHash⟩ := by
    rw [v3Output0MultiSwap, addressAt_laid laid, addressAt_laid laid, packedWord_laid laid,
      wordAt_laid laid, encode, fields]
    simp (disch := simp) only [List.append_assoc, addressAt_append_right, packedWord_append_right,
      wordAt_append_right, length_bigEndian, Field.length_encode, Nat.reduceAdd, Nat.reduceSub,
      addressAt_bigEndian, packedWord_encode, wordAt_bigEndian]
  have guard (word : Word) : v3Output0MultiGuard message front.length word
      = (v3Output0Multi pool amountOut amountIn token poolKeyHash).guard word := by
    rw [v3Output0MultiGuard, packedWord_laid laid, encode, fields]
    simp (disch := simp) only [List.append_assoc, packedWord_append_right, length_bigEndian,
      Nat.reduceSub, packedWord_encode]
    rfl
  obtain ⟨room, next⟩ := next_laid laid total
  rw [Runs, total]
  have run : (sandwich world message).Attempts (Huff.v3Output0Multi ++ behind)
      ⟨[BitVec.ofNat 256 front.length], memory, events⟩ _ _ _ _ :=
    v3Output0Multi_attempts room rfl
  rw [next] at run
  simp only [swap, guard, ← Bool.and_eq_true] at run
  exact run

theorem v3Output1Multi_runs {pool token : Address} {amountOut : Field 4} {amountIn : Field 5}
    {poolKeyHash : Word}
    (laid : message.calldata = front
      ++ ((v3Output1Multi pool amountOut amountIn token poolKeyHash).encode ++ rest)) :
    (v3Output1Multi pool amountOut amountIn token poolKeyHash).Runs world message front rest
      memory events behind := by
  have total : (v3Output1Multi pool amountOut amountIn token poolKeyHash).encode.length = 0x54 := by
    simp [encode, fields]
  have swap : v3Output1MultiSwap message front.length
      = ⟨pool, true, 0 - BitVec.ofNat 256 amountOut.amount, token, poolKeyHash⟩ := by
    rw [v3Output1MultiSwap, addressAt_laid laid, addressAt_laid laid, packedWord_laid laid,
      wordAt_laid laid, encode, fields]
    simp (disch := simp) only [List.append_assoc, addressAt_append_right, packedWord_append_right,
      wordAt_append_right, length_bigEndian, Field.length_encode, Nat.reduceAdd, Nat.reduceSub,
      addressAt_bigEndian, packedWord_encode, wordAt_bigEndian]
  have guard (word : Word) : v3Output1MultiGuard message front.length word
      = (v3Output1Multi pool amountOut amountIn token poolKeyHash).guard word := by
    rw [v3Output1MultiGuard, packedWord_laid laid, encode, fields]
    simp (disch := simp) only [List.append_assoc, packedWord_append_right, length_bigEndian,
      Field.length_encode, Nat.reduceAdd, Nat.reduceSub, packedWord_encode]
    rfl
  obtain ⟨room, next⟩ := next_laid laid total
  rw [Runs, total]
  have run : (sandwich world message).Attempts (Huff.v3Output1Multi ++ behind)
      ⟨[BitVec.ofNat 256 front.length], memory, events⟩ _ _ _ _ :=
    v3Output1Multi_attempts room rfl
  rw [next] at run
  simp only [swap, guard, ← Bool.and_eq_true] at run
  exact run

/-- Every segment runs. -/
theorem runs (world : World) (memory : Memory) (events : List Event) (behind : Code Label)
    (segment : Segment) (laid : message.calldata = front ++ (segment.encode ++ rest)) :
    segment.Runs world message front rest memory events behind := by
  cases segment with
  | v2InputMultiNext => exact v2InputMultiNext_runs laid
  | v2OutputMultiNext => exact v2OutputMultiNext_runs laid
  | v3Input0Multi => exact v3Input0Multi_runs laid
  | v3Input1Multi => exact v3Input1Multi_runs laid
  | v3Output0Multi => exact v3Output0Multi_runs laid
  | v3Output1Multi => exact v3Output1Multi_runs laid

end Segment

end Sando.Huff
