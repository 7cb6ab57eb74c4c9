/-
A chain of swaps in one message.

`Chain.outcome` is what a chain is for: its calls in order, up to the first one that is not accepted,
and then the exit or a revert of everything. `chain_executes` proves that the contract does just that,
for every reply of the outside. `Segment.step` is one segment: whatever memory holds, the contract
makes the calls of the segment, and the cursor moves by its bytes. The run follows by induction on the
segments, and `chain_reaches` states the invariant of the run: in front of a segment the stack holds
the cursor and nothing else.
-/

import Sando.Huff.Segments

namespace Sando.Huff

open Sando.Evm Sando.Evm.Context Memory

/-! ### Chains -/

/-- How a chain starts: with a V2 segment of its own kind, or with the label that only puts the cursor
on the stack. -/
inductive First
  | v2InputMultiFirst (pair : Address) (isWethToken0 : Bool) (amountOut : Field 4)
  | v2OutputMultiFirst (pair token : Address) (isWethToken0 : Bool) (amountIn : Field 4)
      (shiftOut : ℕ)
  | prepareStack

namespace First

/-- Its handler. -/
def handler : First → Handler
  | v2InputMultiFirst .. => .v2InputMultiFirst
  | v2OutputMultiFirst .. => .v2OutputMultiFirst
  | prepareStack => .prepareStack

/-- What is behind its label. -/
def fields : First → List Byte
  | v2InputMultiFirst pair isWethToken0 amountOut =>
    bigEndian 1 (otherOffset isWethToken0 - amountOut.shift) ++ (bigEndian 20 pair.toNat
      ++ bigEndian 4 amountOut.value)
  | v2OutputMultiFirst pair token isWethToken0 amountIn shiftOut =>
    bigEndian 1 (0x40 - amountIn.shift) ++ (bigEndian 20 pair.toNat ++ (bigEndian 20 token.toNat
      ++ (bigEndian 4 amountIn.value ++ bigEndian 1 (wethOffset isWethToken0 - shiftOut))))
  | prepareStack => []

/-- Its bytes. -/
def encode (first : First) : List Byte := bigEndian 1 (0x30 + 5 * first.handler.index) ++ first.fields

/-- The amount of WETH, which the call value carries, is a word. -/
def Fits (callvalue : Word) : First → Prop
  | v2InputMultiFirst .. => callvalue.toNat < 2 ^ 224
  | v2OutputMultiFirst _ _ _ _ shiftOut =>
    shiftOut < 32 ∧ callvalue.toNat * 256 ^ shiftOut < 2 ^ 256
  | prepareStack => True

/-- Its calls. -/
def calls (self : Address) (callvalue : Word) : First → List Event
  | v2InputMultiFirst pair isWethToken0 amountOut =>
    v2Frontrun self pair isWethToken0 (callvalue.toNat * 2 ^ 32) amountOut.amount
  | v2OutputMultiFirst pair token isWethToken0 amountIn shiftOut =>
    v2Backrun self pair token isWethToken0 amountIn.amount (callvalue.toNat * 256 ^ shiftOut)
  | prepareStack => []

/-- It goes on when its swap succeeded. -/
def accepts (reply : Reply) : First → Bool
  | v2InputMultiFirst .. | v2OutputMultiFirst .. => reply.success
  | prepareStack => true

end First

/-- A first segment and the later ones. -/
structure Chain where
  first : First
  segments : List Segment

/-- What is left of the calldata in front of a segment. -/
def remaining (segments : List Segment) : List Byte :=
  segments.flatMap Segment.encode ++ [0x2e]

/-- The calls of some segments. -/
def segmentCalls (self : Address) (segments : List Segment) : List Event :=
  segments.flatMap (Segment.calls self)

/-- Make the calls of the segments in order, up to the first one that is not accepted. -/
def perform (world : World) (self : Address) (events : List Event) : List Segment → Outcome
  | [] => ⟨.stop, events⟩
  | segment :: segments =>
    if segment.accepts self (world.reply (events ++ segment.calls self)) then
      perform world self (events ++ segment.calls self) segments
    else ⟨.revert, events ++ segment.calls self⟩

/-- Every one of the segments is accepted. -/
def Accepted (world : World) (self : Address) (events : List Event) : List Segment → Prop
  | [] => True
  | segment :: segments =>
    segment.accepts self (world.reply (events ++ segment.calls self)) = true
      ∧ Accepted world self (events ++ segment.calls self) segments

namespace Chain

/-- The calldata of a chain: the block number, the segments and the label of the exit. -/
def calldata (number : Word) (chain : Chain) : List Byte :=
  bigEndian 1 number.toNat ++ (chain.first.encode ++ remaining chain.segments)

/-- What a chain is for. -/
def outcome (world : World) (self : Address) (callvalue : Word) (chain : Chain) : Outcome :=
  if chain.first.accepts (world.reply (chain.first.calls self callvalue)) then
    perform world self (chain.first.calls self callvalue) chain.segments
  else ⟨.revert, chain.first.calls self callvalue⟩

end Chain

section Perform

variable {world : World} {self : Address} {events : List Event}

/-- All or nothing: when everything is accepted the calls are those of all segments and the frame
stops, and otherwise it reverts. -/
theorem perform_eq (world : World) (self : Address) (events : List Event) (segments : List Segment) :
    (Accepted world self events segments
      ∧ perform world self events segments = ⟨.stop, events ++ segmentCalls self segments⟩)
    ∨ (¬ Accepted world self events segments
      ∧ (perform world self events segments).halt = .revert
      ∧ (perform world self events segments).events <+: events ++ segmentCalls self segments) := by
  induction segments generalizing events with
  | nil => exact Or.inl ⟨trivial, by simp [perform, segmentCalls]⟩
  | cons segment segments ih =>
    have split : events ++ segmentCalls self (segment :: segments)
        = events ++ segment.calls self ++ segmentCalls self segments := by
      simp [segmentCalls]
    rw [split, perform]
    by_cases here : segment.accepts self (world.reply (events ++ segment.calls self)) = true
    · rw [if_pos here]
      rcases ih (events ++ segment.calls self) with ⟨later, done⟩ | ⟨later, halt, calls⟩
      · exact Or.inl ⟨⟨here, later⟩, done⟩
      · exact Or.inr ⟨fun accepted => later accepted.2, halt, calls⟩
    · rw [if_neg here]
      exact Or.inr ⟨fun accepted => here accepted.1, rfl, List.prefix_append _ _⟩

end Perform

/-! ### One segment -/

section Step

variable {world : World} {message : Message} {front rest : List Byte} {code next : Code Label}

theorem byteAt_label (handler : Handler) (fields : List Byte) :
    (byteAt (bigEndian 1 (0x30 + 5 * handler.index) ++ fields) 0).toNat
      = 0x30 + 5 * handler.index := by
  rw [← window_one, window_append_left (by simp), window_bigEndian]
  exact Nat.mod_eq_of_lt (gate_lt handler)

theorem byteAt_segment (segment : Segment) (rest : List Byte) :
    (byteAt (segment.encode ++ rest) 0).toNat = 0x30 + 5 * segment.handler.index := by
  rw [Segment.encode, List.append_assoc, byteAt_label]

theorem remaining_cons (segment : Segment) (segments : List Segment) :
    remaining (segment :: segments) = segment.encode ++ remaining segments := by
  simp [remaining]

/-- What is left of a chain starts with a label. -/
theorem remaining_lands (segments : List Segment) :
    ∃ code, codeAt main (byteAt (remaining segments) 0).toNat = some code := by
  cases segments with
  | nil =>
    obtain ⟨behind, exit⟩ := codeAt_exit
    exact ⟨_, exit⟩
  | cons segment segments =>
    obtain ⟨behind, gate⟩ := codeAt_gate segment.handler
    rw [remaining_cons, byteAt_segment]
    exact ⟨_, gate⟩

/-- One segment: when it is accepted the cursor moves to what is behind it, and otherwise the frame
reverts. -/
theorem Segment.step (world : World) (memory : Memory) (events : List Event) (segment : Segment)
    (laid : message.calldata = front ++ (segment.encode ++ rest))
    (here : codeAt main (byteAt (segment.encode ++ rest) 0).toNat = some code)
    (lands : codeAt main (byteAt rest 0).toNat = some next) :
    (segment.accepts message.address
        (world.reply (events ++ segment.calls message.address)) = true →
      ∃ last, (sandwich world message).Leads code
        ⟨[BitVec.ofNat 256 front.length], memory, events⟩ next
        ⟨[BitVec.ofNat 256 (front ++ segment.encode).length], last,
          events ++ segment.calls message.address⟩)
    ∧ (¬ segment.accepts message.address
        (world.reply (events ++ segment.calls message.address)) = true →
      (sandwich world message).Ends code ⟨[BitVec.ofNat 256 front.length], memory, events⟩
        ⟨.revert, events ++ segment.calls message.address⟩) := by
  obtain ⟨gate, behind, found, leads⟩ := gate_leads world message segment.handler
    ⟨[BitVec.ofNat 256 front.length], memory, events⟩
  rw [byteAt_segment, found] at here
  obtain rfl := Option.some.inj here
  have runs := segment.runs world memory events behind laid
  rw [Runs, ← List.length_append] at runs
  constructor
  · intro accepted
    obtain ⟨last, further⟩ := Attempts.leads runs accepted lands
    exact ⟨last, leads.trans further⟩
  · intro rejected
    exact leads.ends (Attempts.reverts runs rejected)

end Step

/-! ### The segments -/

section Run

variable {world : World} {message : Message} {front : List Byte} {code next : Code Label}

/-- The contract performs the segments, on any memory and behind any calls. -/
theorem segments_end (segments : List Segment) (memory : Memory) (events : List Event)
    (laid : message.calldata = front ++ remaining segments)
    (here : codeAt main (byteAt (remaining segments) 0).toNat = some code) :
    (sandwich world message).Ends code ⟨[BitVec.ofNat 256 front.length], memory, events⟩
      (perform world message.address events segments) := by
  induction segments generalizing front code memory events with
  | nil =>
    obtain ⟨exit, found, stops⟩ := exit_ends world message
    obtain rfl := Option.some.inj (found.symm.trans here)
    exact stops _
  | cons segment segments ih =>
    rw [remaining_cons] at laid here
    obtain ⟨behind, lands⟩ := remaining_lands segments
    obtain ⟨onward, back⟩ := segment.step world memory events laid here lands
    rw [perform]
    by_cases accepted : segment.accepts message.address
        (world.reply (events ++ segment.calls message.address)) = true
    · obtain ⟨last, leads⟩ := onward accepted
      rw [if_pos accepted]
      rw [← List.append_assoc] at laid
      exact leads.ends (ih last _ laid lands)
    · rw [if_neg accepted]
      exact back accepted

/-- In front of every segment that is reached the stack holds its place in calldata and nothing else,
and the calls made are those of the segments before. -/
theorem segments_reach (done rest : List Segment) (memory : Memory) (events : List Event)
    (laid : message.calldata = front ++ remaining (done ++ rest))
    (accepted : Accepted world message.address events done)
    (here : codeAt main (byteAt (remaining (done ++ rest)) 0).toNat = some code)
    (lands : codeAt main (byteAt (remaining rest) 0).toNat = some next) :
    ∃ last, (sandwich world message).Leads code
      ⟨[BitVec.ofNat 256 front.length], memory, events⟩ next
      ⟨[BitVec.ofNat 256 (front ++ done.flatMap Segment.encode).length], last,
        events ++ segmentCalls message.address done⟩ := by
  induction done generalizing front code memory events with
  | nil =>
    obtain rfl := Option.some.inj (here.symm.trans lands)
    simp only [List.flatMap_nil, List.append_nil, segmentCalls]
    exact ⟨memory, Leads.refl⟩
  | cons segment done ih =>
    rw [List.cons_append, remaining_cons] at laid here
    obtain ⟨behind, found⟩ := remaining_lands (done ++ rest)
    obtain ⟨onward, -⟩ := segment.step world memory events laid here found
    obtain ⟨last, leads⟩ := onward accepted.1
    rw [← List.append_assoc] at laid
    obtain ⟨final, further⟩ := ih last _ laid accepted.2 found
    simp only [segmentCalls, List.flatMap_cons, ← List.append_assoc] at further ⊢
    exact ⟨final, leads.trans further⟩

end Run

/-! ### The first segment -/

section First

variable {world : World} {message : Message} {rest : List Byte} {next : Code Label}

/-- A message that starts with the block number and a first segment. -/
structure Message.Starts (message : Message) (first : First) (rest : List Byte) : Prop where
  caller : message.caller = searcherAddress
  calldata : message.calldata = bigEndian 1 message.number.toNat ++ (first.encode ++ rest)

theorem Message.Starts.authorised {first : First} (starts : message.Starts first rest) :
    message.Authorised := by
  refine ⟨starts.caller, ?_⟩
  rw [Message.data, starts.calldata, ← window_one, window_append_left (by simp), window_bigEndian]
  rfl

/-- The fields of a first segment lie behind the block number and the label. -/
theorem Message.Starts.laid {first : First} (starts : message.Starts first rest) :
    message.calldata = (bigEndian 1 message.number.toNat
      ++ bigEndian 1 (0x30 + 5 * first.handler.index)) ++ (first.fields ++ rest) := by
  rw [starts.calldata, First.encode, List.append_assoc, List.append_assoc]

theorem Message.Starts.label {first : First} (starts : message.Starts first rest) :
    (message.data 1).toNat = 0x30 + 5 * first.handler.index := by
  rw [Message.data, starts.calldata, byteAt_append_right (by simp), length_bigEndian, First.encode,
    List.append_assoc]
  exact byteAt_label _ _

/-- The label behind a first segment. -/
theorem Message.Starts.following {first : First} {count : ℕ} (starts : message.Starts first rest)
    (total : 1 + first.encode.length = count) : (message.data count).toNat = (byteAt rest 0).toNat := by
  rw [Message.data, starts.calldata, ← List.append_assoc, byteAt_append_right (by simp; omega),
    List.length_append, length_bigEndian, total, Nat.sub_self]

/-- What the first segment of a chain does. -/
def First.Runs (world : World) (message : Message) (rest : List Byte) (behind : Code Label)
    (first : First) : Prop :=
  (sandwich world message).Attempts (first.handler.code ++ behind) Machine.initial
    (first.accepts (world.reply (first.calls message.address message.callvalue)) = true)
    (byteAt rest 0).toNat [BitVec.ofNat 256 (1 + first.encode.length)]
    (first.calls message.address message.callvalue)

theorem First.v2InputMultiFirst_runs {pair : Address} {isWethToken0 : Bool} {amountOut : Field 4}
    {behind : Code Label}
    (starts : message.Starts (.v2InputMultiFirst pair isWethToken0 amountOut) rest)
    (fits : message.callvalue.toNat < 2 ^ 224) :
    (First.v2InputMultiFirst pair isWethToken0 amountOut).Runs world message rest behind := by
  have total : 1 + (First.v2InputMultiFirst pair isWethToken0 amountOut).encode.length = 0x1b := by
    simp [encode, fields]
  have next := starts.following total
  have laid := starts.laid
  have small : amountOut.shift ≤ 28 := by have room := amountOut.room; omega
  have offset : 0x20 ≤ otherOffset isWethToken0 ∧ otherOffset isWethToken0 ≤ 0x40 := by
    cases isWethToken0 <;> decide
  have place : (message.data 2).toNat + amountOut.shift = otherOffset isWethToken0 := by
    rw [← window_one]
    refine Eq.trans (congrArg (· + amountOut.shift) (window_laid laid 0 1)) ?_
    rw [fields]
    simp only [List.append_assoc]
    rw [window_append_left (by simp), window_bigEndian, Nat.mod_eq_of_lt (by omega)]
    omega
  have target : addressAt message.data 3 = pair := by
    refine Eq.trans (addressAt_laid laid 1) ?_
    rw [fields]
    simp (disch := simp) only [List.append_assoc, addressAt_append_right, length_bigEndian,
      Nat.reduceSub, addressAt_bigEndian]
  have bought : window message.data 0x17 4 = amountOut.value := by
    refine Eq.trans (window_laid laid 0x15 4) ?_
    rw [fields]
    simp (disch := simp) only [List.append_assoc, window_append_right, length_bigEndian,
      Nat.reduceSub]
    rw [window_append_left (by simp), window_bigEndian, Nat.mod_eq_of_lt amountOut.value_lt]
  have run : (sandwich world message).Attempts (Huff.v2InputMultiFirst ++ behind) Machine.initial
      _ _ _ _ := v2InputMultiFirst_attempts place small rfl
  rw [next, target, bought, Nat.mod_eq_of_lt fits] at run
  rw [First.Runs, total]
  exact run

theorem First.v2OutputMultiFirst_runs {pair token : Address} {isWethToken0 : Bool}
    {amountIn : Field 4} {shiftOut : ℕ} {behind : Code Label}
    (starts : message.Starts (.v2OutputMultiFirst pair token isWethToken0 amountIn shiftOut) rest)
    (small : shiftOut < 32) (fits : message.callvalue.toNat * 256 ^ shiftOut < 2 ^ 256) :
    (First.v2OutputMultiFirst pair token isWethToken0 amountIn shiftOut).Runs world message rest
      behind := by
  have total : 1 + (First.v2OutputMultiFirst pair token isWethToken0 amountIn shiftOut).encode.length
      = 0x30 := by simp [encode, fields]
  have next := starts.following total
  have laid := starts.laid
  have paidSmall : amountIn.shift ≤ 28 := by have room := amountIn.room; omega
  have offset : 0x20 ≤ wethOffset isWethToken0 ∧ wethOffset isWethToken0 ≤ 0x64 := by
    cases isWethToken0 <;> decide
  have paidPlace : (message.data 2).toNat + amountIn.shift = 0x40 := by
    rw [← window_one]
    refine Eq.trans (congrArg (· + amountIn.shift) (window_laid laid 0 1)) ?_
    rw [fields]
    simp only [List.append_assoc]
    rw [window_append_left (by simp), window_bigEndian, Nat.mod_eq_of_lt (by omega)]
    omega
  have place : (message.data 0x2f).toNat + shiftOut = wethOffset isWethToken0 := by
    rw [← window_one]
    refine Eq.trans (congrArg (· + shiftOut) (window_laid laid 0x2d 1)) ?_
    rw [fields]
    simp (disch := simp) only [List.append_assoc, window_append_right, length_bigEndian,
      Nat.reduceSub]
    rw [window_append_left (by simp), window_bigEndian, Nat.mod_eq_of_lt (by omega)]
    omega
  have target : addressAt message.data 3 = pair := by
    refine Eq.trans (addressAt_laid laid 1) ?_
    rw [fields]
    simp (disch := simp) only [List.append_assoc, addressAt_append_right, length_bigEndian,
      Nat.reduceSub, addressAt_bigEndian]
  have paidToken : addressAt message.data 0x17 = token := by
    refine Eq.trans (addressAt_laid laid 0x15) ?_
    rw [fields]
    simp (disch := simp) only [List.append_assoc, addressAt_append_right, length_bigEndian,
      Nat.reduceSub, addressAt_bigEndian]
  have paid : window message.data 0x2b 4 = amountIn.value := by
    refine Eq.trans (window_laid laid 0x29 4) ?_
    rw [fields]
    simp (disch := simp) only [List.append_assoc, window_append_right, length_bigEndian,
      Nat.reduceSub]
    rw [window_append_left (by simp), window_bigEndian, Nat.mod_eq_of_lt amountIn.value_lt]
  have run : (sandwich world message).Attempts (Huff.v2OutputMultiFirst ++ behind) Machine.initial
      _ _ _ _ := v2OutputMultiFirst_attempts paidPlace paidSmall place small fits rfl
  rw [next, target, paidToken, paid] at run
  rw [First.Runs, total]
  exact run

/-- `prepare_stack` jumps to the label behind itself with the cursor on the stack. -/
theorem prepareStack_block (world : World) (message : Message) (behind : Code Label) :
    ∃ target : Word, (sandwich world message).block (prepareStack ++ behind) Machine.initial
        = .jump target ⟨[BitVec.ofNat 256 2], zero, []⟩
      ∧ target.toNat = (message.data 2).toNat :=
  ⟨(byteOf (load message.frame 1) 1).setWidth 256, rfl, load_byte message 1 2 (by norm_num) rfl⟩

/-- A chain that starts with `prepare_stack` is on its way with the cursor on the stack. -/
theorem prepareStack_leads (world : World) (starts : message.Starts .prepareStack rest)
    (lands : codeAt main (byteAt rest 0).toNat = some next) :
    (sandwich world message).Leads main Machine.initial next
      ⟨[BitVec.ofNat 256 2], zero, []⟩ := by
  obtain ⟨behind, dispatched⟩ := dispatch world .prepareStack starts.authorised starts.label
  obtain ⟨target, jumps, value⟩ := prepareStack_block world message behind
  have following : (message.data 2).toNat = (byteAt rest 0).toNat :=
    starts.following (by simp [First.encode, First.fields])
  rw [← following, ← value] at lands
  exact dispatched.trans (Leads.jump jumps lands)

/-- The first segment, from the start of the frame. -/
theorem First.step (world : World) (first : First) (starts : message.Starts first rest)
    (fits : first.Fits message.callvalue) (lands : codeAt main (byteAt rest 0).toNat = some next) :
    (first.accepts (world.reply (first.calls message.address message.callvalue)) = true →
      ∃ last, (sandwich world message).Leads main Machine.initial next
        ⟨[BitVec.ofNat 256 (1 + first.encode.length)], last,
          first.calls message.address message.callvalue⟩)
    ∧ (¬ first.accepts (world.reply (first.calls message.address message.callvalue)) = true →
      (sandwich world message).Executes
        ⟨.revert, first.calls message.address message.callvalue⟩) := by
  obtain ⟨behind, dispatched⟩ := dispatch world first.handler starts.authorised starts.label
  have decided (runs : first.Runs world message rest behind) :
      (first.accepts (world.reply (first.calls message.address message.callvalue)) = true →
        ∃ last, (sandwich world message).Leads main Machine.initial next
          ⟨[BitVec.ofNat 256 (1 + first.encode.length)], last,
            first.calls message.address message.callvalue⟩)
      ∧ (¬ first.accepts (world.reply (first.calls message.address message.callvalue)) = true →
        (sandwich world message).Executes
          ⟨.revert, first.calls message.address message.callvalue⟩) := by
    constructor
    · intro accepted
      obtain ⟨last, leads⟩ := Attempts.leads runs accepted lands
      exact ⟨last, dispatched.trans leads⟩
    · intro rejected
      exact dispatched.ends (Attempts.reverts runs rejected)
  cases first with
  | v2InputMultiFirst pair isWethToken0 amountOut =>
    exact decided (First.v2InputMultiFirst_runs starts fits)
  | v2OutputMultiFirst pair token isWethToken0 amountIn shiftOut =>
    exact decided (First.v2OutputMultiFirst_runs starts fits.1 fits.2)
  | prepareStack =>
    exact ⟨fun _ => ⟨zero, prepareStack_leads world starts lands⟩,
      fun rejected => absurd rfl rejected⟩

end First

/-! ### The chain -/

namespace Chain

/-- The calls of all segments. -/
def calls (self : Address) (callvalue : Word) (chain : Chain) : List Event :=
  chain.first.calls self callvalue ++ segmentCalls self chain.segments

/-- Every segment is accepted. -/
def Accepted (world : World) (self : Address) (callvalue : Word) (chain : Chain) : Prop :=
  chain.first.accepts (world.reply (chain.first.calls self callvalue)) = true
    ∧ Huff.Accepted world self (chain.first.calls self callvalue) chain.segments

/-- All or nothing. -/
theorem outcome_eq (world : World) (self : Address) (callvalue : Word) (chain : Chain) :
    (chain.Accepted world self callvalue
      ∧ chain.outcome world self callvalue = ⟨.stop, chain.calls self callvalue⟩)
    ∨ (¬ chain.Accepted world self callvalue
      ∧ (chain.outcome world self callvalue).halt = .revert
      ∧ (chain.outcome world self callvalue).events <+: chain.calls self callvalue) := by
  by_cases first : chain.first.accepts (world.reply (chain.first.calls self callvalue)) = true
  · rw [outcome, if_pos first]
    rcases perform_eq world self (chain.first.calls self callvalue) chain.segments with
      ⟨later, done⟩ | ⟨later, halt, calls⟩
    · exact Or.inl ⟨⟨first, later⟩, done⟩
    · exact Or.inr ⟨fun accepted => later accepted.2, halt, calls⟩
  · rw [outcome, if_neg first]
    exact Or.inr ⟨fun accepted => first accepted.1, rfl, List.prefix_append _ _⟩

end Chain

section Chain

variable {world : World} {message : Message} {chain : Chain}

/-- A message of the searcher that carries a chain. -/
structure Message.Carries (message : Message) (chain : Chain) : Prop where
  caller : message.caller = searcherAddress
  calldata : message.calldata = chain.calldata message.number
  fits : chain.first.Fits message.callvalue

theorem Message.Carries.starts (carries : message.Carries chain) :
    message.Starts chain.first (remaining chain.segments) :=
  ⟨carries.caller, carries.calldata⟩

/-- The later segments lie behind the first one. -/
theorem Message.Carries.laid (carries : message.Carries chain) :
    message.calldata = (bigEndian 1 message.number.toNat ++ chain.first.encode)
      ++ remaining chain.segments := by
  rw [carries.calldata, Chain.calldata, List.append_assoc]

theorem length_front (number : Word) (first : First) :
    (bigEndian 1 number.toNat ++ first.encode).length = 1 + first.encode.length := by
  rw [List.length_append, length_bigEndian]

/-- The contract performs the chain. -/
theorem chain_executes (world : World) (carries : message.Carries chain) :
    (sandwich world message).Executes
      (chain.outcome world message.address message.callvalue) := by
  obtain ⟨code, lands⟩ := remaining_lands chain.segments
  obtain ⟨onward, back⟩ := chain.first.step world carries.starts carries.fits lands
  rw [Chain.outcome]
  by_cases first : chain.first.accepts
      (world.reply (chain.first.calls message.address message.callvalue)) = true
  · obtain ⟨last, leads⟩ := onward first
    rw [if_pos first]
    rw [← length_front message.number] at leads
    exact leads.ends (segments_end chain.segments last _ carries.laid lands)
  · rw [if_neg first]
    exact back first

/-- In front of every segment that the contract reaches, the stack holds the place of the segment in
calldata, and the calls made are those of the segments before. -/
theorem chain_reaches (world : World) (carries : message.Carries chain) (done rest : List Segment)
    (parts : chain.segments = done ++ rest)
    (accepted : Chain.Accepted world message.address message.callvalue ⟨chain.first, done⟩) :
    ∃ code last, codeAt main (byteAt (remaining rest) 0).toNat = some code
      ∧ (sandwich world message).Leads main Machine.initial code
        ⟨[BitVec.ofNat 256 (1 + chain.first.encode.length + (done.flatMap Segment.encode).length)],
          last, Chain.calls message.address message.callvalue ⟨chain.first, done⟩⟩ := by
  obtain ⟨code, lands⟩ := remaining_lands chain.segments
  obtain ⟨next, found⟩ := remaining_lands rest
  obtain ⟨onward, -⟩ := chain.first.step world carries.starts carries.fits lands
  obtain ⟨memory, leads⟩ := onward accepted.1
  have laid := carries.laid
  rw [parts] at laid lands
  obtain ⟨last, further⟩ := segments_reach done rest memory
    (chain.first.calls message.address message.callvalue) laid accepted.2 lands found
  simp only [List.length_append, length_bigEndian] at further
  exact ⟨next, last, found, leads.trans further⟩

/-- A chain is performed segment by segment, for every behaviour of the contracts it calls. It ends in
the exit with all the calls of its segments, or in a revert. -/
theorem chain_faithful (world : World) (message : Message) (chain : Chain)
    (carries : message.Carries chain) :
    (sandwich world message).Executes (chain.outcome world message.address message.callvalue)
    ∧ ((chain.Accepted world message.address message.callvalue
        ∧ chain.outcome world message.address message.callvalue
          = ⟨.stop, chain.calls message.address message.callvalue⟩)
      ∨ (¬ chain.Accepted world message.address message.callvalue
        ∧ (chain.outcome world message.address message.callvalue).halt = .revert
        ∧ (chain.outcome world message.address message.callvalue).events
          <+: chain.calls message.address message.callvalue))
    ∧ ∀ done rest, chain.segments = done ++ rest →
      Chain.Accepted world message.address message.callvalue ⟨chain.first, done⟩ →
      ∃ code last, codeAt main (byteAt (remaining rest) 0).toNat = some code
        ∧ (sandwich world message).Leads main Machine.initial code
          ⟨[BitVec.ofNat 256 (1 + chain.first.encode.length
              + (done.flatMap Segment.encode).length)],
            last, Chain.calls message.address message.callvalue ⟨chain.first, done⟩⟩ :=
  ⟨chain_executes world carries, chain.outcome_eq world message.address message.callvalue,
    fun done rest parts accepted => chain_reaches world carries done rest parts accepted⟩

end Chain

/-- Buy USDT on a V2 pair, USDC on a V3 pool and USDC on a V2 pair. -/
def hybridInput : Chain where
  first := .v2InputMultiFirst 0x0d4a11d5EEaaC28EC3F61d100daF4d40471f1852 true
    (.ofAmount 3884000000 4 (by norm_num) (by norm_num))
  segments := [
    .v3Input1Multi 0x88e6A0c2dDD26FEEb64F039a2c41296FcB3f5640
      (.ofAmount 1234567891234123400 4 (by norm_num) (by norm_num))
      (.ofAmount 2469135782 5 (by norm_num) (by norm_num))
      0x08374668a423750b443f65d645c5693995d43722b42cd84f7eeba28b008a40a2,
    .v2InputMultiNext 0xB4e16d0168e52d35CaCD2c6185b44281Ec28C9Dc false
      (.ofAmount 1884000000 4 (by norm_num) (by norm_num)) 219326466]

/-- The message that carries it. -/
def hybridMessage : Message where
  caller := searcherAddress
  origin := searcherAddress
  address := 1
  callvalue := 452191087
  calldata := hybridInput.calldata 17000000
  number := 17000000
  calldata_fits := by
    simp [hybridInput, Chain.calldata, remaining, First.encode, First.fields, Segment.encode,
      Segment.fields]

/-- A world in which every call succeeds and returns the amounts of the V3 pool. -/
def hybridWorld : World :=
  ⟨fun _ => 0, fun _ => ⟨true, encodeWords [(0 - 2469135782 : Word).toNat, 1234567891234123400]⟩,
    fun _ => 0, 0⟩

/-- The V3 pool gives as much as it was asked for. -/
theorem hybrid_accepted :
    hybridInput.Accepted hybridWorld hybridMessage.address hybridMessage.callvalue := by
  refine ⟨rfl, ?_, rfl, trivial⟩
  simp only [Segment.accepts, Segment.swap, hybridWorld, Bool.true_and]
  rw [V3Swap.returned_eq _ _ (by simp)]
  decide

theorem chain_faithful_hybrid :
    (sandwich hybridWorld hybridMessage).Executes ⟨.stop, hybridInput.calls 1 452191087⟩ := by
  have fits : (452191087 : Word).toNat < 2 ^ 224 := by decide
  obtain ⟨executes, parts, -⟩ := chain_faithful hybridWorld hybridMessage hybridInput
    ⟨rfl, rfl, fits⟩
  rcases parts with ⟨-, done⟩ | ⟨rejected, -⟩
  · exact done ▸ executes
  · exact absurd hybrid_accepted rejected

end Sando.Huff
