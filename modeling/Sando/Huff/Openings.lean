/-
What the code behind a label does first.

A chain jumps to bytes that it took from its payload. Whatever is on the stack, the code behind a label
makes calls of one size first, and its calls to V3 pools have one price bound (`firstCalls_closed`).
Two labels read more. With a cursor on the stack the entry point jumps to where no label is
(`entryPoint_never_stops`), and `prepare_stack` jumps to calldata byte 2, where a V2 payload has the
memory offset of its amount (`firstCalls_offset`).

`callsNext_of_executes`: what a V2 chain calls behind its first segment is decided by the byte it jumps to.
-/

import Sando.Evm.Openings
import Sando.Huff.Chain

namespace Sando.Huff

open Sando.Evm Sando.Evm.Context Memory

/-- Where the price bound lies in a call to a V3 pool. -/
def limitOffset : ℕ := 0x64

/-- What the code behind a label can call first, whatever the words on the stack are. -/
def firstCalls (label depth : ℕ) : Option (List Opening) := do
  openings main limitOffset 8 (← codeAt main label) ⟨List.replicate depth none, none⟩

/-- The labels whose code reads nothing from the payload before its first call. -/
def closedLabels : List ℕ :=
  0x2e :: 0x9e :: (Handler.all.erase .prepareStack).map fun handler => 0x30 + 5 * handler.index

/-- Behind each of them all first calls look the same, and a call to a V3 pool shows its bound. -/
theorem firstCalls_closed : ∀ label ∈ closedLabels, ∃ found, firstCalls label 1 = some found
    ∧ ∀ first ∈ found, ∀ second ∈ found,
      second = first ∧ (first.size = 0xf9 → first.word.isSome) := by
  have table : ∀ label ∈ closedLabels, (firstCalls label 1).any fun found =>
      ∀ first ∈ found, ∀ second ∈ found,
        second = first ∧ (first.size = 0xf9 → first.word.isSome) := by
    decide +kernel
  intro label closed
  obtain ⟨found, listed, same⟩ := (Option.any_eq_true _ _).mp (table label closed)
  exact ⟨found, listed, of_decide_eq_true same⟩

/-- The labels that can be the memory offset of an amount. -/
def offsetLabels : List ℕ := [0x35, 0x3a, 0x3f]

/-- They sell the other token of a V2 pair, or WETH to a V3 pool. -/
theorem firstCalls_offset : ∀ label ∈ offsetLabels, ∃ found, firstCalls label 2 = some found
    ∧ ∀ first ∈ found, first.size = 0x44 ∨ first = ⟨0xf9, some minSqrtPriceLimitX96⟩ := by
  have table : ∀ label ∈ offsetLabels, (firstCalls label 2).any fun found =>
      ∀ first ∈ found, first.size = 0x44 ∨ first = ⟨0xf9, some minSqrtPriceLimitX96⟩ := by
    decide +kernel
  intro label offset
  obtain ⟨found, listed, same⟩ := (Option.any_eq_true _ _).mp (table label offset)
  exact ⟨found, listed, of_decide_eq_true same⟩

/-- What a V2 chain calls first behind the label it jumps to, when its payload has `offset` in
calldata byte 2. -/
inductive CallsNext (offset : ℕ) : ℕ → Opening → Prop
  | closed {label : ℕ} {found : List Opening} {opening : Opening} (closed : label ∈ closedLabels)
      (listed : firstCalls label 1 = some found) (member : opening ∈ found) :
      CallsNext offset label opening
  | prepared {found : List Opening} {opening : Opening} (reads : offset ∈ offsetLabels)
      (listed : firstCalls offset 2 = some found) (member : opening ∈ found) :
      CallsNext offset 0x67 opening

/-- Two chains that jump to one label make calls of one kind there, whatever their offsets are. -/
theorem CallsNext.clash {label offset other : ℕ} {first second : Opening}
    (firstCall : CallsNext offset label first) (secondCall : CallsNext other label second) :
    (first.size = 0x64 → second.size ≠ 0x44)
      ∧ (first.size = 0xf9 → second.size = 0xf9 → ∃ limit,
        first.word = some limit ∧ second.word = some limit) := by
  have open_ : (0x67 : ℕ) ∉ closedLabels := by decide
  cases firstCall with
  | closed closed listed member =>
    cases secondCall with
    | prepared => exact absurd closed open_
    | closed _ listed' member' =>
      obtain ⟨found, listed'', uniform⟩ := firstCalls_closed label closed
      obtain rfl := Option.some.inj (listed''.symm.trans listed)
      obtain rfl := Option.some.inj (listed''.symm.trans listed')
      obtain ⟨rfl, shows⟩ := uniform first member second member'
      refine ⟨fun size other => ?_, fun size _ => ?_⟩
      · rw [size] at other
        exact absurd other (by decide)
      · obtain ⟨limit, known⟩ := Option.isSome_iff_exists.mp (shows size)
        exact ⟨limit, known, known⟩
  | prepared reads listed member =>
    cases secondCall with
    | closed closed => exact absurd closed open_
    | prepared reads' listed' member' =>
      obtain ⟨found, listed'', kinds⟩ := firstCalls_offset offset reads
      obtain rfl := Option.some.inj (listed''.symm.trans listed)
      obtain ⟨found', listed'', kinds'⟩ := firstCalls_offset other reads'
      obtain rfl := Option.some.inj (listed''.symm.trans listed')
      refine ⟨fun size => ?_, fun size size' => ?_⟩
      · rcases kinds first member with sells | rfl
        · exact absurd (size.symm.trans sells) (by decide)
        · exact absurd size (by decide)
      · refine ⟨minSqrtPriceLimitX96, ?_, ?_⟩
        · rcases kinds first member with sells | rfl
          · exact absurd (size.symm.trans sells) (by decide)
          · rfl
        · rcases kinds' second member' with sells | rfl
          · exact absurd (size'.symm.trans sells) (by decide)
          · rfl

section Next

variable {world : World} {message : Message} {code : Code Label} {label offset cursor : ℕ}
  {made events : List Event} {event : Event} {rest : List Event} {memory : Memory}

/-- A frame that goes on from a label makes one of its first calls next. -/
theorem firstCalls_sound {found : List Opening} {stack : List Word}
    (listed : firstCalls label stack.length = some found) (lands : codeAt main label = some code)
    (stops : (sandwich world message).Ends code ⟨stack, memory, made⟩
      ⟨.stop, made ++ event :: rest⟩) :
    ∃ opening ∈ found, opening.Describes limitOffset event := by
  obtain ⟨blocks, run⟩ := stops
  rw [firstCalls, lands] at listed
  have describes : Sketch.Describes ⟨List.replicate stack.length none, none⟩ limitOffset
      ⟨stack, memory, made⟩ := ⟨fits_replicate stack, fits_none _⟩
  rcases openings_sound (sandwich world message) listed describes run with nothing | ⟨opening, member, first, fits, called⟩
  · exact absurd (congrArg List.length nothing) (by simp)
  · rw [List.prefix_append_right_inj, List.cons_prefix_cons] at called
    exact ⟨opening, member, called.1 ▸ fits⟩

theorem offsetOf_entryPoint : offsetOf main .entryPoint = 0x2a := rfl

/-- The entry point takes the second byte of a cursor for a label. -/
theorem entryPoint_never_stops (behind : Code Label) (small : cursor < 2 ^ 240) :
    ¬ (sandwich world message).Ends (entryPoint ++ behind)
      ⟨[BitVec.ofNat 256 cursor], memory, made⟩ ⟨.stop, events⟩ := by
  have zero : ((byteOf (BitVec.ofNat 256 cursor) 1).setWidth 256 : Word) = 0 := by
    rw [byteOf, toNat_ofNat_of_lt (lt_trans small (by norm_num)), Nat.div_eq_of_lt (by omega)]
    rfl
  have jumps : (sandwich world message).block (entryPoint ++ behind)
      ⟨[BitVec.ofNat 256 cursor], memory, made⟩ = .jump 0 ⟨[], memory, made⟩ :=
    congrArg (fun target : Word => BlockEnd.jump target ⟨[], memory, made⟩) zero
  exact (Ends.invalid jumps rfl).not_stop (by decide)

/-- `prepare_stack` puts a second word on the stack and jumps to calldata byte 2. -/
theorem prepareStack_next (behind : Code Label) (word : Word)
    (stops : (sandwich world message).Ends (prepareStack ++ behind) ⟨[word], memory, made⟩
      ⟨.stop, events⟩) : ∃ next, codeAt main (message.data 2).toNat = some next
        ∧ (sandwich world message).Ends next ⟨[2, word], memory, made⟩ ⟨.stop, events⟩ := by
  obtain ⟨target, jumps, value⟩ : ∃ target : Word,
      (sandwich world message).block (prepareStack ++ behind) ⟨[word], memory, made⟩
        = .jump target ⟨[2, word], memory, made⟩
      ∧ target.toNat = (message.data 2).toNat :=
    ⟨(byteOf (load message.frame 1) 1).setWidth 256, rfl, load_byte message 1 2 (by norm_num) rfl⟩
  rw [← value]
  cases lands : codeAt main target.toNat with
  | none => exact absurd stops ((Ends.invalid jumps lands).not_stop (by decide))
  | some next => exact ⟨next, rfl, stops.of_leads (Leads.jump jumps lands)⟩

/-- The offset of an amount of a V2 payload. -/
def IsOffset (offset : ℕ) : Prop := 17 ≤ offset ∧ offset ≤ 32 ∨ 49 ≤ offset ∧ offset ≤ 64

/-- A V2 chain that stops, after a call behind its first segment, makes that call behind a label that
the contract has. -/
theorem callsNext_of_stops (small : label < 256) (near : cursor < 2 ^ 240)
    (offset : IsOffset (message.data 2).toNat) (lands : codeAt main label = some code)
    (stops : (sandwich world message).Ends code ⟨[BitVec.ofNat 256 cursor], memory, made⟩
      ⟨.stop, made ++ event :: rest⟩) :
    ∃ opening, CallsNext (message.data 2).toNat label opening
      ∧ opening.Describes limitOffset event := by
  have settled (closed : label ∈ closedLabels) : ∃ opening,
      CallsNext (message.data 2).toNat label opening ∧ opening.Describes limitOffset event := by
    obtain ⟨found, listed, -⟩ := firstCalls_closed label closed
    obtain ⟨opening, member, describes⟩ := firstCalls_sound listed lands stops
    exact ⟨opening, .closed closed listed member, describes⟩
  rcases label_byte small lands with rfl | rfl | rfl | ⟨handler, rfl⟩
  · obtain ⟨behind, defined⟩ := codeAfter_entryPoint
    have entry := codeAt_offsetOf defined
    rw [offsetOf_entryPoint, lands] at entry
    obtain rfl := Option.some.inj entry
    exact absurd stops (entryPoint_never_stops behind near)
  · exact settled (by decide)
  · exact settled (by decide)
  · by_cases prepared : handler = .prepareStack
    · subst prepared
      obtain ⟨gate, behind, lands', leads⟩ := gate_leads world message .prepareStack
        ⟨[BitVec.ofNat 256 cursor], memory, made⟩
      obtain rfl := Option.some.inj (lands.symm.trans lands')
      obtain ⟨next, found, further⟩ := prepareStack_next behind _ (stops.of_leads leads)
      have reads : (message.data 2).toNat ∈ offsetLabels := by
        rcases label_byte (message.data 2).isLt found with entry | exit | back | ⟨handler, gate⟩
        all_goals
          rw [IsOffset] at offset
          simp only [offsetLabels, List.mem_cons, List.not_mem_nil]
          omega
      obtain ⟨calls, listed, -⟩ := firstCalls_offset _ reads
      obtain ⟨opening, member, describes⟩ := firstCalls_sound listed found further
      exact ⟨opening, .prepared reads listed member, describes⟩
    · refine settled ?_
      rw [closedLabels]
      exact List.mem_cons_of_mem _ (List.mem_cons_of_mem _ (List.mem_map.mpr
        ⟨handler, (List.mem_erase_of_ne prepared).mpr (by cases handler <;> decide), rfl⟩))

/-- Whatever the payload says, a frontrun as the first segment makes two calls and jumps to the byte
behind itself. -/
theorem v2InputMultiFirst_jumps (world : World) (message : Message) :
    ∃ made : List Event, made.length = 2 ∧ ∀ behind, (sandwich world message).Attempts
      (v2InputMultiFirst ++ behind) Machine.initial ((world.reply made).success = true)
      (message.data 0x1b).toNat [BitVec.ofNat 256 0x1b] made := by
  refine ⟨_, ?_, fun behind => ⟨(byteOf (load message.frame 0x1a) 1).setWidth 256, _, _, _, _, rfl,
    load_byte message 0x1a 0x1b (by norm_num) rfl, boolWord_ne_zero, rfl⟩⟩
  rfl

/-- The same for a backrun. -/
theorem v2OutputMultiFirst_jumps (world : World) (message : Message) :
    ∃ made : List Event, made.length = 2 ∧ ∀ behind, (sandwich world message).Attempts
      (v2OutputMultiFirst ++ behind) Machine.initial ((world.reply made).success = true)
      (message.data 0x30).toNat [BitVec.ofNat 256 0x30] made := by
  refine ⟨_, ?_, fun behind => ⟨(byteOf (load message.frame 0x2f) 1).setWidth 256, _, _, _, _, rfl,
    load_byte message 0x2f 0x30 (by norm_num) rfl, boolWord_ne_zero, rfl⟩⟩
  rfl

/-- A frame that stops got past its first segment. -/
theorem segment_stops {handler : Handler} {passed : Prop} {stack : List Word}
    (authorised : message.Authorised) (entered : (message.data 1).toNat = 0x30 + 5 * handler.index)
    (attempts : ∀ behind, (sandwich world message).Attempts (handler.code ++ behind)
      Machine.initial passed label stack made)
    (stops : (sandwich world message).Executes ⟨.stop, events⟩) :
    ∃ code last, codeAt main label = some code
      ∧ (sandwich world message).Ends code ⟨stack, last, made⟩ ⟨.stop, events⟩ := by
  obtain ⟨behind, dispatched⟩ := dispatch world handler authorised entered
  have further := stops.of_leads dispatched
  by_cases holds : passed
  · cases lands : codeAt main label with
    | none =>
      exact absurd further (((attempts behind).invalid holds lands).not_stop (by decide))
    | some code =>
      obtain ⟨last, leads⟩ := (attempts behind).leads holds lands
      exact ⟨code, last, rfl, further.of_leads leads⟩
  · exact absurd further (((attempts behind).reverts holds).not_stop (by decide))

/-- What a V2 chain calls behind its first segment, if it ever stops. -/
theorem callsNext_of_executes (handler : Handler) {passed : Prop} {done : List Event}
    (stops : (sandwich world message).Executes ⟨.stop, done ++ event :: rest⟩)
    (authorised : message.Authorised) (entered : (message.data 1).toNat = 0x30 + 5 * handler.index)
    (small : label < 256) (near : cursor < 2 ^ 240) (offset : IsOffset (message.data 2).toNat)
    (width : made.length = done.length)
    (attempts : ∀ behind, (sandwich world message).Attempts (handler.code ++ behind)
      Machine.initial passed label [BitVec.ofNat 256 cursor] made) :
    ∃ opening, CallsNext (message.data 2).toNat label opening
      ∧ opening.Describes limitOffset event := by
  obtain ⟨code, last, lands, further⟩ := segment_stops authorised entered attempts stops
  have same : made = done := by
    obtain ⟨fuel, run⟩ := further
    have grows := run_events run
    rw [List.prefix_iff_eq_take, width, List.take_left] at grows
    exact grows
  subst same
  exact callsNext_of_stops small near offset lands further

end Next

end Sando.Huff
