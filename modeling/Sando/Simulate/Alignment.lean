/-
The frontruns and backruns of a sanity check.

An amount below 2^32 wei rounds to zero, and `frontrunLoop` skips it: it adds nothing to `backrunIns`
but keeps the ingredients. `backrunLoop` indexes `backrunIns` by the position among all ingredients, so
after a skip the indices no longer agree, and the last one is out of range. `aligned_iff` says that this
is the only way for the two to fall out of step.
-/

import Sando.Simulate.Fees

namespace Sando.Simulate

open Sando.Evm Sando.Program Sando.TxBuilder

/-! ### What was built -/

/-- A segment: the index of its ingredients, whether it was built as the first one, and the amount of
the intermediary token, which a frontrun buys and a backrun sells. -/
structure Segment where
  index : ℕ
  isFirst : Bool
  amount : Word
  deriving DecidableEq

/-- The frontrun segments. -/
def frontruns (built : List Built) : List Segment :=
  built.filterMap fun
    | .frontrun index isFirst _ frontrunOut => some ⟨index, isFirst, frontrunOut⟩
    | .backrun .. => none

/-- The backrun segments. -/
def backruns (built : List Built) : List Segment :=
  built.filterMap fun
    | .frontrun .. => none
    | .backrun index isFirst backrunIn _ => some ⟨index, isFirst, backrunIn⟩

/-- If there are several segments, exactly the first of them was built as the first one. -/
def FirstOnly (segments : List Segment) : Prop :=
  1 < segments.length →
    segments.map (·.isFirst) = true :: List.replicate (segments.length - 1) false

/-- The run stopped at an index out of range. -/
def stopsOutOfRange {α : Type} : EStateM.Result Failure State α → Bool
  | .error .outOfRange _ => true
  | _ => false

/-- Frontruns and backruns are aligned. -/
structure Aligned (multiIngredients : List RawIngredients)
    (run : EStateM.Result Failure State OptimalRecipe) : Prop where
  inRange : stopsOutOfRange run = false
  sameIndices : (frontruns (final run).built).map (·.index) = (backruns (final run).built).map (·.index)
  spends : ∀ frontrun ∈ frontruns (final run).built, ∀ backrun ∈ backruns (final run).built,
    backrun.index = frontrun.index → ∃ ingredients backrunIn,
      multiIngredients[frontrun.index]? = some ingredients
      ∧ encodeIntermediaryToken ingredients frontrun.amount = some backrunIn
      ∧ backrun.amount = BitVec.ofNat 256 backrunIn
  firstFrontrun : FirstOnly (frontruns (final run).built)
  firstBackrun : FirstOnly (backruns (final run).built)

/-- Segments for consecutive ingredients. -/
def consecutive : ℕ → List Word → List Segment
  | _, [] => []
  | index, amount :: amounts => ⟨index, index = 0, amount⟩ :: consecutive (index + 1) amounts

theorem map_index_consecutive (amounts : List Word) : ∀ index,
    (consecutive index amounts).map (·.index) = List.range' index amounts.length := by
  induction amounts with
  | nil => exact fun _ => rfl
  | cons amount amounts ih =>
    intro index
    rw [consecutive, List.map_cons, ih, List.length_cons, List.range'_succ]

theorem mem_consecutive {segment : Segment} (amounts : List Word) : ∀ index,
    segment ∈ consecutive index amounts ↔ ∃ place, segment.index = index + place
      ∧ segment.isFirst = decide (index + place = 0) ∧ amounts[place]? = some segment.amount := by
  induction amounts with
  | nil => simp [consecutive]
  | cons amount amounts ih =>
    intro index
    rw [consecutive, List.mem_cons, ih]
    constructor
    · rintro (rfl | ⟨place, sameIndex, first, found⟩)
      · exact ⟨0, rfl, rfl, rfl⟩
      · refine ⟨place + 1, by omega, ?_, found⟩
        rw [first, show index + 1 + place = index + (place + 1) by omega]
    · rintro ⟨place, sameIndex, first, found⟩
      cases place with
      | zero =>
        left
        cases segment
        simp_all
      | succ place =>
        right
        refine ⟨place, by omega, ?_, found⟩
        rw [first, show index + 1 + place = index + (place + 1) by omega]

theorem firstOnly_consecutive (amounts : List Word) : FirstOnly (consecutive 0 amounts) := by
  have later : ∀ (amounts : List Word) index, 0 < index →
      (consecutive index amounts).map (·.isFirst) = List.replicate amounts.length false := by
    intro amounts
    induction amounts with
    | nil => exact fun _ _ => rfl
    | cons amount amounts ih =>
      intro index positive
      have notFirst : decide (index = 0) = false := decide_eq_false (by omega)
      rw [consecutive, List.map_cons, ih _ (by omega), notFirst, List.length_cons,
        List.replicate_succ]
  have length : ∀ index, (consecutive index amounts).length = amounts.length := fun index => by
    rw [← List.length_map fun segment : Segment => segment.index, map_index_consecutive,
      List.length_range']
  cases amounts with
  | nil => exact fun several => absurd several (by decide)
  | cons amount amounts =>
    intro _
    rw [length, consecutive, List.map_cons, later _ _ Nat.one_pos]
    rfl

@[simp] theorem frontruns_append (built more : List Built) :
    frontruns (built ++ more) = frontruns built ++ frontruns more := List.filterMap_append

@[simp] theorem backruns_append (built more : List Built) :
    backruns (built ++ more) = backruns built ++ backruns more := List.filterMap_append

/-! ### The loops -/

theorem encodeWeth_eq_zero {amount : Word} :
    BitVec.ofNat 256 (encodeWeth amount.toNat) = 0 ↔ amount.toNat < 2 ^ 32 := by
  have small : encodeWeth amount.toNat < 2 ^ 256 :=
    (Nat.div_mul_le_self _ _).trans_lt amount.isLt
  rw [← BitVec.toNat_inj, toNat_ofNat_of_lt small]
  unfold encodeWeth getWethEncodeDivisor
  simp

/-- The same tokens on the same exchange: nothing else is read to encode an amount. -/
def SameKind (first second : RawIngredients) : Prop :=
  second.intermediaryToken = first.intermediaryToken
    ∧ second.targetPool.poolVariant = first.targetPool.poolVariant

theorem SameKind.encodeIntermediaryToken {first second : RawIngredients}
    (same : SameKind first second) (amount : Word) :
    encodeIntermediaryToken second amount = encodeIntermediaryToken first amount := by
  unfold Simulate.encodeIntermediaryToken
  rw [same.1, same.2]

section Loops

variable {setup : Setup}

/-- If no amount is skipped, a frontrun is built for every ingredient. -/
theorem frontrunLoop_built (isMultiple : Bool) (frontrunIns : List Word)
    (multiIngredients : List RawIngredients) : ∀ (index : ℕ) (acc : Frontruns) (built : List Built),
    (∀ place < multiIngredients.length, ∃ amount, frontrunIns[index + place]? = some amount
      ∧ 2 ^ 32 ≤ amount.toNat) →
    Triple (fun state => state.built = built)
      (setup.frontrunLoop isMultiple frontrunIns index multiIngredients acc)
      (fun after state => ∃ outs kept more, outs.length = multiIngredients.length
        ∧ List.Forall₂ SameKind multiIngredients kept
        ∧ after.backrunIns = acc.backrunIns ++ outs
        ∧ after.ingredients = acc.ingredients ++ kept
        ∧ frontruns more = consecutive index outs ∧ backruns more = []
        ∧ state.built = built ++ more)
      fun failure _ => failure ≠ .outOfRange := by
  induction multiIngredients with
  | nil =>
    intro index acc built _
    refine triple_pure ?_
    rintro state rfl
    exact ⟨[], [], [], rfl, .nil, by simp, by simp, rfl, rfl, by simp⟩
  | cons ingredients rest ih =>
    intro index acc built large
    obtain ⟨amount, found, atLeast⟩ := large 0 (by simp)
    have next : ∀ place < rest.length, ∃ amount, frontrunIns[index + 1 + place]? = some amount
        ∧ 2 ^ 32 ≤ amount.toNat := fun place bound => by
      have later := large (place + 1) (by simpa using bound)
      rwa [show index + (place + 1) = index + 1 + place by omega] at later
    rw [Nat.add_zero] at found
    unfold Setup.frontrunLoop
    rw [found]
    refine triple_bind (fun value state => value = amount ∧ state.built = built)
      (triple_pure fun _ same => ⟨rfl, same⟩) fun value => triple_fact fun same => ?_
    subst same
    refine triple_ite (fun zero => absurd (encodeWeth_eq_zero.1 zero) (by omega)) fun _ => ?_
    refine triple_bind _ (frontrunSegment_spec isMultiple index ingredients _ acc built) fun acc' => ?_
    refine triple_exists fun frontrunOut => triple_exists fun pool => triple_exists fun bundle => ?_
    refine triple_fact fun sameVariant => triple_fact fun same => ?_
    subst same
    refine (ih (index + 1) _ _ next).weaken (fun _ holds => holds) ?_ fun _ _ holds => holds
    rintro after state ⟨outs, kept, more, length, kinds, ins, keeps, fronts, backs, same⟩
    let frontrunIn := BitVec.ofNat 256 (encodeWeth value.toNat)
    refine ⟨frontrunOut :: outs, { ingredients with targetPool := pool } :: kept,
      .frontrun index (index = 0) frontrunIn frontrunOut :: more, by simp [length],
      .cons ⟨rfl, sameVariant⟩ kinds, ?_, ?_, congrArg (_ :: ·) fronts, backs, ?_⟩
    · rw [ins, List.append_assoc]; rfl
    · rw [keeps, List.append_assoc]; rfl
    · rw [same, List.append_assoc]; rfl

/-- Every backrun sells what its own frontrun bought. -/
theorem backrunLoop_built (isMultiple : Bool) (backrunIns : List Word)
    (multiIngredients : List RawIngredients) : ∀ (index : ℕ) (bundle : Bundle) (built : List Built),
    Triple (fun state => state.built = built)
      (setup.backrunLoop isMultiple backrunIns index multiIngredients bundle)
      (fun _ state => ∃ ins, frontruns state.built = frontruns built
        ∧ backruns state.built = backruns built ++ consecutive index ins
        ∧ ins.length = multiIngredients.length
        ∧ ∀ place < multiIngredients.length, ∃ ingredients frontrunOut backrunIn,
          multiIngredients[place]? = some ingredients
          ∧ backrunIns[index + place]? = some frontrunOut
          ∧ encodeIntermediaryToken ingredients frontrunOut = some backrunIn
          ∧ ins[place]? = some (BitVec.ofNat 256 backrunIn))
      fun failure _ => failure = .outOfRange → backrunIns.length < index + multiIngredients.length := by
  induction multiIngredients with
  | nil =>
    intro index bundle built
    refine triple_pure ?_
    rintro state rfl
    exact ⟨[], rfl, by simp [consecutive], rfl, by simp⟩
  | cons ingredients rest ih =>
    intro index bundle built
    have short : backrunIns[index]? = none → backrunIns.length < index + (rest.length + 1) :=
      fun missing => (List.getElem?_eq_none_iff.1 missing).trans_lt (by omega)
    have segment := (@backrunSegment_spec setup isMultiple index ingredients backrunIns bundle
      built).weaken (fun _ holds => holds) (fun _ _ holds => holds)
      fun _ _ missing out => short (missing out)
    refine triple_bind _ segment fun bundle' => ?_
    refine triple_exists fun frontrunOut => triple_exists fun backrunIn => triple_exists fun backrunOut => ?_
    refine triple_fact fun there => triple_fact fun encoded => ?_
    refine (ih (index + 1) bundle' _).weaken (fun _ holds => holds) ?_ ?_
    · rintro _ state ⟨ins, fronts, backs, length, spends⟩
      refine ⟨BitVec.ofNat 256 backrunIn :: ins, ?_, ?_, by simp [length], ?_⟩
      · rw [fronts, frontruns_append]; simp [frontruns]
      · rw [backs, backruns_append, List.append_assoc]; rfl
      · rintro (_ | place) bound
        · exact ⟨ingredients, frontrunOut, backrunIn, rfl, there, encoded, rfl⟩
        · obtain ⟨own, out, sold, rest⟩ := spends place (by simpa using bound)
          rw [show index + 1 + place = index + (place + 1) by omega] at rest
          exact ⟨own, out, sold, rest⟩
    · intro failure _ short out
      have := short out
      rw [List.length_cons]
      omega

/-- What the frontruns leave to the backruns: nothing for an amount that was skipped. -/
theorem frontrunLoop_length (isMultiple : Bool) (frontrunIns : List Word)
    (multiIngredients : List RawIngredients) : ∀ (index : ℕ) (acc : Frontruns),
    Triple (fun _ => True) (setup.frontrunLoop isMultiple frontrunIns index multiIngredients acc)
      (fun after _ =>
        after.ingredients.length = acc.ingredients.length + multiIngredients.length
        ∧ after.backrunIns.length ≤ acc.backrunIns.length + multiIngredients.length
        ∧ (acc.backrunIns.length + multiIngredients.length ≤ after.backrunIns.length →
          ∀ place < multiIngredients.length, ∃ amount, frontrunIns[index + place]? = some amount
            ∧ 2 ^ 32 ≤ amount.toNat))
      fun _ _ => True := by
  induction multiIngredients with
  | nil => exact fun _ _ => triple_pure fun _ _ => by simp
  | cons ingredients rest ih =>
    intro index acc
    refine triple_bind (fun amount _ => frontrunIns[index]? = some amount ∧ True)
      (triple_ofOption (fun _ found _ _ => ⟨found, trivial⟩) fun _ _ _ => trivial)
      fun amount => triple_fact fun found => triple_ite (fun zero => ?_) fun nonzero => ?_
    · refine (ih (index + 1) _).weaken (fun _ holds => holds) ?_ fun _ _ holds => holds
      rintro after _ ⟨kept, atMost, _⟩
      simp only [List.length_append, List.length_cons, List.length_nil] at *
      exact ⟨by omega, by omega, fun all => by omega⟩
    · refine triple_bind _ (frontrunSegment_next isMultiple index ingredients _ acc) fun next => ?_
      refine triple_fact ?_
      rintro ⟨frontrunOut, pool, bundle, rfl⟩
      refine (ih (index + 1) _).weaken (fun _ holds => holds) ?_ fun _ _ holds => holds
      rintro after _ ⟨kept, atMost, large⟩
      simp only [List.length_append, List.length_cons, List.length_nil] at *
      refine ⟨by omega, by omega, fun all place bound => ?_⟩
      cases place with
      | zero => exact ⟨amount, found, by_contra fun small => nonzero (encodeWeth_eq_zero.2 (by omega))⟩
      | succ place =>
        have later := large (by omega) place (by omega)
        rwa [show index + 1 + place = index + (place + 1) by omega] at later

end Loops

/-! ### The sanity check -/

section SanityCheck

variable (setup : Setup) (sandwichStartBalance : Word) (frontrunIns : List Word)
  (multiIngredients : List RawIngredients)

/-- If no amount is skipped, there is a frontrun and a backrun for every ingredient. -/
theorem sanityCheck_built (large : ∀ place < multiIngredients.length, ∃ amount,
      frontrunIns[place]? = some amount ∧ 2 ^ 32 ≤ amount.toNat) :
    Triple (fun state => state.built = [])
      (setup.sanityCheck sandwichStartBalance frontrunIns multiIngredients)
      (fun _ state => ∃ outs ins, frontruns state.built = consecutive 0 outs
        ∧ backruns state.built = consecutive 0 ins
        ∧ outs.length = multiIngredients.length ∧ ins.length = multiIngredients.length
        ∧ ∀ place < multiIngredients.length, ∃ ingredients frontrunOut backrunIn,
          multiIngredients[place]? = some ingredients ∧ outs[place]? = some frontrunOut
          ∧ encodeIntermediaryToken ingredients frontrunOut = some backrunIn
          ∧ ins[place]? = some (BitVec.ofNat 256 backrunIn))
      fun failure _ => failure ≠ .outOfRange := by
  refine triple_bind _ (frontrunLoop_built _ _ multiIngredients 0 _ [] (by simpa using large))
    fun after => ?_
  refine triple_exists fun outs => triple_exists fun kept => triple_exists fun more => ?_
  refine triple_fact fun outsLength => triple_fact fun kinds => triple_fact fun ins =>
    triple_fact fun keeps => triple_fact fun fronts => triple_fact fun backs => ?_
  refine triple_bind _ (idle_sendPayload setup _ _ _ _ _ _ _ _ _) ?_
  rintro ⟨frontrunGasUsed, frontrunAccessList⟩
  refine triple_bind _ (idle_commitMeats setup _ _ _) fun goodMeats => triple_ite (fun _ => ?_) fun _ => ?_
  · exact triple_bind (fun _ _ => False) (triple_throw fun _ _ => Failure.noConfusion)
      fun _ _ => False.elim
  have backrunIns : after.backrunIns = outs := ins
  have ingredients : after.ingredients = kept := keeps
  have sameLength : kept.length = multiIngredients.length := kinds.length_eq.symm
  rw [backrunIns, ingredients]
  let Done (built : List Built) : Prop := ∃ ins, frontruns built = consecutive 0 outs
    ∧ backruns built = consecutive 0 ins ∧ ins.length = kept.length
    ∧ ∀ place < kept.length, ∃ ingredients frontrunOut backrunIn, kept[place]? = some ingredients
      ∧ outs[0 + place]? = some frontrunOut
      ∧ encodeIntermediaryToken ingredients frontrunOut = some backrunIn
      ∧ ins[place]? = some (BitVec.ofNat 256 backrunIn)
  have loop : ∀ isMultiple, Triple (fun state => state.built = [] ++ more)
      (setup.backrunLoop isMultiple outs 0 kept ⟨[], 0⟩) (fun _ state => Done state.built)
      fun failure _ => failure ≠ .outOfRange := by
    intro isMultiple
    refine (backrunLoop_built isMultiple outs kept 0 ⟨[], 0⟩ ([] ++ more)).weaken
      (fun _ holds => holds) ?_ ?_
    · rintro _ state ⟨ins, sameFronts, sameBacks, rest⟩
      refine ⟨ins, sameFronts.trans fronts, sameBacks.trans ?_, rest⟩
      rw [List.nil_append, backs, List.nil_append]
    · intro failure _ short out
      have := short out
      omega
  refine triple_bind _ (loop _) fun backrun => ?_
  refine triple_bind _ ((idle_sendPayload setup _ _ _ _ _ _ _ _).holds Done) ?_
  rintro ⟨backrunGasUsed, backrunAccessList⟩
  refine triple_bind _ ((idle_getBalanceOfEvm setup _ _).holds Done) fun _ => triple_pure ?_
  rintro state ⟨ins, sameFronts, sameBacks, length, spends⟩
  refine ⟨outs, ins, sameFronts, sameBacks, outsLength, length.trans sameLength, fun place bound => ?_⟩
  obtain ⟨own, frontrunOut, backrunIn, found, out, encoded, sold⟩ := spends place (by omega)
  rw [Nat.zero_add] at out
  obtain ⟨original, foundOriginal, same⟩ : ∃ original, multiIngredients[place]? = some original
      ∧ SameKind original own := by
    obtain ⟨here, rfl⟩ := List.getElem?_eq_some_iff.1 found
    exact ⟨_, List.getElem?_eq_getElem bound, kinds.get bound here⟩
  exact ⟨original, frontrunOut, backrunIn, foundOriginal, out,
    (same.encodeIntermediaryToken frontrunOut) ▸ encoded, sold⟩

/-- If an amount is skipped, the run does not succeed. -/
theorem sanityCheck_large :
    Triple (fun _ => True) (setup.sanityCheck sandwichStartBalance frontrunIns multiIngredients)
      (fun _ _ => ∀ place < multiIngredients.length, ∃ amount,
        frontrunIns[place]? = some amount ∧ 2 ^ 32 ≤ amount.toNat) fun _ _ => True := by
  refine triple_bind _ (frontrunLoop_length _ _ _ 0 _) fun after => ?_
  refine triple_assume ?_
  rintro state ⟨kept, _, large⟩
  refine triple_bind _ (triple_trivial trivial) ?_
  rintro ⟨frontrunGasUsed, frontrunAccessList⟩
  refine triple_bind _ (triple_trivial trivial) fun goodMeats => triple_ite (fun _ => ?_) fun _ => ?_
  · exact triple_bind (fun _ _ => False) (triple_throw fun _ _ => trivial) fun _ _ => False.elim
  have loop : ∀ isMultiple, Triple (fun _ => True)
      (setup.backrunLoop isMultiple after.backrunIns 0 after.ingredients ⟨[], 0⟩)
      (fun _ _ => after.ingredients.length ≤ after.backrunIns.length) fun _ _ => True := by
    refine fun isMultiple => triple_assume fun state _ => ?_
    refine (backrunLoop_built isMultiple after.backrunIns after.ingredients 0 ⟨[], 0⟩ state.built).weaken
      (fun _ same => congrArg State.built same) ?_ fun _ _ _ => trivial
    rintro _ _ ⟨ins, _, _, _, spends⟩
    by_contra short
    obtain ⟨_, _, _, _, found, _⟩ := spends after.backrunIns.length (by omega)
    simp at found
  refine triple_bind _ ((loop _).weaken (fun _ _ => trivial) (fun _ _ holds => holds)
    fun _ _ holds => holds) fun backrun => triple_assume fun _ enough => ?_
  refine triple_trivial fun place bound => ?_
  simp only [List.length_nil, Nat.zero_add] at kept large
  exact large (by omega) place bound

end SanityCheck

/-! ### When frontruns and backruns are aligned -/

/-- One frontrun and one backrun for every ingredient, and each backrun sells what its own frontrun
bought. -/
theorem aligned_of_consecutive {multiIngredients : List RawIngredients} {recipe : OptimalRecipe}
    {state : State} {outs ins : List Word} (fronts : frontruns state.built = consecutive 0 outs)
    (backs : backruns state.built = consecutive 0 ins) (outsLength : outs.length = multiIngredients.length)
    (insLength : ins.length = multiIngredients.length)
    (spends : ∀ place < multiIngredients.length, ∃ ingredients frontrunOut backrunIn,
      multiIngredients[place]? = some ingredients ∧ outs[place]? = some frontrunOut
      ∧ encodeIntermediaryToken ingredients frontrunOut = some backrunIn
      ∧ ins[place]? = some (BitVec.ofNat 256 backrunIn)) :
    Aligned multiIngredients (.ok recipe state) where
  inRange := rfl
  sameIndices := by
    change (frontruns state.built).map _ = (backruns state.built).map _
    rw [fronts, backs, map_index_consecutive, map_index_consecutive, outsLength, insLength]
  spends := by
    change ∀ frontrun ∈ frontruns state.built, ∀ backrun ∈ backruns state.built, _
    rw [fronts, backs]
    intro frontrun bought backrun sold same
    obtain ⟨place, frontrunPlace, _, out⟩ := (mem_consecutive outs 0).1 bought
    obtain ⟨place', backrunPlace, _, sale⟩ := (mem_consecutive ins 0).1 sold
    obtain rfl : place' = place := by omega
    have bound : place' < multiIngredients.length :=
      outsLength ▸ (List.getElem?_eq_some_iff.1 out).1
    obtain ⟨ingredients, frontrunOut, backrunIn, found, out', encoded, sale'⟩ := spends place' bound
    rw [out] at out'
    rw [sale] at sale'
    cases out'
    rw [frontrunPlace, Nat.zero_add]
    exact ⟨ingredients, backrunIn, found, encoded, Option.some.inj sale'⟩
  firstFrontrun := by
    change FirstOnly (frontruns state.built)
    rw [fronts]
    exact firstOnly_consecutive outs
  firstBackrun := by
    change FirstOnly (backruns state.built)
    rw [backs]
    exact firstOnly_consecutive ins

/-- A run that nothing but an index cuts short is aligned if and only if no amount is skipped. If none
is, no run at all, cut short or not, stops at an index. -/
theorem aligned_iff (setup : Setup) (sandwichStartBalance : Word) (frontrunIns : List Word)
    (multiIngredients : List RawIngredients)
    (sameLength : frontrunIns.length = multiIngredients.length) :
    ((∀ failure state, setup.sanityCheck sandwichStartBalance frontrunIns multiIngredients .initial
        = .error failure state → failure = .outOfRange) →
      (Aligned multiIngredients
          (setup.sanityCheck sandwichStartBalance frontrunIns multiIngredients .initial)
        ↔ ∀ amount ∈ frontrunIns, 2 ^ 32 ≤ amount.toNat))
    ∧ ((∀ amount ∈ frontrunIns, 2 ^ 32 ≤ amount.toNat) →
      stopsOutOfRange
        (setup.sanityCheck sandwichStartBalance frontrunIns multiIngredients .initial) = false) := by
  have large_iff : (∀ place < multiIngredients.length, ∃ amount, frontrunIns[place]? = some amount
      ∧ 2 ^ 32 ≤ amount.toNat) ↔ ∀ amount ∈ frontrunIns, 2 ^ 32 ≤ amount.toNat := by
    rw [← sameLength]
    constructor
    · intro large amount member
      obtain ⟨place, bound, rfl⟩ := List.getElem_of_mem member
      obtain ⟨_, found, atLeast⟩ := large place bound
      rw [List.getElem?_eq_getElem bound] at found
      cases found
      exact atLeast
    · intro large place bound
      exact ⟨_, List.getElem?_eq_getElem bound, large _ (List.getElem_mem bound)⟩
  rw [← large_iff]
  have built := sanityCheck_built setup sandwichStartBalance frontrunIns multiIngredients
  cases run : setup.sanityCheck sandwichStartBalance frontrunIns multiIngredients .initial with
  | ok recipe state =>
    refine ⟨fun _ => ⟨fun _ => ?_, fun large => ?_⟩, fun _ => rfl⟩
    · exact (sanityCheck_large setup sandwichStartBalance _ _).of_ok trivial run
    · obtain ⟨outs, ins, fronts, backs, outsLength, insLength, spends⟩ := (built large).of_ok rfl run
      exact aligned_of_consecutive fronts backs outsLength insLength spends
  | error failure state =>
    have inRange := fun large => (built large).of_error rfl run
    refine ⟨fun only => ?_, fun large => ?_⟩
    · obtain rfl := only failure state rfl
      exact ⟨fun aligned => (nomatch aligned.inRange), fun large => absurd rfl (inRange large)⟩
    · cases failure with
      | outOfRange => exact absurd rfl (inRange large)
      | _ => rfl

/-- Two opportunities on the pool of `usdcIngredients`. -/
def usdcTwice : List RawIngredients := [usdcIngredients [legacyMeat], usdcIngredients [legacyMeat]]

theorem aligned_iff_usdc : Aligned usdcTwice
    (lenientSetup.sanityCheck 0 [1000000000000000000, 2000000000000000000] usdcTwice .initial) := by
  have large : ∀ amount ∈ ([1000000000000000000, 2000000000000000000] : List Word),
      2 ^ 32 ≤ amount.toNat := by simp
  have succeeds : Succeeds (lenientSetup.sanityCheck 0 [1000000000000000000, 2000000000000000000]
      usdcTwice .initial) = true := by decide +kernel
  refine ((aligned_iff lenientSetup 0 _ usdcTwice rfl).1 fun failure state run => ?_).2 large
  rw [run] at succeeds
  cases succeeds

/-- With a first amount of 1 wei the second backrun has no amount to sell. -/
theorem not_aligned_skipped : ¬ Aligned usdcTwice
    (lenientSetup.sanityCheck 0 [1, 1000000000000000000] usdcTwice .initial) := by
  have stops : stopsOutOfRange
      (lenientSetup.sanityCheck 0 [1, 1000000000000000000] usdcTwice .initial) = true := by
    decide +kernel
  intro aligned
  exact absurd (stops.symm.trans aligned.inRange) (by decide)

end Sando.Simulate
