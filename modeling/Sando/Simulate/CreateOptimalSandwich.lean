/-
The amounts of a bundle.

`createOptimalSandwich` searches the best amount of each opportunity within what the ones before it
left, drops those for which the search finds nothing, and hands the rest to `sanityCheck`. The revenue
of an opportunity is a parameter, as it is for the search. Each search is recorded.

A search never leaves its bounds (`search_terminates`), so the difference of the remaining balance and
the amount exists, and what is allocated never exceeds the balance (`createOptimalSandwich_allocates`).
-/

import Mathlib.Algebra.Order.BigOperators.Group.List
import Sando.Simulate.Fees
import Sando.Simulate.QuadraticSearch

namespace Sando.Simulate

open Sando.Evm Sando.Program Sando.TxBuilder

/-! ### The loop -/

/-- What is known about an opportunity, and the revenue of each amount. -/
structure Opportunity where
  ingredients : RawIngredients
  revenue : ℕ → ℕ

/-- A search that ran, and the amount it settled on. -/
structure Searched where
  opportunity : Opportunity
  upperBound : ℕ
  optimal : ℕ

/-- What the loop over the opportunities collects. -/
structure Collected where
  upperBound : ℕ
  optimals : List Word
  goodIngredients : List RawIngredients
  searches : List Searched

/-- Record a search. -/
def Collected.record (collected : Collected) (searched : Searched) : Collected :=
  { collected with searches := collected.searches ++ [searched] }

/-- Keep an opportunity. -/
def Collected.keep (collected : Collected) (searched : Searched) : Collected where
  -- what is left, or zero
  upperBound := (checkedMinus collected.upperBound searched.optimal).getD 0
  optimals := collected.optimals ++ [BitVec.ofNat 256 searched.optimal]
  goodIngredients := collected.goodIngredients ++ [searched.opportunity.ingredients]
  searches := collected.searches ++ [searched]

/-- The loop over the opportunities. -/
def collectOptimals (fuel : ℕ) : List Opportunity → Collected → Option Collected
  | [], collected => some collected
  | opportunity :: rest, collected => do
    let (optimal, _) ← juicedQuadraticSearch opportunity.revenue 0 collected.upperBound fuel
    let searched : Searched := ⟨opportunity, collected.upperBound, optimal⟩
    if optimal = 0 then
      collectOptimals fuel rest (collected.record searched)
    else
      collectOptimals fuel rest (collected.keep searched)

/-- Before the loop. -/
def Collected.initial (sandwichBalance : Word) : Collected := ⟨sandwichBalance.toNat, [], [], []⟩

/-- Find the amounts and check them together. -/
def Setup.createOptimalSandwich (setup : Setup) (fuel : ℕ) (multiIngredients : List Opportunity)
    (sandwichBalance : Word) : Simulation OptimalRecipe := do
  let collected ← ofOption .panic
    (collectOptimals fuel multiIngredients (.initial sandwichBalance))
  if collected.goodIngredients.isEmpty then throw (.error .zeroOptimal)
  else setup.sanityCheck sandwichBalance collected.optimals collected.goodIngredients

/-! ### The range of a search -/

section Range

variable {lowerBound upperBound : ℕ}

/-- A search settles on an amount below its upper bound, and looks at no amount above it. -/
theorem search_within (revenue : ℕ → ℕ) (lowSmall : lowerBound < 2 ^ 252)
    (small : upperBound < 2 ^ 252) :
    ∃ input rounds, (∀ fuel, 264 ≤ fuel →
        juicedQuadraticSearch revenue lowerBound upperBound fuel = some (input, rounds))
      ∧ input ≤ upperBound ∧ ∀ round ∈ rounds, ∀ amount ∈ round.intervals, amount ≤ upperBound := by
  have evaluated (search : Search) (ordered : search.lowerBound ≤ search.upperBound)
      (within : search.upperBound ≤ upperBound)
      (before : ∀ round ∈ search.rounds, ∀ amount ∈ round.intervals, amount ≤ upperBound) :
      ∀ round ∈ evaluate search, ∀ amount ∈ round.intervals, amount ≤ upperBound := by
    intro round there amount inside
    rcases List.mem_append.mp there with earlier | last
    · exact before round earlier amount inside
    · rw [List.mem_singleton.mp last] at inside
      obtain ⟨index, range, rfl⟩ := List.mem_map.mp inside
      have bounded : index ≤ 15 := Nat.lt_succ_iff.mp (List.mem_range.mp range)
      exact (bound_le_upper ordered bounded).trans within
  refine search_rule (fun search => search.upperBound ≤ upperBound
    ∧ search.highestSandoInput ≤ upperBound
    ∧ ∀ round ∈ search.rounds, ∀ amount ∈ round.intervals, amount ≤ upperBound)
    lowSmall small ⟨le_rfl, Nat.zero_le _, fun _ none => (nomatch none)⟩ ?_ ?_
  · intro search input rounds ⟨within, highest, before⟩ ends
    cases ends with
    | stop => exact ⟨highest, before⟩
    | exit ordered => exact ⟨Nat.zero_le _, evaluated search ordered within before⟩
  · intro search next ⟨within, _, before⟩ ends
    cases ends with
    | shrink ordered =>
      refine ⟨(Nat.sub_le _ _).trans ((bound_le_upper ordered (by decide)).trans within),
        (bound_le_upper ordered best_le).trans within, evaluated search ordered within before⟩
    | narrow ordered =>
      exact ⟨(upperAfter_le ordered).trans within, (bound_le_upper ordered best_le).trans within,
        evaluated search ordered within before⟩

end Range

/-- From zero and any upper bound below 2^252 the search ends without a panic, whatever the revenue. It
looks at amounts within its bounds only, and settles on one of them. -/
theorem search_terminates (revenue : ℕ → ℕ) (upperBound : ℕ) (small : upperBound < 2 ^ 252) :
    ∃ input rounds, (∀ fuel, 264 ≤ fuel →
        juicedQuadraticSearch revenue 0 upperBound fuel = some (input, rounds))
      ∧ input ∈ Set.Icc 0 upperBound
      ∧ ∀ round ∈ rounds, ∀ amount ∈ round.intervals, amount ∈ Set.Icc 0 upperBound := by
  obtain ⟨input, rounds, run, below, inside⟩ := search_within revenue (Nat.two_pow_pos 252) small
  exact ⟨input, rounds, run, ⟨Nat.zero_le _, below⟩, fun round there amount evaluated =>
    ⟨Nat.zero_le _, inside round there amount evaluated⟩⟩

/-- Revenue that rises up to a peak and falls from there. -/
def peaked (peak amount : ℕ) : ℕ := min amount (2 * peak - amount)

/-- With a balance of one ether and a peak at 0.4, the search settles next to the peak. -/
theorem search_terminates_ether : ∃ input rounds, (∀ fuel, 264 ≤ fuel →
        juicedQuadraticSearch (peaked 400000000000000000) 0 1000000000000000000 fuel = some (input, rounds))
      ∧ input ∈ Set.Icc 0 1000000000000000000
      ∧ (∀ round ∈ rounds, ∀ amount ∈ round.intervals, amount ∈ Set.Icc 0 1000000000000000000)
      ∧ input = 399999998049077882 := by
  obtain ⟨input, rounds, run, inside, evaluated⟩ :=
    search_terminates (peaked 400000000000000000) 1000000000000000000 (by norm_num)
  have settled : (juicedQuadraticSearch (peaked 400000000000000000) 0 1000000000000000000 264).map Prod.fst
      = some 399999998049077882 := by decide +kernel
  rw [run 264 le_rfl] at settled
  exact ⟨input, rounds, run, inside, evaluated, Option.some.inj settled⟩

/-! ### The allocation -/

/-- A search that found an amount. -/
def Searched.found (searched : Searched) : Bool := decide (searched.optimal ≠ 0)

/-- The amounts that a list of searches allocates. -/
def allocated (searches : List Searched) : ℕ := (searches.map (·.optimal)).sum

/-- The search ran within its upper bound, whatever the fuel above a limit. -/
structure Searched.Sound (searched : Searched) : Prop where
  runs : ∃ rounds, ∀ fuel, 264 ≤ fuel → juicedQuadraticSearch searched.opportunity.revenue 0
    searched.upperBound fuel = some (searched.optimal, rounds)
  within : searched.optimal ≤ searched.upperBound

/-- What the loop has collected is what its searches found, and each of them had what the ones before
it left. -/
structure Collects (balance : ℕ) (opportunities : List Opportunity) (collected : Collected) :
    Prop where
  searched : collected.searches.map (·.opportunity) = opportunities
  sound : ∀ search ∈ collected.searches, search.Sound
  remaining : ∀ before search after, collected.searches = before ++ search :: after →
    allocated before + search.upperBound = balance
  upperBound : allocated collected.searches + collected.upperBound = balance
  optimals : collected.optimals.map BitVec.toNat
    = (collected.searches.filter Searched.found).map (·.optimal)
  goodIngredients : collected.goodIngredients
    = (collected.searches.filter Searched.found).map (·.opportunity.ingredients)

section Collect

variable {balance : ℕ} {opportunities : List Opportunity} {collected : Collected}
  {opportunity : Opportunity} {optimal : ℕ}

theorem allocated_append (searches : List Searched) (search : Searched) :
    allocated (searches ++ [search]) = allocated searches + search.optimal := by
  simp [allocated]

/-- The part of a list before the new last element, or one of the parts from before. -/
theorem append_eq_split {searches before after : List Searched} {new search : Searched}
    (split : searches ++ [new] = before ++ search :: after) :
    (searches = before ∧ search = new) ∨ ∃ rest, searches = before ++ search :: rest := by
  rcases List.eq_nil_or_concat after with rfl | ⟨rest, last, rfl⟩
  · obtain ⟨same, last⟩ := List.append_inj' split rfl
    exact Or.inl ⟨same, (List.cons.inj last).1.symm⟩
  · rw [List.concat_eq_append, ← List.cons_append, ← List.append_assoc] at split
    exact Or.inr ⟨rest, (List.append_inj' split rfl).1⟩

theorem Collects.initial (sandwichBalance : Word) :
    Collects sandwichBalance.toNat [] (.initial sandwichBalance) where
  searched := rfl
  sound _ none := (nomatch none)
  remaining before search after split := by simp [Collected.initial] at split
  upperBound := Nat.zero_add _
  optimals := rfl
  goodIngredients := rfl

/-- What the next search adds, whether it is kept or not. -/
theorem Collects.next (collects : Collects balance opportunities collected) {search : Searched}
    (sound : search.Sound) (bound : search.upperBound = collected.upperBound) (next : Collected)
    (searches : next.searches = collected.searches ++ [search]) :
    next.searches.map (·.opportunity) = opportunities ++ [search.opportunity]
      ∧ (∀ search ∈ next.searches, search.Sound)
      ∧ ∀ before search after, next.searches = before ++ search :: after →
        allocated before + search.upperBound = balance := by
  rw [searches]
  refine ⟨?_, ?_, ?_⟩
  · rw [List.map_append, collects.searched]
    rfl
  · intro other there
    rcases List.mem_append.mp there with earlier | last
    · exact collects.sound other earlier
    · rwa [List.mem_singleton.mp last]
  · intro before other after split
    rcases append_eq_split split with ⟨rfl, rfl⟩ | ⟨rest, earlier⟩
    · rw [bound]
      exact collects.upperBound
    · exact collects.remaining before other rest earlier

/-- A search that found nothing. -/
theorem Collects.record (collects : Collects balance opportunities collected)
    (sound : Searched.Sound ⟨opportunity, collected.upperBound, 0⟩) :
    Collects balance (opportunities ++ [opportunity])
      (collected.record ⟨opportunity, collected.upperBound, 0⟩) := by
  obtain ⟨searched, sound, remaining⟩ := collects.next sound rfl
    (collected.record ⟨opportunity, collected.upperBound, 0⟩) rfl
  refine ⟨searched, sound, remaining, ?_, ?_, ?_⟩
  · exact (congrArg (· + _) (allocated_append _ _)).trans collects.upperBound
  · simp [Collected.record, Searched.found, collects.optimals]
  · simp [Collected.record, Searched.found, collects.goodIngredients]

/-- A search that found an amount. -/
theorem Collects.keep (collects : Collects balance opportunities collected) (small : balance < 2 ^ 256)
    (positive : optimal ≠ 0)
    (sound : Searched.Sound ⟨opportunity, collected.upperBound, optimal⟩) :
    Collects balance (opportunities ++ [opportunity])
      (collected.keep ⟨opportunity, collected.upperBound, optimal⟩) := by
  have within : optimal ≤ collected.upperBound := sound.within
  have left := collects.upperBound
  obtain ⟨searched, sound, remaining⟩ := collects.next sound rfl
    (collected.keep ⟨opportunity, collected.upperBound, optimal⟩) rfl
  refine ⟨searched, sound, remaining, ?_, ?_, ?_⟩
  · simp only [Collected.keep, checkedMinus_eq within, Option.getD_some, allocated_append]
    omega
  · have word : (BitVec.ofNat 256 optimal).toNat = optimal := toNat_ofNat_of_lt (by omega)
    rw [Collected.keep, List.map_append, List.map_singleton, word, collects.optimals]
    simp [Searched.found, positive]
  · simp [Collected.keep, Searched.found, collects.goodIngredients, positive]

/-- The loop collects, and enough fuel is one number for all its searches. -/
theorem collectOptimals_collects (rest : List Opportunity) (small : balance < 2 ^ 252) :
    ∀ opportunities collected, Collects balance opportunities collected →
      ∃ final, (∀ fuel, 264 ≤ fuel → collectOptimals fuel rest collected = some final)
        ∧ Collects balance (opportunities ++ rest) final := by
  induction rest with
  | nil =>
    intro opportunities collected collects
    exact ⟨collected, fun _ _ => rfl, (List.append_nil opportunities).symm ▸ collects⟩
  | cons opportunity rest ih =>
    intro opportunities collected collects
    have bound : collected.upperBound ≤ balance := by
      rw [← collects.upperBound]
      exact Nat.le_add_left _ _
    obtain ⟨optimal, rounds, run, within, -⟩ :=
      search_within opportunity.revenue (Nat.two_pow_pos 252) (bound.trans_lt small)
    have sound : Searched.Sound ⟨opportunity, collected.upperBound, optimal⟩ := ⟨⟨rounds, run⟩, within⟩
    have step (fuel : ℕ) (enough : 264 ≤ fuel) :
        collectOptimals fuel (opportunity :: rest) collected
          = if optimal = 0 then
              collectOptimals fuel rest (collected.record ⟨opportunity, collected.upperBound, optimal⟩)
            else
              collectOptimals fuel rest (collected.keep ⟨opportunity, collected.upperBound, optimal⟩)
          := by
      rw [collectOptimals, run fuel enough]
      rfl
    rw [← List.singleton_append, ← List.append_assoc]
    by_cases zero : optimal = 0
    · subst zero
      obtain ⟨final, runs, done⟩ := ih _ _ (collects.record sound)
      exact ⟨final, fun fuel enough => (step fuel enough).trans (runs fuel enough), done⟩
    · obtain ⟨final, runs, done⟩ := ih _ _ (collects.keep (small.trans (by norm_num)) zero sound)
      exact ⟨final, fun fuel enough =>
        ((step fuel enough).trans (if_neg zero)).trans (runs fuel enough), done⟩

end Collect

/-- The amounts and the ingredients that a bundle is made of. -/
structure Allocates (balance : ℕ) (opportunities : List Opportunity) (collected : Collected) :
    Prop where
  /-- Every opportunity was searched, within what the searches before it left. -/
  searched : collected.searches.map (·.opportunity) = opportunities
  sound : ∀ search ∈ collected.searches, search.Sound
  remaining : ∀ before search after, collected.searches = before ++ search :: after →
    allocated before + search.upperBound = balance
  /-- The fallback is not taken. -/
  subtracts : ∀ search ∈ collected.searches,
    checkedMinus search.upperBound search.optimal = some (search.upperBound - search.optimal)
  length : collected.optimals.length = collected.goodIngredients.length
  /-- Each amount is the one of its ingredients. -/
  aligned : ∃ kept : List Searched, kept.Sublist collected.searches
    ∧ collected.optimals.map BitVec.toNat = kept.map (·.optimal)
    ∧ collected.goodIngredients = kept.map (·.opportunity.ingredients)
  positive : ∀ optimal ∈ collected.optimals, 0 < optimal.toNat
  total : (collected.optimals.map BitVec.toNat).sum ≤ balance
  rounded : (collected.optimals.map fun optimal => encodeWeth optimal.toNat).sum ≤ balance
  nothing : collected.goodIngredients = [] ↔ ∀ search ∈ collected.searches, search.optimal = 0

section Allocate

variable {balance : ℕ} {opportunities : List Opportunity} {collected : Collected}

/-- The sum over some searches is at most the sum over all of them. -/
theorem sum_filter_le (searches : List Searched) (kept : Searched → Bool) :
    ((searches.filter kept).map (·.optimal)).sum ≤ allocated searches :=
  List.Sublist.sum_le_sum (List.filter_sublist.map _) fun _ _ => Nat.zero_le _

/-- The amounts never exceed the balance. -/
theorem Collects.total (collects : Collects balance opportunities collected) :
    (collected.optimals.map BitVec.toNat).sum ≤ balance := by
  rw [collects.optimals]
  calc ((collected.searches.filter Searched.found).map (·.optimal)).sum
    _ ≤ allocated collected.searches := sum_filter_le _ _
    _ ≤ balance := by
      rw [← collects.upperBound]
      exact Nat.le_add_right _ _

theorem Collects.allocates (collects : Collects balance opportunities collected) :
    Allocates balance opportunities collected where
  searched := collects.searched
  sound := collects.sound
  remaining := collects.remaining
  subtracts search there := checkedMinus_eq (collects.sound search there).within
  length := by
    rw [collects.goodIngredients, List.length_map, ← List.length_map, collects.optimals,
      List.length_map]
  aligned := ⟨_, List.filter_sublist, collects.optimals, collects.goodIngredients⟩
  positive optimal there := by
    have number := List.mem_map_of_mem (f := BitVec.toNat) there
    rw [collects.optimals] at number
    obtain ⟨search, kept, same⟩ := List.mem_map.mp number
    rw [← same]
    exact Nat.pos_of_ne_zero (of_decide_eq_true (List.mem_filter.mp kept).2)
  total := collects.total
  rounded := (List.sum_le_sum fun _ _ => encodeWeth_le).trans collects.total
  nothing := by
    rw [collects.goodIngredients, List.map_eq_nil_iff, List.filter_eq_nil_iff]
    refine forall₂_congr fun search _ => ?_
    simp [Searched.found]

end Allocate

/-- What reaches the sanity check. -/
theorem createOptimalSandwich_allocates (setup : Setup) (opportunities : List Opportunity)
    (sandwichBalance : Word) (small : sandwichBalance.toNat < 2 ^ 252) :
    ∃ collected, Allocates sandwichBalance.toNat opportunities collected
      ∧ ∀ fuel, 264 ≤ fuel →
        collectOptimals fuel opportunities (.initial sandwichBalance) = some collected
        ∧ setup.createOptimalSandwich fuel opportunities sandwichBalance
          = if collected.goodIngredients = [] then throw (.error .zeroOptimal)
            else setup.sanityCheck sandwichBalance collected.optimals collected.goodIngredients := by
  obtain ⟨collected, runs, collects⟩ :=
    collectOptimals_collects opportunities small [] _ (Collects.initial sandwichBalance)
  refine ⟨collected, collects.allocates, fun fuel enough => ⟨runs fuel enough, ?_⟩⟩
  rw [Setup.createOptimalSandwich, runs fuel enough]
  change (if collected.goodIngredients.isEmpty then throw (.error .zeroOptimal)
    else setup.sanityCheck sandwichBalance collected.optimals collected.goodIngredients) = _
  simp only [List.isEmpty_iff]

/-- Three opportunities, the one in the middle without revenue. -/
def threeOpportunities : List Opportunity :=
  [⟨usdcIngredients [legacyMeat], peaked 400000000000000000⟩, ⟨usdcIngredients [], fun _ => 0⟩,
    ⟨usdcIngredients [type2Meat], peaked 300000000000000000⟩]

/-- With a balance of one ether, the first and the last of them are given their amounts. -/
theorem createOptimalSandwich_allocates_ether :
    ∃ collected, Allocates (1000000000000000000 : Word).toNat threeOpportunities collected
      ∧ collected.optimals = [399999998049077882, 299999994771528706]
      ∧ ∀ fuel, 264 ≤ fuel →
        lenientSetup.createOptimalSandwich fuel threeOpportunities 1000000000000000000
          = lenientSetup.sanityCheck 1000000000000000000 collected.optimals
              collected.goodIngredients := by
  obtain ⟨collected, allocates, runs⟩ :=
    createOptimalSandwich_allocates lenientSetup threeOpportunities 1000000000000000000 (by decide)
  have settled : (collectOptimals 264 threeOpportunities (.initial 1000000000000000000)).map
      Collected.optimals = some [399999998049077882, 299999994771528706] := by decide +kernel
  rw [(runs 264 le_rfl).1] at settled
  have optimals : collected.optimals = [399999998049077882, 299999994771528706] := Option.some.inj settled
  have found : collected.goodIngredients ≠ [] := by
    intro nothing
    have length := allocates.length
    rw [optimals, nothing] at length
    cases length
  exact ⟨collected, allocates, optimals, fun fuel enough => (runs fuel enough).2.trans (if_neg found)⟩

end Sando.Simulate
