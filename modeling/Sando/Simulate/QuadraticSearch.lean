/-
The search for the best frontrun amount.

`juicedQuadraticSearch` evaluates the revenue at the bounds of fifteen intervals, keeps the bounds next
to the best one and repeats. Amounts are naturals, and an operation that leaves 256 bits is a panic
(`none`), as is an index out of range. The revenue is a parameter: the simulation of an amount on a new
fork, with errors mapped to zero. Each round is recorded with the amounts it evaluated.

`search_halts`: from bounds below 2^252 the search returns after at most 264 rounds, whatever the
revenue. It returns the best amount of its last round only (`search_best_of_last`).
-/

import Mathlib.Data.Nat.Log
import Mathlib.Data.List.GetD
import Mathlib.Tactic.Ring
import Sando.Evm.Checked
import Sando.Search.Grid

namespace Sando.Simulate

open Sando.Evm Sando.Search

/-! ### The search -/

/-- A difference that must not be negative. -/
def checkedMinus (first second : ℕ) : Option ℕ :=
  if second ≤ first then some (first - second) else none

def numberOfIntervals : ℕ := 15

/-- The bounds of the intervals. -/
def splitIntervals (lowerBound upperBound : ℕ) : Option (List ℕ) :=
  (List.range (numberOfIntervals + 1)).mapM fun i => do
    let range ← checkedMinus upperBound lowerBound
    let scaled ← checked (range * i)
    checked (lowerBound + scaled / numberOfIntervals)

/-- The index of the highest revenue, the last one of several. -/
def highestRevenueIndex (revenues : List ℕ) : ℕ :=
  lastMax (fun i => revenues.getD i 0) (revenues.length - 1)

def leftIntervalLower (i : ℕ) (intervals : List ℕ) : Option ℕ := do
  let before ← checkedMinus i 1
  checked ((← intervals[before]?) + 1)

def rightIntervalUpper (i : ℕ) (intervals : List ℕ) : Option ℕ := do
  checkedMinus (← intervals[i + 1]?) 1

def shouldLoopTerminate (tolerance lowerBound upperBound : ℕ) : Bool :=
  match checkedMinus upperBound lowerBound with
  | none => true
  | some searchRange => decide (searchRange < tolerance)

/-- A round that evaluated the revenue. -/
structure Evaluated where
  lowerBound : ℕ
  upperBound : ℕ
  intervals : List ℕ
  deriving DecidableEq

/-- What the loop changes, with the rounds so far. -/
structure Search where
  lowerBound : ℕ
  upperBound : ℕ
  highestSandoInput : ℕ
  counter : ℕ
  rounds : List Evaluated

/-- How a round ends. -/
inductive Outcome
  | finished (input : ℕ) (rounds : List Evaluated)
  | goOn (search : Search)

/-- The bounds for the next round. -/
def narrow (search : Search) (intervals : List ℕ) (highest : ℕ) : Option Search :=
  -- if highest revenue is produced at last interval (upper bound stays fixed)
  if highest = intervals.length - 1 then do
    pure { search with lowerBound := ← leftIntervalLower highest intervals }
  -- if highest revenue is produced at first interval (lower bound stays fixed)
  else if highest = 0 then do
    pure { search with upperBound := ← rightIntervalUpper highest intervals }
  -- set bounds to intervals adjacent to highest revenue index and search again
  else do
    let lowerBound ← leftIntervalLower highest intervals
    let upperBound ← rightIntervalUpper highest intervals
    pure { search with lowerBound, upperBound }

/-- One round. -/
def searchRound (revenue : ℕ → ℕ) (tolerance : ℕ) (search : Search) : Option Outcome := do
  let counter := search.counter + 1
  if shouldLoopTerminate tolerance search.lowerBound search.upperBound then
    return .finished search.highestSandoInput search.rounds
  -- split search range into intervals
  let intervals ← splitIntervals search.lowerBound search.upperBound
  let rounds := search.rounds ++ [⟨search.lowerBound, search.upperBound, intervals⟩]
  -- calculate revenue at each interval and find the one that produces the highest
  let revenues := intervals.map revenue
  let highest := highestRevenueIndex revenues
  let highestSandoInput ← intervals[highest]?
  let search := { search with counter, rounds, highestSandoInput }
  if revenues.getD highest 0 = 0 then
    -- most likely there is no sandwich possibility
    if counter = 10 then
      return .finished 0 rounds
    -- no revenue found, most likely small optimal so decrease range
    let third ← intervals[intervals.length / 3]?
    return .goOn { search with upperBound := (checkedMinus third 1).getD 0 }
  return .goOn (← narrow search intervals highest)

/-- The rounds, at most `fuel` of them. -/
def searchLoop (revenue : ℕ → ℕ) (tolerance : ℕ) : ℕ → Search → Option (ℕ × List Evaluated)
  | 0, _ => none
  | fuel + 1, search => do
    match ← searchRound revenue tolerance search with
    | .finished input rounds => pure (input, rounds)
    | .goOn search => searchLoop revenue tolerance fuel search

/-- The range at which the search stops: a millionth of the middle. -/
def searchTolerance (lowerBound upperBound : ℕ) : Option ℕ := do
  let sum ← checked (upperBound + lowerBound)
  pure (1 * (sum / 2) / 1000000)

/-- The amount the search settles on, and the rounds it took. -/
def juicedQuadraticSearch (revenue : ℕ → ℕ) (lowerBound upperBound fuel : ℕ) :
    Option (ℕ × List Evaluated) := do
  let tolerance ← searchTolerance lowerBound upperBound
  searchLoop revenue tolerance fuel ⟨lowerBound, upperBound, 0, 0, []⟩

/-! ### One round -/

/-- The point of an index. -/
abbrev bound (search : Search) : ℕ → ℕ := point numberOfIntervals search.lowerBound search.upperBound

/-- The index of the best point. -/
def best (revenue : ℕ → ℕ) (search : Search) : ℕ :=
  lastMax (fun i => revenue (bound search i)) numberOfIntervals

theorem bound_le_upper {search : Search} (ordered : search.lowerBound ≤ search.upperBound) {index : ℕ}
    (inside : index ≤ 15) : bound search index ≤ search.upperBound :=
  point_le_upper (Nat.succ_pos 14) ordered inside

theorem checkedMinus_eq {first second : ℕ} (le : second ≤ first) :
    checkedMinus first second = some (first - second) := if_pos le

theorem mapM_eq_some {α β : Type} {f : α → Option β} {g : α → β} (list : List α)
    (each : ∀ x ∈ list, f x = some (g x)) : list.mapM f = some (list.map g) := by
  induction list with
  | nil => rfl
  | cons x xs ih =>
    rw [List.mapM_cons, each x List.mem_cons_self, ih fun y there => each y (.tail _ there)]
    rfl

/-- Below 2^252 nothing overflows. -/
theorem splitIntervals_eq {lower upper : ℕ} (ordered : lower ≤ upper) (small : upper < 2 ^ 252) :
    splitIntervals lower upper
      = some ((List.range (numberOfIntervals + 1)).map (point numberOfIntervals lower upper)) := by
  refine mapM_eq_some _ fun i there => ?_
  have index : i ≤ 15 := by simpa [numberOfIntervals, Nat.lt_succ_iff] using there
  have product : (upper - lower) * i ≤ (2 ^ 252 - 1) * 15 := Nat.mul_le_mul (by omega) index
  have inside : point 15 lower upper i ≤ upper := point_le_upper (by decide) ordered index
  unfold point at inside
  rw [checkedMinus_eq ordered]
  simp only [Option.bind_eq_bind, Option.bind_some]
  rw [checked_of_lt (by omega), Option.bind_some]
  exact checked_of_lt (by unfold numberOfIntervals; omega)

theorem shouldLoopTerminate_eq_false {tolerance lower upper : ℕ} :
    shouldLoopTerminate tolerance lower upper = false ↔ lower ≤ upper ∧ tolerance ≤ upper - lower := by
  unfold shouldLoopTerminate
  by_cases ordered : lower ≤ upper
  · rw [checkedMinus_eq ordered]
    simp [ordered]
  · rw [checkedMinus, if_neg ordered]
    simp [ordered]

section Round

variable {revenue : ℕ → ℕ} {search : Search}

theorem best_le : best revenue search ≤ 15 := lastMax_le _ _

/-- No point of the round is better than the best one. -/
theorem le_best {index : ℕ} (inside : index ≤ 15) :
    revenue (bound search index) ≤ revenue (bound search (best revenue search)) :=
  le_value_lastMax (fun i => revenue (bound search i)) inside

/-- The next point is worse. -/
theorem next_lt_best (inner : best revenue search < 15) :
    revenue (bound search (best revenue search + 1))
      < revenue (bound search (best revenue search)) :=
  value_lt_lastMax (fun i => revenue (bound search i)) (Nat.lt_succ_self _) inner

/-- So it is another point. -/
theorem best_lt_next (inner : best revenue search < 15) :
    bound search (best revenue search) < bound search (best revenue search + 1) := by
  refine lt_of_le_of_ne (point_mono (Nat.le_succ _)) fun same => ?_
  have worse := next_lt_best inner
  rw [← same] at worse
  exact lt_irrefl _ worse

/-- The lower bound after a round with revenue. -/
def lowerAfter (revenue : ℕ → ℕ) (search : Search) : ℕ :=
  if best revenue search = 0 then search.lowerBound
  else bound search (best revenue search - 1) + 1

/-- The upper bound after a round with revenue. -/
def upperAfter (revenue : ℕ → ℕ) (search : Search) : ℕ :=
  if best revenue search = 15 then search.upperBound
  else bound search (best revenue search + 1) - 1

/-- What a round records. -/
def evaluate (search : Search) : List Evaluated :=
  search.rounds ++ [⟨search.lowerBound, search.upperBound,
    (List.range (numberOfIntervals + 1)).map (bound search)⟩]

/-- The state after a round. -/
def advance (revenue : ℕ → ℕ) (search : Search) (lowerBound upperBound : ℕ) : Search where
  lowerBound := lowerBound
  upperBound := upperBound
  highestSandoInput := bound search (best revenue search)
  counter := search.counter + 1
  rounds := evaluate search

section Steps

variable {intervals : List ℕ} (grid : (List.range 16).map (bound search) = intervals)

include grid

theorem getElem_intervals {index : ℕ} (inside : index ≤ 15) :
    intervals[index]? = some (bound search index) := by
  rw [← grid, List.getElem?_map, List.getElem?_range (by omega)]
  rfl

theorem length_intervals : intervals.length = 16 := by
  rw [← grid, List.length_map, List.length_range]

theorem getD_revenues {index : ℕ} (inside : index ≤ 15) :
    (intervals.map revenue).getD index 0 = revenue (bound search index) := by
  rw [List.getD_eq_getElem?_getD, List.getElem?_map, getElem_intervals grid inside]
  rfl

theorem highestRevenueIndex_eq :
    highestRevenueIndex (intervals.map revenue) = best revenue search := by
  unfold highestRevenueIndex
  rw [List.length_map, length_intervals grid]
  exact lastMax_congr fun index inside => getD_revenues grid inside

theorem leftIntervalLower_eq {index : ℕ} (positive : index ≠ 0) (inside : index ≤ 15)
    (fits : bound search (index - 1) + 1 < 2 ^ 256) :
    leftIntervalLower index intervals = some (bound search (index - 1) + 1) := by
  unfold leftIntervalLower
  rw [checkedMinus_eq (by omega)]
  simp only [Option.bind_eq_bind, Option.bind_some]
  rw [getElem_intervals grid (by omega), Option.bind_some, checked_of_lt fits]

theorem rightIntervalUpper_eq {index : ℕ} (inner : index < 15)
    (positive : 0 < bound search (index + 1)) :
    rightIntervalUpper index intervals = some (bound search (index + 1) - 1) := by
  unfold rightIntervalUpper
  simp only [Option.bind_eq_bind]
  rw [getElem_intervals grid (by omega), Option.bind_some, checkedMinus_eq positive]

/-- The bounds move next to the best point. -/
theorem narrow_eq (small : search.upperBound < 2 ^ 252) (ordered : search.lowerBound ≤ search.upperBound)
    (counter input : ℕ) (rounds : List Evaluated) :
    narrow ⟨search.lowerBound, search.upperBound, input, counter, rounds⟩ intervals
        (best revenue search)
      = some ⟨lowerAfter revenue search, upperAfter revenue search, input, counter, rounds⟩ := by
  have inside : best revenue search ≤ 15 := best_le
  have fits : ∀ index ≤ 15, bound search index + 1 < 2 ^ 256 := fun index le => by
    have := bound_le_upper ordered le
    omega
  unfold narrow lowerAfter upperAfter
  rw [length_intervals grid]
  by_cases last : best revenue search = 15
  · rw [if_pos last, leftIntervalLower_eq grid (by omega) inside (fits _ (by omega)),
      if_neg (by omega), if_pos last]
    rfl
  have upper := rightIntervalUpper_eq grid (lt_of_le_of_ne inside last)
    (Nat.zero_lt_of_lt (best_lt_next (lt_of_le_of_ne inside last)))
  rw [if_neg last, if_neg last, upper]
  by_cases first : best revenue search = 0
  · rw [if_pos first, if_pos first]
    rfl
  · rw [if_neg first, if_neg first, leftIntervalLower_eq grid first inside (fits _ (by omega))]
    rfl

end Steps

variable {tolerance : ℕ}

theorem searchRound_stop
    (stop : shouldLoopTerminate tolerance search.lowerBound search.upperBound = true) :
    searchRound revenue tolerance search
      = some (.finished search.highestSandoInput search.rounds) := by
  unfold searchRound
  simp [stop]

section Running

variable (ordered : search.lowerBound ≤ search.upperBound) (small : search.upperBound < 2 ^ 252)
  (goOn : shouldLoopTerminate tolerance search.lowerBound search.upperBound = false)

include ordered small goOn

/-- A round evaluates its points and compares the best one with zero. -/
theorem searchRound_evaluate : searchRound revenue tolerance search =
    if revenue (bound search (best revenue search)) = 0 then
      if search.counter + 1 = 10 then some (.finished 0 (evaluate search))
      else some (.goOn (advance revenue search search.lowerBound (bound search 5 - 1)))
    else some (.goOn (advance revenue search (lowerAfter revenue search)
      (upperAfter revenue search))) := by
  have grid : (List.range 16).map (bound search)
    = (List.range (numberOfIntervals + 1)).map (bound search) := rfl
  unfold searchRound
  rw [goOn, splitIntervals_eq ordered small]
  simp only [Bool.false_eq_true, if_false, Option.pure_def, Option.bind_eq_bind, Option.bind_some]
  rw [highestRevenueIndex_eq grid, getD_revenues grid best_le, getElem_intervals grid best_le,
    length_intervals grid, getElem_intervals grid (show 16 / 3 ≤ 15 by decide)]
  rw [Option.bind_some, Option.bind_some, narrow_eq grid small ordered, Option.bind_some]
  have third : (checkedMinus (bound search (16 / 3)) 1).getD 0 = bound search 5 - 1 := by
    rw [show 16 / 3 = 5 from rfl]
    unfold checkedMinus
    split
    · rfl
    · rw [Option.getD_none]
      omega
  rw [third]
  rfl

end Running

/-- The four ways a round ends. -/
inductive RoundEnds (revenue : ℕ → ℕ) (tolerance : ℕ) (search : Search) : Outcome → Prop
  | stop (stops : ¬ (search.lowerBound ≤ search.upperBound
      ∧ tolerance ≤ search.upperBound - search.lowerBound)) :
    RoundEnds revenue tolerance search (.finished search.highestSandoInput search.rounds)
  | exit (ordered : search.lowerBound ≤ search.upperBound)
    (zero : revenue (bound search (best revenue search)) = 0) (tenth : search.counter + 1 = 10) :
    RoundEnds revenue tolerance search (.finished 0 (evaluate search))
  | shrink (ordered : search.lowerBound ≤ search.upperBound)
    (zero : revenue (bound search (best revenue search)) = 0) (other : search.counter + 1 ≠ 10) :
    RoundEnds revenue tolerance search
      (.goOn (advance revenue search search.lowerBound (bound search 5 - 1)))
  | narrow (ordered : search.lowerBound ≤ search.upperBound)
    (positive : revenue (bound search (best revenue search)) ≠ 0) :
    RoundEnds revenue tolerance search
      (.goOn (advance revenue search (lowerAfter revenue search) (upperAfter revenue search)))

/-- No round panics. -/
theorem searchRound_ends (small : search.upperBound < 2 ^ 252) :
    ∃ outcome, searchRound revenue tolerance search = some outcome
      ∧ RoundEnds revenue tolerance search outcome := by
  by_cases stop : shouldLoopTerminate tolerance search.lowerBound search.upperBound = true
  · refine ⟨_, searchRound_stop stop, .stop fun goOn => ?_⟩
    rw [shouldLoopTerminate_eq_false.mpr goOn] at stop
    exact Bool.noConfusion stop
  have goOn := Bool.not_eq_true _ ▸ stop
  have ordered := (shouldLoopTerminate_eq_false.mp goOn).1
  rw [searchRound_evaluate ordered small goOn]
  by_cases zero : revenue (bound search (best revenue search)) = 0
  · rw [if_pos zero]
    by_cases tenth : search.counter + 1 = 10
    · rw [if_pos tenth]
      exact ⟨_, rfl, .exit ordered zero tenth⟩
    · rw [if_neg tenth]
      exact ⟨_, rfl, .shrink ordered zero tenth⟩
  · rw [if_neg zero]
    exact ⟨_, rfl, .narrow ordered zero⟩

theorem upperAfter_le (ordered : search.lowerBound ≤ search.upperBound) :
    upperAfter revenue search ≤ search.upperBound := by
  unfold upperAfter
  split
  · exact le_rfl
  next inner =>
    have inside := bound_le_upper ordered
      (Nat.succ_le_of_lt (lt_of_le_of_ne (@best_le revenue search) inner))
    exact (Nat.sub_le _ _).trans inside

end Round

/-! ### Termination -/

section Termination

variable {revenue : ℕ → ℕ} {tolerance : ℕ} {search : Search}

/-- How many amounts the bounds leave. -/
def room (lowerBound upperBound : ℕ) : ℕ := upperBound + 1 - lowerBound

/-- A round with revenue halves the room. -/
theorem room_narrow (ordered : search.lowerBound ≤ search.upperBound) :
    2 * room (lowerAfter revenue search) (upperAfter revenue search)
      ≤ room search.lowerBound search.upperBound := by
  have inside := @best_le revenue search
  have worse := @best_lt_next revenue search
  unfold room lowerAfter upperAfter
  unfold bound point numberOfIntervals at *
  generalize best revenue search = index at *
  generalize range : search.upperBound - search.lowerBound = size at *
  by_cases last : index = 15
  · subst last
    simp only [Nat.reduceEqDiff, if_false, if_true, Nat.reduceSub]
    omega
  by_cases first : index = 0
  · subst first
    simp only [Nat.reduceEqDiff, if_false, if_true, Nat.zero_add]
    omega
  have two : size * (index + 1) = size * (index - 1) + 2 * size := by
    obtain ⟨before, rfl⟩ := Nat.exists_eq_succ_of_ne_zero first
    rw [Nat.succ_sub_one, Nat.mul_add, Nat.mul_succ]
    omega
  rw [if_neg last, if_neg first, two]
  omega

/-- A round without revenue does not add room, and halves it unless the lower bound is zero. -/
theorem room_shrink (ordered : search.lowerBound ≤ search.upperBound) :
    room search.lowerBound (bound search 5 - 1) ≤ room search.lowerBound search.upperBound
      ∧ (search.lowerBound ≠ 0 → 2 * room search.lowerBound (bound search 5 - 1)
        ≤ room search.lowerBound search.upperBound) := by
  unfold room bound point numberOfIntervals
  omega

theorem lower_eq_zero_of_lowerAfter (zero : lowerAfter revenue search = 0) :
    best revenue search = 0 ∧ search.lowerBound = 0 := by
  unfold lowerAfter at zero
  by_cases first : best revenue search = 0
  · rw [if_pos first] at zero
    exact ⟨first, zero⟩
  · rw [if_neg first] at zero
    exact absurd zero (Nat.succ_ne_zero _)

theorem searchLoop_finished (fuel : ℕ) {input : ℕ} {rounds : List Evaluated}
    (round : searchRound revenue tolerance search = some (.finished input rounds)) :
    searchLoop revenue tolerance (fuel + 1) search = some (input, rounds) := by
  unfold searchLoop
  rw [round]
  rfl

theorem searchLoop_goOn (fuel : ℕ) {next : Search}
    (round : searchRound revenue tolerance search = some (.goOn next)) :
    searchLoop revenue tolerance (fuel + 1) search = searchLoop revenue tolerance fuel next := by
  conv_lhs => unfold searchLoop
  rw [round]
  rfl

/-- From the eleventh round on the room is halved: with a lower bound of zero there is revenue. -/
theorem searchLoop_late (size : ℕ) : ∀ search : Search, search.upperBound < 2 ^ 252 →
    10 ≤ search.counter → (search.lowerBound = 0 → revenue 0 ≠ 0) →
    room search.lowerBound search.upperBound < 2 ^ size →
    ∃ result, searchLoop revenue tolerance (size + 1) search = some result := by
  induction size with
  | zero =>
    intro search small late _ empty
    obtain ⟨outcome, round, ends⟩ :=
      @searchRound_ends revenue search tolerance small
    cases ends with
    | stop => exact ⟨_, searchLoop_finished _ round⟩
    | exit => exact ⟨_, searchLoop_finished _ round⟩
    | shrink ordered => unfold room at empty; omega
    | narrow ordered => unfold room at empty; omega
  | succ size ih =>
    intro search small late starts fits
    rw [Nat.pow_succ] at fits
    obtain ⟨outcome, round, ends⟩ :=
      @searchRound_ends revenue search tolerance small
    cases ends with
    | stop => exact ⟨_, searchLoop_finished _ round⟩
    | exit => exact ⟨_, searchLoop_finished _ round⟩
    | shrink ordered zero =>
      have inside := bound_le_upper ordered (show 5 ≤ 15 by decide)
      have positive : search.lowerBound ≠ 0 := fun lowest => by
        have first := @le_best revenue search 0 (Nat.zero_le 15)
        rw [zero, show bound search 0 = 0 from point_zero.trans lowest] at first
        exact starts lowest (Nat.le_zero.mp first)
      have half := (room_shrink ordered).2 positive
      rw [searchLoop_goOn _ round]
      refine ih _ ((Nat.sub_le _ _).trans_lt (inside.trans_lt small)) (late.trans (Nat.le_succ _))
        (fun lowest => absurd lowest positive) ?_
      change room search.lowerBound (bound search 5 - 1) < 2 ^ size
      omega
    | narrow ordered =>
      have half := @room_narrow revenue search ordered
      rw [searchLoop_goOn _ round]
      refine ih _ ((upperAfter_le ordered).trans_lt small) (late.trans (Nat.le_succ _))
        (fun lowest => starts (lower_eq_zero_of_lowerAfter lowest).2) ?_
      change room (lowerAfter revenue search) (upperAfter revenue search) < 2 ^ size
      omega

/-- Of the first ten rounds, the tenth ends the search or finds revenue. -/
theorem searchLoop_early (left : ℕ) : ∀ search : Search, search.upperBound < 2 ^ 252 →
    search.counter + left = 9 →
    ∃ result, searchLoop revenue tolerance (left + 255) search = some result := by
  induction left with
  | zero =>
    intro search small ninth
    obtain ⟨outcome, round, ends⟩ :=
      @searchRound_ends revenue search tolerance small
    cases ends with
    | stop => exact ⟨_, searchLoop_finished _ round⟩
    | exit => exact ⟨_, searchLoop_finished _ round⟩
    | shrink _ _ other => omega
    | narrow ordered positive =>
      have half := @room_narrow revenue search ordered
      rw [searchLoop_goOn _ round]
      refine searchLoop_late 253 _ ((upperAfter_le ordered).trans_lt small)
        (show 10 ≤ search.counter + 1 by omega) (fun lowest none => positive ?_) ?_
      · obtain ⟨first, zero⟩ := lower_eq_zero_of_lowerAfter lowest
        rw [first, show bound search 0 = 0 from point_zero.trans zero, none]
      · change room (lowerAfter revenue search) (upperAfter revenue search) < 2 ^ 253
        have size : room search.lowerBound search.upperBound ≤ search.upperBound + 1 := Nat.sub_le _ _
        omega
  | succ left ih =>
    intro search small early
    obtain ⟨outcome, round, ends⟩ :=
      @searchRound_ends revenue search tolerance small
    cases ends with
    | stop => exact ⟨_, searchLoop_finished _ round⟩
    | exit => exact ⟨_, searchLoop_finished _ round⟩
    | shrink ordered =>
      have inside := bound_le_upper ordered (show 5 ≤ 15 by decide)
      rw [show left + 1 + 255 = left + 255 + 1 by omega, searchLoop_goOn _ round]
      exact ih _ ((Nat.sub_le _ _).trans_lt (inside.trans_lt small))
        (show search.counter + 1 + left = 9 by omega)
    | narrow ordered =>
      rw [show left + 1 + 255 = left + 255 + 1 by omega, searchLoop_goOn _ round]
      exact ih _ ((upperAfter_le ordered).trans_lt small)
        (show search.counter + 1 + left = 9 by omega)

/-- More fuel changes nothing. -/
theorem searchLoop_mono {result : ℕ × List Evaluated} {fuel more : ℕ} (le : fuel ≤ more) :
    ∀ {search : Search}, searchLoop revenue tolerance fuel search = some result →
      searchLoop revenue tolerance more search = some result := by
  induction fuel generalizing more with
  | zero => exact fun run => (nomatch run)
  | succ fuel ih =>
    intro search run
    obtain ⟨more, rfl⟩ := Nat.exists_eq_succ_of_ne_zero (Nat.ne_of_gt (Nat.zero_lt_of_lt le))
    unfold searchLoop at run ⊢
    cases round : searchRound revenue tolerance search with
    | none =>
      rw [round] at run
      cases run
    | some outcome =>
      rw [round] at run
      cases outcome with
      | finished input rounds => exact run
      | goOn next => exact ih (Nat.le_of_succ_le_succ le) run

end Termination

/-! ### Results -/

section Results

variable {revenue : ℕ → ℕ} {lowerBound upperBound : ℕ}

theorem searchTolerance_eq (lowSmall : lowerBound < 2 ^ 252) (small : upperBound < 2 ^ 252) :
    searchTolerance lowerBound upperBound = some ((upperBound + lowerBound) / 2 / 1000000) := by
  unfold searchTolerance
  rw [checked_of_lt (by omega)]
  change some (1 * ((upperBound + lowerBound) / 2) / 1000000) = _
  rw [Nat.one_mul]

/-- From bounds below 2^252 the search returns after at most 264 rounds. -/
theorem search_halts (revenue : ℕ → ℕ) (lowSmall : lowerBound < 2 ^ 252)
    (small : upperBound < 2 ^ 252) : ∃ input rounds, ∀ fuel, 264 ≤ fuel →
    juicedQuadraticSearch revenue lowerBound upperBound fuel = some (input, rounds) := by
  obtain ⟨⟨input, rounds⟩, run⟩ := @searchLoop_early revenue
    ((upperBound + lowerBound) / 2 / 1000000) 9
    ⟨lowerBound, upperBound, 0, 0, []⟩ small rfl
  refine ⟨input, rounds, fun fuel enough => ?_⟩
  unfold juicedQuadraticSearch
  rw [searchTolerance_eq lowSmall small]
  exact searchLoop_mono enough run

/-- What every round keeps holds at the end. -/
theorem searchLoop_rule {tolerance : ℕ} {invariant : Search → Prop}
    {post : ℕ → List Evaluated → Prop}
    (finishes : ∀ search input rounds, invariant search →
      RoundEnds revenue tolerance search (.finished input rounds) → post input rounds)
    (keeps : ∀ search next, invariant search →
      RoundEnds revenue tolerance search (.goOn next) → invariant next) (fuel : ℕ) :
    ∀ search input rounds, search.upperBound < 2 ^ 252 → invariant search →
      searchLoop revenue tolerance fuel search = some (input, rounds) → post input rounds := by
  induction fuel with
  | zero => exact fun _ _ _ _ _ run => (nomatch run)
  | succ fuel ih =>
    intro search input rounds small holds run
    obtain ⟨outcome, round, ends⟩ :=
      @searchRound_ends revenue search tolerance small
    cases outcome with
    | finished input' rounds' =>
      rw [searchLoop_finished _ round] at run
      cases run
      exact finishes _ _ _ holds ends
    | goOn next =>
      rw [searchLoop_goOn _ round] at run
      refine ih next input rounds ?_ (keeps _ _ holds ends) run
      cases ends with
      | shrink ordered =>
        have inside := bound_le_upper ordered (show 5 ≤ 15 by decide)
        exact (Nat.sub_le _ _).trans_lt (inside.trans_lt small)
      | narrow ordered => exact (upperAfter_le ordered).trans_lt small

/-- The rule for the whole search. -/
theorem search_rule (invariant : Search → Prop) {post : ℕ → List Evaluated → Prop}
    (lowSmall : lowerBound < 2 ^ 252) (small : upperBound < 2 ^ 252)
    (starts : invariant ⟨lowerBound, upperBound, 0, 0, []⟩)
    (finishes : ∀ search input rounds, invariant search →
      RoundEnds revenue ((upperBound + lowerBound) / 2 / 1000000) search (.finished input rounds) →
      post input rounds)
    (keeps : ∀ search next, invariant search →
      RoundEnds revenue ((upperBound + lowerBound) / 2 / 1000000) search (.goOn next) →
      invariant next) :
    ∃ input rounds, (∀ fuel, 264 ≤ fuel →
        juicedQuadraticSearch revenue lowerBound upperBound fuel = some (input, rounds))
      ∧ post input rounds := by
  obtain ⟨input, rounds, run⟩ := search_halts revenue lowSmall small
  refine ⟨input, rounds, run, ?_⟩
  have result := run 264 le_rfl
  unfold juicedQuadraticSearch at result
  rw [searchTolerance_eq lowSmall small] at result
  exact searchLoop_rule finishes keeps _ _ _ _ small starts result

/-- No amount of the last round is better than this one. -/
def BestOfLast (revenue : ℕ → ℕ) (input : ℕ) (rounds : List Evaluated) : Prop :=
  ∀ last ∈ rounds.getLast?, ∀ amount ∈ last.intervals, revenue amount ≤ revenue input

theorem bestOfLast_evaluate {search : Search} {input : ℕ}
    (best : ∀ index ≤ 15, revenue (bound search index) ≤ revenue input) :
    BestOfLast revenue input (evaluate search) := by
  intro last isLast amount there
  rw [evaluate, List.getLast?_concat, Option.mem_some_iff] at isLast
  subst isLast
  obtain ⟨index, inside, rfl⟩ := List.mem_map.mp there
  exact best index (Nat.lt_succ_iff.mp (List.mem_range.mp inside))

/-- The search returns the best amount of its last round. -/
theorem search_best_of_last (revenue : ℕ → ℕ) (lowSmall : lowerBound < 2 ^ 252)
    (small : upperBound < 2 ^ 252) : ∃ input rounds, (∀ fuel, 264 ≤ fuel →
        juicedQuadraticSearch revenue lowerBound upperBound fuel = some (input, rounds))
      ∧ BestOfLast revenue input rounds := by
  refine search_rule (fun search => BestOfLast revenue search.highestSandoInput search.rounds)
    lowSmall small (fun _ impossible => (nomatch impossible)) ?_ ?_
  · intro search input rounds holds ends
    cases ends with
    | stop => exact holds
    | exit _ zero =>
      -- all revenues of the round are zero
      exact bestOfLast_evaluate fun index inside =>
        (le_best inside).trans (zero.le.trans (Nat.zero_le _))
  · intro search next _ ends
    cases ends with
    | shrink => exact bestOfLast_evaluate fun index inside => le_best inside
    | narrow => exact bestOfLast_evaluate fun index inside => le_best inside

theorem search_best_of_last_ether : ∃ input rounds, (∀ fuel, 264 ≤ fuel →
        juicedQuadraticSearch (fun amount => amount / 2) 0 (10 ^ 18) fuel = some (input, rounds))
      ∧ BestOfLast (fun amount => amount / 2) input rounds :=
  search_best_of_last _ (by decide) (by decide)

/-- Revenue at a single amount. -/
def spike (amount : ℕ) : ℕ := if amount = 4 * 10 ^ 17 then 10 ^ 14 else 0

/-- An earlier round may have seen more: the first one of this search evaluates the spike, the others
miss it, and after ten rounds the search gives up. -/
theorem search_forgets_spike : ∃ input rounds,
    juicedQuadraticSearch spike 0 (10 ^ 18) 264 = some (input, rounds) ∧ input = 0
      ∧ spike input < spike (4 * 10 ^ 17)
      ∧ ∃ round ∈ rounds, 4 * 10 ^ 17 ∈ round.intervals := by
  have run : (juicedQuadraticSearch spike 0 (10 ^ 18) 264).map
      (fun result => (result.1, result.2.any (·.intervals.contains (4 * 10 ^ 17))))
        = some (0, true) := by
    decide +kernel
  obtain ⟨⟨input, rounds⟩, found, same⟩ := Option.map_eq_some_iff.mp run
  obtain ⟨zero, seen⟩ := Prod.mk.inj same
  simp only [List.any_eq_true, List.contains_iff_mem] at seen
  refine ⟨input, rounds, found, zero, ?_, seen⟩
  rw [show input = 0 from zero]
  decide

end Results

end Sando.Simulate
