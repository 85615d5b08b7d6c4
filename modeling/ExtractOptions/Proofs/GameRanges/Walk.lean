/-
Module: ExtractOptions.Proofs.GameRanges.Walk
Purpose: what a walk along a list of ranges answers. The walk stands behind the ranges that end
  before the largest number presented, whatever came before it; since ranges ascend, the range it
  stands on is the only one that can still contain that number. So numbers that never fall are
  answered by membership, and a number that falls is answered yes only if it is a member.
Main exports: GameRanges.largest, GameRanges.Stands, GameRanges.Fresh, GameRanges.walk_decides
-/
import ExtractOptions.Proofs.GameRanges.Reading
import Mathlib.Order.MinMax

namespace ExtractOptions

/-! ### Lists of ranges

Facts on ranges that ascend, with no walk in them. The first of the ranges that end no earlier than
a number decides for that number. -/

namespace GameRanges

/-- The largest of some numbers, zero if there are none. -/
def largest (numbers : List Nat) : Nat :=
  numbers.foldr max 0

/-- A number bounds the largest of some exactly if it bounds each of them. -/
theorem largest_le_iff {numbers : List Nat} {bound : Nat} :
    largest numbers ≤ bound ↔ ∀ n ∈ numbers, n ≤ bound := by
  induction numbers with
  | nil => simp [largest]
  | cons n numbers ih =>
    rw [largest, List.foldr_cons, ← largest, Nat.max_le, ih, List.forall_mem_cons]

/-- One more number is the largest, or leaves it. -/
theorem largest_append (numbers : List Nat) (n : Nat) :
    largest (numbers ++ [n]) = max (largest numbers) n := by
  apply Nat.le_antisymm
  · refine largest_le_iff.mpr fun m among => ?_
    rcases List.mem_append.mp among with among | among
    · exact (largest_le_iff.mp le_rfl m among).trans (le_max_left _ _)
    · rw [List.mem_singleton.mp among]
      exact le_max_right _ _
  · have every := largest_le_iff.mp (le_refl (largest (numbers ++ [n])))
    refine Nat.max_le.mpr ⟨largest_le_iff.mpr fun m among => ?_, ?_⟩
    · exact every m (List.mem_append_left _ among)
    · exact every n (List.mem_append_right _ List.mem_cons_self)

/-- Moving on from behind the ranges that end before one number to behind those that end before
another stops where the larger of the two says, in whatever order they come. -/
theorem length_takeWhile_max (ranges : List GameRange) (m n : Nat) :
    (ranges.takeWhile fun r => r.last < m).length +
        ((ranges.drop (ranges.takeWhile fun r => r.last < m).length).takeWhile fun r =>
          r.last < n).length =
      (ranges.takeWhile fun r => r.last < max m n).length := by
  induction ranges with
  | nil => rfl
  | cons r later ih =>
    by_cases before : r.last < m
    · have passed : r.last < max m n := lt_max_of_lt_left before
      simp only [List.takeWhile_cons, before, passed, decide_true, if_true, List.length_cons,
        List.drop_succ_cons]
      omega
    · rcases le_total n m with falls | rises
      · have stays : ¬ r.last < n := fun ends => before (ends.trans_le falls)
        simp [before, stays, max_eq_left falls]
      · simp [List.takeWhile_cons, before, max_eq_right rises]

/-- The first range that ends no earlier than `m` decides for a number up to `m`: the ranges in front
of it end too early, and those behind it start too late. -/
theorem find?_contains {ranges : List GameRange}
    (apart : ranges.Pairwise fun r later => r.last < later.first) {m n : Nat} (reached : n ≤ m) :
    ((ranges.find? fun r => m ≤ r.last).any fun r => r.contains n) =
      ranges.any fun r => r.contains n && m ≤ r.last := by
  induction ranges with
  | nil => rfl
  | cons r later ih =>
    obtain ⟨behind, apart⟩ := List.pairwise_cons.mp apart
    by_cases ends : m ≤ r.last
    · have none : (later.any fun next => next.contains n && m ≤ next.last) = false := by
        rw [List.any_eq_false]
        intro next among holds
        simp only [GameRange.contains, Bool.and_eq_true, decide_eq_true_eq] at holds
        have after := behind next among
        omega
      simp [ends, none]
    · simp only [List.find?_cons, ends, decide_false, List.any_cons, Bool.and_false, Bool.false_or]
      exact ih apart

/-- No range ends after the last one. -/
theorem last_le_getLast {before : Nat} {ranges : List GameRange}
    (ascending : Ascending before ranges) {final : GameRange}
    (isLast : ranges.getLast? = some final) : ∀ r ∈ ranges, r.last ≤ final.last := by
  obtain ⟨proper, apart⟩ := pairwise_of_ascending ascending
  obtain ⟨front, rfl⟩ := List.getLast?_eq_some_iff.mp isLast
  intro r among
  rcases List.mem_append.mp among with here | there
  · have gap := (List.pairwise_append.mp apart).2.2 r here final List.mem_cons_self
    have own := (proper final (by simp)).2
    omega
  · rw [List.mem_singleton.mp there]

/-! ### Where a walk stands

The invariant of a walk: how far it has come is a function of the largest number presented, however
often and in whatever order numbers were presented. Each call keeps it. -/

/-- The walk goes along the ranges of the first one, and stands behind those that end before the
largest of the numbers. -/
structure Stands (start : GameRanges) (numbers : List Nat) (walk : GameRanges) : Prop where
  ranges : walk.ranges = start.ranges
  walked : walk.walked = (start.ranges.takeWhile fun r => r.last < largest numbers).length

namespace Stands

variable {start walk : GameRanges} {numbers : List Nat}

/-- A walk that is reset stands where one stands that was presented nothing. -/
theorem reset (ranges : walk.ranges = start.ranges) : start.Stands [] walk.reset where
  ranges := ranges
  walked := by
    have none : (start.ranges.takeWhile fun r => r.last < largest []) = [] := by
      cases start.ranges <;> simp [largest]
    rw [none]
    rfl

/-- The walk moves on to stand right for the number presented. -/
theorem present (stands : start.Stands numbers walk) (n : Nat) :
    start.Stands (numbers ++ [n]) (walk.present n).2 where
  ranges := stands.ranges
  walked := by
    rw [largest_append, ← length_takeWhile_max, ← stands.walked]
    change walk.walked + _ = _
    rw [ahead, stands.ranges]

theorem presentAll (stands : start.Stands numbers walk) (later : List Nat) :
    start.Stands (numbers ++ later) (walk.presentAll later).2 := by
  induction later generalizing numbers walk with
  | nil => rwa [List.append_nil]
  | cons n later ih =>
    have moved := ih (stands.present n)
    rwa [List.append_assoc] at moved

/-- The walk stands on the first range that ends no earlier than the largest number. -/
theorem current? (stands : start.Stands numbers walk) :
    walk.current? = start.ranges.find? fun r => largest numbers ≤ r.last := by
  unfold GameRanges.current? ahead
  rw [stands.ranges, stands.walked, head?_drop_takeWhile]
  simp only [← decide_not, Nat.not_lt]

/-- The answer to a number looks at the largest one so far. -/
theorem answer (stands : start.Stands numbers walk)
    (apart : start.ranges.Pairwise fun r later => r.last < later.first) (n : Nat) :
    (walk.present n).1 =
      start.ranges.any fun r => r.contains n && largest (numbers ++ [n]) ≤ r.last := by
  have reached : n ≤ largest (numbers ++ [n]) := by
    rw [largest_append]
    exact le_max_right _ _
  rw [← find?_contains apart reached, ← (stands.present n).current?]
  rfl

end Stands

/-! ### The walks of a list

From the invariant, what the answers of a walk are: membership as long as numbers do not fall, and
never more than membership. -/

/-- What is done to a walk from outside. -/
inductive WalkCall where
  | present (number : Nat)
  | reset
deriving DecidableEq, Repr

/-- The walk after some calls. -/
def afterCalls (walk : GameRanges) : List WalkCall → GameRanges
  | [] => walk
  | .present n :: later => (walk.present n).2.afterCalls later
  | .reset :: later => walk.reset.afterCalls later

/-- The walk has nothing presented to it yet: the list was just read, or the walk was just reset
after any calls. -/
inductive Fresh (start : GameRanges) : GameRanges → Prop
  | read : Fresh start start
  | reset (calls : List WalkCall) : Fresh start (start.afterCalls calls).reset

/-- Walking does not change the ranges. -/
theorem ranges_afterCalls (walk : GameRanges) (calls : List WalkCall) :
    (walk.afterCalls calls).ranges = walk.ranges := by
  induction calls generalizing walk with
  | nil => rfl
  | cons call later ih => cases call <;> exact ih _

/-- A walk that was presented nothing stands at the first range. -/
theorem Fresh.stands {start walk : GameRanges} (fresh : start.Fresh walk)
    (unwalked : start.walked = 0) : start.Stands [] walk := by
  cases fresh with
  | read =>
    have same : start.reset = start := by
      rw [GameRanges.reset, ← unwalked]
    rw [← same]
    exact .reset rfl
  | reset calls => exact .reset (start.ranges_afterCalls calls)

/-- An answer is that of the walk as the numbers before it left it. -/
theorem getElem?_presentAll (walk : GameRanges) (numbers : List Nat) (k : Nat) :
    (walk.presentAll numbers).1[k]? =
      numbers[k]?.map fun n => ((walk.presentAll (numbers.take k)).2.present n).1 := by
  induction numbers generalizing walk k with
  | nil => rfl
  | cons n later ih =>
    cases k with
    | zero => rfl
    | succ k => exact ih (walk.present n).2 k

/-- Every range has been left behind exactly if the walk stands on none. -/
theorem current?_eq_none_iff (walk : GameRanges) :
    walk.current? = none ↔ walk.isExhausted = true := by
  simp [current?, ahead, isExhausted]

/-- Among numbers that never fall, the largest is the last one. -/
theorem largest_take_of_rising {numbers : List Nat} (rising : numbers.Pairwise (· ≤ ·)) {k n : Nat}
    (here : numbers[k]? = some n) : largest (numbers.take (k + 1)) = n := by
  have front : numbers.take (k + 1) = numbers.take k ++ [n] := by
    rw [List.take_add_one, here]
    rfl
  have upTo : (numbers.take k ++ [n]).Pairwise (· ≤ ·) := by
    rw [← front]
    exact rising.sublist (List.take_sublist _ _)
  have before : ∀ m ∈ numbers.take k, m ≤ n := fun m among =>
    (List.pairwise_append.mp upTo).2.2 m among n List.mem_cons_self
  rw [front, largest_append, max_eq_right (largest_le_iff.mpr before)]

/-- All answers of a walk that nothing was presented to. -/
theorem Stands.answers {start walk : GameRanges} (stands : start.Stands [] walk)
    (apart : start.ranges.Pairwise fun r later => r.last < later.first) (numbers : List Nat) :
    (walk.presentAll numbers).1 =
      numbers.mapIdx fun k n => start.ranges.any fun r =>
        r.contains n && largest (numbers.take (k + 1)) ≤ r.last := by
  refine List.ext_getElem? fun k => ?_
  rw [getElem?_presentAll, List.getElem?_mapIdx]
  cases here : numbers[k]? with
  | none => rfl
  | some n =>
    have front : numbers.take k ++ [n] = numbers.take (k + 1) := by
      rw [List.take_add_one, here]
      rfl
    have before := stands.presentAll (numbers.take k)
    simp only [Option.map_some, before.answer apart n, List.nil_append, front]

/-- A walk along ranges that ascend is exhausted once a number behind the last one came. -/
theorem Stands.isExhausted_iff {start walk : GameRanges} {numbers : List Nat}
    (stands : start.Stands numbers walk) (order : InOrder start.ranges) :
    walk.isExhausted = true ↔ ∃ final ∈ start.ranges.getLast?, final.last < largest numbers := by
  rw [← current?_eq_none_iff, stands.current?, List.find?_eq_none]
  simp only [decide_eq_true_eq, Nat.not_le]
  obtain ⟨nonempty, ascending⟩ := inOrder_iff.mp order
  have isLast := List.getLast?_eq_getLast_of_ne_nil nonempty
  constructor
  · intro every
    exact ⟨_, isLast, every _ (List.getLast_mem nonempty)⟩
  · rintro ⟨final, isFinal, behind⟩ r among
    exact (last_le_getLast ascending isFinal r among).trans_lt behind

/-- The walk along a list that was read decides membership. Each answer is yes exactly if the number
lies in a range that ends no earlier than the largest number presented up to then; so numbers that
never fall are answered by membership, and yes is never wrong. The walk then stands on the first
range that ends no earlier than the largest number, on none exactly if it is exhausted, and it is so
exactly if the largest number lies behind the last range. -/
theorem walk_decides {text : String} {start : GameRanges} (read : parse? text = some start)
    {walk : GameRanges} (fresh : start.Fresh walk) (numbers : List Nat) :
    ((walk.presentAll numbers).1 =
      numbers.mapIdx fun k n => start.ranges.any fun r =>
        r.contains n && largest (numbers.take (k + 1)) ≤ r.last) ∧
    (numbers.Pairwise (· ≤ ·) →
      (walk.presentAll numbers).1 =
        numbers.map fun n => start.ranges.any fun r => r.contains n) ∧
    (∀ k : Nat, (walk.presentAll numbers).1[k]? = some true →
      ∃ n ∈ numbers[k]?, ∃ r ∈ start.ranges, r.contains n = true) ∧
    ((walk.presentAll numbers).2.current? =
      start.ranges.find? fun r => largest numbers ≤ r.last) ∧
    ((walk.presentAll numbers).2.current? = none ↔
      (walk.presentAll numbers).2.isExhausted = true) ∧
    ((walk.presentAll numbers).2.isExhausted = true ↔
      ∃ final ∈ start.ranges.getLast?, final.last < largest numbers) := by
  obtain ⟨-, order, unwalked⟩ := parse?_eq_some_iff.mp read
  have fresh := fresh.stands unwalked
  have answers := fresh.answers (pairwise_of_ascending (inOrder_iff.mp order).2).2 numbers
  have stands := fresh.presentAll numbers
  rw [List.nil_append] at stands
  refine ⟨answers, fun rising => ?_, fun k yes => ?_, stands.current?, current?_eq_none_iff _,
    stands.isExhausted_iff order⟩
  · rw [answers]
    refine List.ext_getElem? fun k => ?_
    rw [List.getElem?_mapIdx, List.getElem?_map]
    cases here : numbers[k]? with
    | none => rfl
    | some n =>
      have within : ∀ r : GameRange, (r.contains n && decide (n ≤ r.last)) = r.contains n := by
        intro r
        simp [GameRange.contains]
      simp only [Option.map_some, largest_take_of_rising rising here, within]
  · rw [answers, List.getElem?_mapIdx, Option.map_eq_some_iff] at yes
    obtain ⟨n, here, holds⟩ := yes
    obtain ⟨r, among, holds⟩ := List.any_eq_true.mp holds
    exact ⟨n, here, r, among, (Bool.and_eq_true_iff.mp holds).1⟩

/-- A walk that is reset answers afresh: numbers that rise by membership, and a number that falls
behind the walk with no although it lies in a range. -/
theorem walk_decides_after_reset :
    ∃ start, parse? "2,4:6,9" = some start ∧
      start.Fresh (start.afterCalls [.present 20]).reset ∧
      [1, 5, 5, 7, 9].Pairwise (· ≤ ·) ∧
      ((start.afterCalls [.present 20]).reset.presentAll [1, 5, 5, 7, 9]).1 =
        [false, true, true, false, true] ∧
      ((start.afterCalls [.present 20]).reset.presentAll [5, 9, 4]).1 = [true, true, false] := by
  have read : parse? "2,4:6,9" = some ⟨[⟨2, 2⟩, ⟨4, 6⟩, ⟨9, 9⟩], 0⟩ := by decide
  have rising : [1, 5, 5, 7, 9].Pairwise (· ≤ ·) := by decide
  refine ⟨_, read, .reset _, rising, ?_, ?_⟩
  · exact ((walk_decides read (.reset _) _).2.1 rising).trans (by decide)
  · exact (walk_decides read (.reset _) _).1.trans (by decide)

end GameRanges

end ExtractOptions
