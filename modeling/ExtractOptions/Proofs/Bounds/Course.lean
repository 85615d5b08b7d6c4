/-
Module: ExtractOptions.Proofs.Bounds.Course
Purpose: bounds given one after another. A bound is accepted exactly if the pair with the bound in
  it is in order, and a pair in order stays so; a bound in moves says of a game's ply what it says
  of its moves. Nothing of this needs numbers wider than a word.
Main exports: PlyBounds.taking, PlyBounds.apply_eq_ok_iff, PlyBounds.MeansMoves,
  BoundUnit.wordSpan, BoundCall, PlyBounds.given, PlyBounds.Sound, PlyBounds.bounds_mean_moves
-/
import ExtractOptions.Bounds.Ply
import Mathlib.Data.UInt

namespace ExtractOptions

/-! ### One bound

A bound names one end of the pair, or both. It is compared with the other end only after it was put
in, which is why a refusal can be told from the pair alone that would have come of it. -/

/-- The bounds with one of them given, whether or not they fit each other then. -/
def PlyBounds.taking (bounds : PlyBounds) (unit : BoundUnit) (side : BoundSide) (number : Nat) :
    PlyBounds :=
  match side with
  | .lower => { bounds with lower := (unit.span number).1, active := true }
  | .upper => { bounds with upper := (unit.span number).2, active := true }
  | .exact => ⟨(unit.span number).1, (unit.span number).2, true⟩

/-- Numbers in order span plies in order. -/
theorem BoundUnit.span_first_le_span_last (unit : BoundUnit) {least most : Nat}
    (ordered : least ≤ most) : (unit.span least).1 ≤ (unit.span most).2 := by
  cases unit <;> simp only [span] <;> omega

/-- The length in moves of a game of the given length in ply. -/
def movesOfPly (ply : Nat) : Nat :=
  (ply + 1) / 2

section Moves

variable (ply number : Nat)

/-- A game reaches the first ply of a move exactly if it has that many moves. -/
theorem span_first_le_iff : (BoundUnit.moves.span number).1 ≤ ply ↔ number ≤ movesOfPly ply := by
  simp only [BoundUnit.span, movesOfPly]
  omega

/-- A game ends by the last ply of a move exactly if it has no more moves. -/
theorem le_span_last_iff : ply ≤ (BoundUnit.moves.span number).2 ↔ movesOfPly ply ≤ number := by
  simp only [BoundUnit.span, movesOfPly]
  omega

end Moves

namespace PlyBounds

variable {bounds changed : PlyBounds} {unit : BoundUnit} {side : BoundSide} {number : Nat}

/-- A bound is accepted exactly if the pair that has it is in order. -/
theorem apply_eq_ok_iff :
    bounds.apply unit side number = .ok changed ↔
      changed = bounds.taking unit side number ∧ changed.lower ≤ changed.upper := by
  cases side with
  | exact =>
    simp only [apply, taking, Except.ok.injEq, eq_comm (a := changed), iff_self_and]
    rintro rfl
    exact unit.span_first_le_span_last le_rfl
  | lower | upper =>
    simp only [apply, taking]
    split
    · rename_i refused
      refine iff_of_false nofun ?_
      rintro ⟨rfl, fits⟩
      exact absurd fits (Nat.not_le.mpr refused)
    · rename_i fits
      simp only [Except.ok.injEq, eq_comm (a := changed), iff_self_and]
      rintro rfl
      exact Nat.not_lt.mp fits

/-- A bound is refused exactly if the pair that had it would be out of order. -/
theorem apply_eq_error_iff :
    (∃ refusal, bounds.apply unit side number = .error refusal) ↔
      (bounds.taking unit side number).upper < (bounds.taking unit side number).lower := by
  cases applied : bounds.apply unit side number with
  | ok changed =>
    obtain ⟨rfl, fits⟩ := apply_eq_ok_iff.mp applied
    exact iff_of_false nofun (Nat.not_lt.mpr fits)
  | error refusal =>
    refine iff_of_true ⟨refusal, rfl⟩ (Nat.not_le.mp fun fits => ?_)
    rw [apply_eq_ok_iff.mpr ⟨rfl, fits⟩] at applied
    cases applied

/-- An exact bound sets both ends at once and is never refused. -/
theorem side_ne_exact_of_error {refusal : BoundRefusal}
    (refused : bounds.apply unit side number = .error refusal) : side ≠ .exact := by
  rintro rfl
  cases refused

/-- The pair says of a length in ply what the number says of that length in moves. -/
def MeansMoves (bounds : PlyBounds) (side : BoundSide) (number ply : Nat) : Prop :=
  match side with
  | .lower => bounds.lower ≤ ply ↔ number ≤ movesOfPly ply
  | .upper => ply ≤ bounds.upper ↔ movesOfPly ply ≤ number
  | .exact => bounds.lower ≤ ply ∧ ply ≤ bounds.upper ↔ movesOfPly ply = number

/-- An accepted bound in moves says of the ply of a game what it says of its moves. -/
theorem meansMoves_of_ok (accepted : bounds.apply .moves side number = .ok changed) (ply : Nat) :
    changed.MeansMoves side number ply := by
  obtain ⟨rfl, -⟩ := apply_eq_ok_iff.mp accepted
  cases side with
  | lower => exact span_first_le_iff ply number
  | upper => exact le_span_last_iff ply number
  | exact =>
    simp only [MeansMoves, taking, span_first_le_iff, le_span_last_iff]
    omega

end PlyBounds

/-! ### Words

The program computes the ends of a bound in words of 64 bits. Numbers of 32 bits leave so much room
that the words hold the numbers themselves, so the model may use natural numbers. -/

/-- The ends of a bound computed in words of 64 bits, with an end below zero taken as zero. -/
def BoundUnit.wordSpan : BoundUnit → UInt32 → UInt64 × UInt64
  | .moves, n => (if 2 * n.toUInt64 = 0 then 0 else 2 * n.toUInt64 - 1, 2 * n.toUInt64)
  | .ply, n => (n.toUInt64, n.toUInt64)

/-- The ends of a bound of 32 bits need 33 bits at most. -/
theorem BoundUnit.span_lt (unit : BoundUnit) (n : UInt32) :
    (unit.span n.toNat).2 < 2 ^ 33 := by
  have small := n.toNat_lt
  cases unit <;> simp only [span] <;> omega

/-- Words are wide enough: nothing wraps around. -/
theorem BoundUnit.toNat_wordSpan (unit : BoundUnit) (n : UInt32) :
    ((unit.wordSpan n).1.toNat, (unit.wordSpan n).2.toNat) = unit.span n.toNat := by
  have small := n.toNat_lt
  cases unit with
  | ply => rfl
  | moves =>
    have double : (2 * n.toUInt64).toNat = 2 * n.toNat := by
      rw [UInt64.toNat_mul, UInt32.toNat_toUInt64]
      exact Nat.mod_eq_of_lt (by simp; omega)
    by_cases zero : 2 * n.toUInt64 = 0
    · have none : 2 * n.toNat = 0 := by
        rw [← double, zero]
        rfl
      simp [wordSpan, span, zero, none]
    · have positive : 1 ≤ 2 * n.toUInt64 := by
        rw [UInt64.le_iff_toNat_le, UInt64.toNat_one, Nat.one_le_iff_ne_zero]
        exact fun none => zero (UInt64.toNat_inj.mp none)
      have less : (2 * n.toUInt64 - 1).toNat = 2 * n.toNat - 1 := by
        rw [UInt64.toNat_sub_of_le _ _ positive, double, UInt64.toNat_one]
      simp only [wordSpan, span, if_neg zero, double, less]

/-! ### A course of bounds

Bounds come one after another, and each meets the pair that the ones before it left. A step lemma
says what one bound keeps; the rest is induction over the bounds that were given. -/

/-- One bound as it is given. -/
structure BoundCall where
  unit : BoundUnit
  side : BoundSide
  number : UInt32
deriving DecidableEq, Repr

namespace PlyBounds

/-- What comes of giving a bound. -/
def answer (bounds : PlyBounds) (call : BoundCall) : Except BoundRefusal PlyBounds :=
  bounds.apply call.unit call.side call.number.toNat

/-- The bounds after one was given. One that is refused changes nothing. -/
def given (bounds : PlyBounds) (call : BoundCall) : PlyBounds :=
  match bounds.answer call with
  | .ok changed => changed
  | .error _ => bounds

/-- The bounds after some were given to a fresh pair. -/
def givenAll (calls : List BoundCall) : PlyBounds :=
  calls.foldl given {}

/-- The pair is in order, and its ends are numbers of a word. -/
structure Sound (bounds : PlyBounds) : Prop where
  ordered : bounds.lower ≤ bounds.upper
  small : bounds.upper < 2 ^ 64

@[simp] theorem givenAll_append_singleton (calls : List BoundCall) (last : BoundCall) :
    givenAll (calls ++ [last]) = (givenAll calls).given last := by
  simp [givenAll]

/-- One more bound keeps the pair in order and its ends within a word. -/
theorem Sound.given {bounds : PlyBounds} (sound : bounds.Sound) (call : BoundCall) :
    (bounds.given call).Sound := by
  unfold PlyBounds.given
  cases answered : bounds.answer call with
  | error refusal => exact sound
  | ok changed =>
    obtain ⟨rfl, fits⟩ := apply_eq_ok_iff.mp answered
    have narrow := call.unit.span_lt call.number
    have own := sound.small
    refine ⟨fits, ?_⟩
    cases call.side <;> simp only [taking] <;> omega

/-- Whatever bounds were given, the pair is in order and its ends fit a word. -/
theorem sound_givenAll (calls : List BoundCall) : (givenAll calls).Sound := by
  induction calls using List.reverseRecOn with
  | nil => exact ⟨by decide, by decide⟩
  | append_singleton calls last ih =>
    rw [givenAll_append_singleton]
    exact ih.given last

/-- A bound that is accepted makes the pair active, and one that is refused leaves it. -/
theorem active_given {bounds : PlyBounds} {call : BoundCall} :
    (bounds.given call).active = true ↔
      bounds.active = true ∨ ∃ changed, bounds.answer call = .ok changed := by
  unfold given
  cases answered : bounds.answer call with
  | error refusal => simp
  | ok changed =>
    obtain ⟨rfl, -⟩ := apply_eq_ok_iff.mp answered
    cases call.side <;> simp [taking]

/-- The pair is active exactly if some bound was accepted. -/
theorem active_givenAll {calls : List BoundCall} :
    (givenAll calls).active = true ↔
      ∃ before call later changed, calls = before ++ call :: later ∧
        (givenAll before).answer call = .ok changed := by
  induction calls using List.reverseRecOn with
  | nil => simp [givenAll]
  | append_singleton calls last ih =>
    rw [givenAll_append_singleton, active_given, ih]
    constructor
    · rintro (⟨before, call, later, changed, rfl, accepted⟩ | ⟨changed, accepted⟩)
      · exact ⟨before, call, later ++ [last], changed, by simp, accepted⟩
      · exact ⟨calls, last, [], changed, rfl, accepted⟩
    · rintro ⟨before, call, later, changed, place, accepted⟩
      -- The accepted bound is the last one or lies in front of it.
      rcases List.eq_nil_or_concat later with rfl | ⟨front, final, rfl⟩
      · obtain ⟨rfl, ⟨⟩⟩ := List.append_inj' place rfl
        exact .inr ⟨changed, accepted⟩
      · refine .inl ⟨before, call, front, changed, ?_, accepted⟩
        rw [List.concat_eq_append, ← List.cons_append, ← List.append_assoc] at place
        exact (List.append_inj' place rfl).1

/-- Whatever bounds were given, the pair is in order, and nothing that is computed for the next one
wraps around. The next one is refused exactly if the pair that had it would be out of order; it is
no exact one then, and the pair stays as it was. The pair is active exactly if some bound was
accepted. And a bound in moves that is accepted says of a game's length in ply what it says of its
length in moves. -/
theorem bounds_mean_moves (calls : List BoundCall) (call : BoundCall) :
    (givenAll calls).lower ≤ (givenAll calls).upper ∧ (givenAll calls).upper < 2 ^ 64 ∧
    ((call.unit.wordSpan call.number).1.toNat, (call.unit.wordSpan call.number).2.toNat) =
      call.unit.span call.number.toNat ∧
    ((∃ refusal, (givenAll calls).answer call = .error refusal) ↔
      ((givenAll calls).taking call.unit call.side call.number.toNat).upper <
        ((givenAll calls).taking call.unit call.side call.number.toNat).lower) ∧
    (∀ refusal, (givenAll calls).answer call = .error refusal →
      call.side ≠ .exact ∧ givenAll (calls ++ [call]) = givenAll calls) ∧
    ((givenAll calls).active = true ↔
      ∃ before accepted later changed, calls = before ++ accepted :: later ∧
        (givenAll before).answer accepted = .ok changed) ∧
    (∀ changed, (givenAll calls).answer call = .ok changed →
      givenAll (calls ++ [call]) = changed ∧
        changed = (givenAll calls).taking call.unit call.side call.number.toNat ∧
        (call.unit = .moves → ∀ ply, changed.MeansMoves call.side call.number.toNat ply)) := by
  have sound := sound_givenAll calls
  refine ⟨sound.ordered, sound.small, call.unit.toNat_wordSpan call.number, apply_eq_error_iff,
    ?_, active_givenAll, ?_⟩
  · intro refusal refused
    refine ⟨side_ne_exact_of_error refused, ?_⟩
    rw [givenAll_append_singleton, given, refused]
  · intro changed accepted
    refine ⟨?_, (apply_eq_ok_iff.mp accepted).1, fun moves => ?_⟩
    · rw [givenAll_append_singleton, given, accepted]
    · rw [answer, moves] at accepted
      exact meansMoves_of_ok accepted

/-- After seven ply were asked for, the greatest number is refused as a lower bound in moves, and as
an exact one it picks out the games of that many moves. -/
theorem bounds_mean_moves_greatest :
    (givenAll [⟨.ply, .exact, 7⟩]).answer ⟨.moves, .lower, 4294967295⟩ =
        .error (.lowerAboveUpper 8589934589 7) ∧
      givenAll [⟨.ply, .exact, 7⟩, ⟨.moves, .lower, 4294967295⟩] = ⟨7, 7, true⟩ ∧
      (givenAll [⟨.ply, .exact, 7⟩]).answer ⟨.moves, .exact, 4294967295⟩ =
        .ok ⟨8589934589, 8589934590, true⟩ ∧
      ∀ ply, 8589934589 ≤ ply ∧ ply ≤ 8589934590 ↔ movesOfPly ply = 4294967295 := by
  have refused : (givenAll [⟨.ply, .exact, 7⟩]).answer ⟨.moves, .lower, 4294967295⟩ =
      .error (.lowerAboveUpper 8589934589 7) := by decide
  have accepted : (givenAll [⟨.ply, .exact, 7⟩]).answer ⟨.moves, .exact, 4294967295⟩ =
      .ok ⟨8589934589, 8589934590, true⟩ := by decide
  obtain ⟨-, -, -, -, keeps, -, -⟩ :=
    bounds_mean_moves [⟨.ply, .exact, 7⟩] ⟨.moves, .lower, 4294967295⟩
  obtain ⟨-, -, -, -, -, -, means⟩ :=
    bounds_mean_moves [⟨.ply, .exact, 7⟩] ⟨.moves, .exact, 4294967295⟩
  exact ⟨refused, (keeps _ refused).2, accepted, (means _ accepted).2.2 rfl⟩

end PlyBounds

end ExtractOptions
