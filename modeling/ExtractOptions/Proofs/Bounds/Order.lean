/-
Module: ExtractOptions.Proofs.Bounds.Order
Purpose: a lower and an upper bound given by name, in either order. Each is compared with whatever
  the pair holds then. After the upper one the lower one always fits; before it, the lower one is
  compared with the upper bound that is in force until one is given, and is left out if it lies
  above that.
Main exports: BoundUnit.lowerName, BoundUnit.upperName, NamesBound, Session.bounded, Calls.inTurn,
  Calls.bounds_in_either_order
-/
import ExtractOptions.Proofs.Bounds.Course
import ExtractOptions.Proofs.CommandLine.Composition
import ExtractOptions.Proofs.Text.Numeral

namespace ExtractOptions

open Text

/-! ### Numbers as values

The values of the options are digits, with a sign or white space at most. Only the number that they
denote matters for what follows. -/

/-- What is written for a number stands for it. -/
theorem Numeral.denotes_number (n : Nat) : Numeral.Denotes (number n).toList n := by
  rw [number, String.toList_ofList]
  exact Numeral.denotes_decimal n

/-- A number of 32 bits in digits is read as that number. -/
theorem Value.unsigned_of_denotes (option : OptionName) {value : String} {n : UInt32}
    (denotes : Numeral.Denotes value.toList n.toNat) :
    Value.unsigned option Numeral.max32 value = .ok n.toNat := by
  have trimmed : Numeral.Denotes (digitsOf value) n.toNat :=
    Numeral.denotesSpaced_iff.mp denotes.spaced
  have read : Numeral.unsigned? Numeral.max32 (digitsOf value) = some n.toNat :=
    Numeral.unsigned?_eq_some_iff.mpr ⟨.inl trimmed, Numeral.toNat_le_max32 n⟩
  simp only [Value.unsigned, read]

/-! ### One bound given by name

An option that gives a bound by name never fails on a number. It puts the bound in force, or it
warns and leaves the bounds as they are. -/

namespace BoundUnit

/-- The option that gives a lower bound. -/
def lowerName : BoundUnit → String
  | moves => "minmoves"
  | ply => "minply"

/-- The option that gives an upper bound. -/
def upperName : BoundUnit → String
  | moves => "maxmoves"
  | ply => "maxply"

end BoundUnit

/-- The name is that of an option that gives such a bound. -/
def NamesBound (name : String) (unit : BoundUnit) (side : BoundSide) : Prop :=
  ∃ option, NamedOption.find? name = some option ∧ option.name = name ∧
    option.action = .bound unit side ∧ ∀ value, option.consumed value = .nameAndValue

/-- The option for a lower bound gives lower bounds. -/
theorem namesBound_lowerName (unit : BoundUnit) : NamesBound unit.lowerName unit .lower := by
  cases unit with
  | moves =>
    exact ⟨⟨"minmoves", some "N", "match games of at least N moves", .bound .moves .lower⟩,
      by decide +kernel, rfl, rfl, fun _ => rfl⟩
  | ply =>
    exact ⟨⟨"minply", some "N", "match games of at least N ply", .bound .ply .lower⟩,
      by decide +kernel, rfl, rfl, fun _ => rfl⟩

/-- The option for an upper bound gives upper bounds. -/
theorem namesBound_upperName (unit : BoundUnit) : NamesBound unit.upperName unit .upper := by
  cases unit with
  | moves =>
    exact ⟨⟨"maxmoves", some "N", "match games of at most N moves", .bound .moves .upper⟩,
      by decide +kernel, rfl, rfl, fun _ => rfl⟩
  | ply =>
    exact ⟨⟨"maxply", some "N", "match games of at most N ply", .bound .ply .upper⟩,
      by decide +kernel, rfl, rfl, fun _ => rfl⟩

/-- The session after one warning. -/
def Session.warned (session : Session) (message : String) : Session :=
  (Action.warn message).after session

/-- A warning leaves the bounds alone. -/
theorem Session.plyBounds_warned (session : Session) (message : String) :
    (session.warned message).config.plyBounds = session.config.plyBounds :=
  session.plyBounds_diagnose message

/-- A warning counts once. -/
theorem Session.warnings_warned (session : Session) (message : String) :
    (session.warned message).counters.warnings = session.counters.warnings + 1 := by
  have same : (session.diagnose message).counters = session.counters := by
    unfold Session.diagnose Session.writeLog
    split
    · rfl
    · split <;> rfl
  change (session.diagnose message).counters.warnings + 1 = _
  rw [same]

/-- The session after a bound was given: the bound is in force, or a warning says that it was
ignored. -/
def Session.bounded (session : Session) (name : String) (call : BoundCall) : Session :=
  match session.config.plyBounds.answer call with
  | .ok plyBounds => { session with config := { session.config with plyBounds } }
  | .error refusal =>
    session.warned ("--" ++ name ++ " " ++ number call.number.toNat ++ ": " ++ refusal.message)

section Given

variable {context : Context} {name value : String} {call : BoundCall} {session : Session}

/-- A bound that fits is in force afterwards, and nothing else has changed. -/
theorem Session.bounded_of_ok {plyBounds : PlyBounds}
    (accepted : session.config.plyBounds.answer call = .ok plyBounds) :
    session.bounded name call = { session with config := { session.config with plyBounds } } := by
  simp only [bounded, accepted]

/-- A bound that does not fit leaves a warning and nothing else. -/
theorem Session.bounded_of_error {refusal : BoundRefusal} (name : String)
    (refused : session.config.plyBounds.answer call = .error refusal) :
    ∃ message, session.bounded name call = session.warned message := by
  simp only [bounded, refused]
  exact ⟨_, rfl⟩

/-- A number is put in force or warned about, and the option goes on in both cases. -/
theorem softBound_of_denotes (denotes : Numeral.Denotes value.toList call.number.toNat) :
    softBound name call.unit call.side value session = .ok () (session.bounded name call) := by
  unfold softBound Session.bounded PlyBounds.answer
  simp only [Value.unsigned_of_denotes _ denotes, Action.bind_apply, Action.get_apply]
  cases session.config.plyBounds.apply call.unit call.side call.number.toNat <;> rfl

/-- An option that gives a bound counts itself and succeeds, whether or not the bound fits. -/
theorem NamedOption.alone_of_bound {option : NamedOption}
    (acts : option.action = .bound call.unit call.side)
    (denotes : Numeral.Denotes value.toList call.number.toNat) :
    option.alone context value session = .ok () (session.named.bounded option.name call) := by
  simp only [alone, effect, acts, Action.bind_apply, Action.count_apply]
  exact softBound_of_denotes denotes

/-- Such an option counts itself and then does what the bound does to the pair. -/
theorem NamesBound.run_named (names : NamesBound name call.unit call.side)
    (denotes : Numeral.Denotes value.toList call.number.toNat) :
    (Call.named name value).run context session = .ok () (session.named.bounded name call) := by
  obtain ⟨option, found, same, acts, -⟩ := names
  rw [Call.run, discard_performNamed found, NamedOption.alone_of_bound acts denotes, same]

/-- On a command line the option uses the number after it. -/
theorem NamesBound.resolve (names : NamesBound name call.unit call.side) (later : List String) :
    resolve context (("--" ++ name) :: number call.number.toNat :: later) session =
      ExtractOptions.resolve context later (session.named.bounded name call) := by
  obtain ⟨option, found, same, acts, takes⟩ := names
  have means : Token.ofText ("--" ++ name) = .named name := by
    simp [Token.ofText]
  rw [resolve_named means found, Action.bind_apply]
  simp only [List.head?_cons, Option.getD_some,
    NamedOption.alone_of_bound acts (Numeral.denotes_number _), takes, same]
  rfl

end Given

/-! ### Two bounds given by name

Each of the two is held against whatever is in force when its turn comes. Until an upper bound is
given the pair holds a large one of its own, and that is what a lower bound may clash with. -/

/-- The ways to give two options with numbers, one after the other: by two calls, on one command
line, and on two of them. -/
def Calls.inTurn (first second : String × UInt32) : List (List Call) :=
  let value (n : UInt32) : String := number n.toNat
  [[.named first.1 (value first.2), .named second.1 (value second.2)],
    [.commandLine ["--" ++ first.1, value first.2, "--" ++ second.1, value second.2]],
    [.commandLine ["--" ++ first.1, value first.2],
      .commandLine ["--" ++ second.1, value second.2]]]

section InTurn

variable {first second : String} {one other : BoundCall}

/-- Each bound is held against the pair that the one before it left. -/
theorem Calls.inTurn_apply (context : Context) (session : Session)
    (names : NamesBound first one.unit one.side)
    (alsoNames : NamesBound second other.unit other.side) {calls : List Call}
    (way : calls ∈ inTurn (first, one.number) (second, other.number)) :
    succeed context calls session = true ∧
      after context calls session =
        (session.named.bounded first one).named.bounded second other := by
  simp only [inTurn, List.mem_cons, List.not_mem_nil, or_false] at way
  rcases way with rfl | rfl | rfl
  · simp [succeed, after, Action.succeeds, Action.after, Numeral.denotes_number, names.run_named,
      alsoNames.run_named]
  · simp [succeed, after, Action.succeeds, Action.after, Call.run, names.resolve, alsoNames.resolve,
      ExtractOptions.resolve]
  · simp [succeed, after, Action.succeeds, Action.after, Call.run, names.resolve, alsoNames.resolve,
      ExtractOptions.resolve]

end InTurn

/-- The session after two options that leave it with these bounds and do nothing else. -/
def Session.withBounds (session : Session) (plyBounds : PlyBounds) : Session :=
  { session.named.named with config := { session.config with plyBounds } }

/-- Any upper bound fits a pair that nobody gave a bound to. -/
theorem PlyBounds.answer_upper_unset (unit : BoundUnit) (most : UInt32) :
    ({} : PlyBounds).answer ⟨unit, .upper, most⟩ = .ok ⟨0, (unit.span most.toNat).2, true⟩ :=
  apply_eq_ok_iff.mpr ⟨rfl, Nat.zero_le _⟩

section Orders

variable {unit : BoundUnit} {least most : UInt32} {session : Session}

/-- After an upper bound a lower bound up to it fits. -/
theorem Session.bounded_upper_lower (unset : session.config.plyBounds = {})
    (ordered : least ≤ most) (first second : String) :
    (session.named.bounded first ⟨unit, .upper, most⟩).named.bounded second ⟨unit, .lower, least⟩ =
      session.withBounds ⟨(unit.span least.toNat).1, (unit.span most.toNat).2, true⟩ := by
  have still : session.named.config.plyBounds = {} := unset
  have upper := PlyBounds.answer_upper_unset unit most
  rw [← still] at upper
  rw [bounded_of_ok upper]
  exact bounded_of_ok (PlyBounds.apply_eq_ok_iff.mpr
    ⟨rfl, unit.span_first_le_span_last (UInt32.le_iff_toNat_le.mp ordered)⟩)

/-- A lower bound up to the upper one that nobody gave fits, and an upper bound from it on fits
then. -/
theorem Session.bounded_lower_upper (unset : session.config.plyBounds = {})
    (ordered : least ≤ most) (within : (unit.span least.toNat).1 ≤ ({} : PlyBounds).upper)
    (first second : String) :
    (session.named.bounded first ⟨unit, .lower, least⟩).named.bounded second ⟨unit, .upper, most⟩ =
      session.withBounds ⟨(unit.span least.toNat).1, (unit.span most.toNat).2, true⟩ := by
  have lower : session.named.config.plyBounds.answer ⟨unit, .lower, least⟩ =
      .ok ⟨(unit.span least.toNat).1, ({} : PlyBounds).upper, true⟩ :=
    PlyBounds.apply_eq_ok_iff.mpr ⟨by simp [PlyBounds.taking, named, unset], within⟩
  rw [bounded_of_ok lower]
  exact bounded_of_ok (PlyBounds.apply_eq_ok_iff.mpr
    ⟨rfl, unit.span_first_le_span_last (UInt32.le_iff_toNat_le.mp ordered)⟩)

/-- A lower bound above the upper one that nobody gave is ignored with a warning. -/
theorem Session.bounded_lower_ignored (unset : session.config.plyBounds = {})
    (above : ({} : PlyBounds).upper < (unit.span least.toNat).1) (most : UInt32)
    (first second : String) :
    ∃ message,
      (session.named.bounded first ⟨unit, .lower, least⟩).named.bounded second
          ⟨unit, .upper, most⟩ =
        { (session.named.warned message).named with
          config :=
            { (session.named.warned message).config with
              plyBounds := ⟨0, (unit.span most.toNat).2, true⟩ } } := by
  have lower : ∃ refusal, session.named.config.plyBounds.answer ⟨unit, .lower, least⟩ =
      .error refusal := by
    refine PlyBounds.apply_eq_error_iff.mpr ?_
    simpa [PlyBounds.taking, named, unset] using above
  obtain ⟨refusal, refused⟩ := lower
  obtain ⟨message, warns⟩ := bounded_of_error first refused
  -- The upper bound meets a pair to which still nobody gave a bound.
  have still : (session.named.warned message).named.config.plyBounds = {} :=
    (session.named.plyBounds_warned message).trans unset
  have upper := PlyBounds.answer_upper_unset unit most
  rw [← still] at upper
  rw [warns]
  exact ⟨message, bounded_of_ok upper⟩

end Orders

namespace Calls

/-- A lower bound and an upper bound that is not below it are both in force if the upper one is
given first, and no warning is written. Given the other way round they are so exactly up to the upper
bound that is in force until one is given: a lower bound above that is ignored with a warning. -/
theorem bounds_in_either_order (context : Context) (unit : BoundUnit) {session : Session}
    (unset : session.config.plyBounds = {}) {least most : UInt32} (ordered : least ≤ most) :
    (∀ calls ∈ inTurn (unit.upperName, most) (unit.lowerName, least),
      succeed context calls session = true ∧
        after context calls session =
          session.withBounds ⟨(unit.span least.toNat).1, (unit.span most.toNat).2, true⟩) ∧
    (∀ calls ∈ inTurn (unit.lowerName, least) (unit.upperName, most),
      succeed context calls session = true ∧
        if (unit.span least.toNat).1 ≤ ({} : PlyBounds).upper then
          after context calls session =
            session.withBounds ⟨(unit.span least.toNat).1, (unit.span most.toNat).2, true⟩
        else
          (after context calls session).config.plyBounds = ⟨0, (unit.span most.toNat).2, true⟩ ∧
            (after context calls session).counters.warnings = session.counters.warnings + 1) := by
  have lowerNamed : NamesBound unit.lowerName
      (⟨unit, .lower, least⟩ : BoundCall).unit (⟨unit, .lower, least⟩ : BoundCall).side :=
    namesBound_lowerName unit
  have upperNamed : NamesBound unit.upperName
      (⟨unit, .upper, most⟩ : BoundCall).unit (⟨unit, .upper, most⟩ : BoundCall).side :=
    namesBound_upperName unit
  refine ⟨fun calls way => ?_, fun calls way => ?_⟩
  · obtain ⟨success, left⟩ := inTurn_apply context session upperNamed lowerNamed way
    exact ⟨success, left.trans (Session.bounded_upper_lower unset ordered _ _)⟩
  · obtain ⟨success, left⟩ := inTurn_apply context session lowerNamed upperNamed way
    refine ⟨success, ?_⟩
    split
    · rename_i within
      exact left.trans (Session.bounded_lower_upper unset ordered within _ _)
    · rename_i above
      obtain ⟨message, ignored⟩ := Session.bounded_lower_ignored unset
        (Nat.not_le.mp above) most unit.lowerName unit.upperName
      rw [left, ignored]
      exact ⟨rfl, session.named.warnings_warned message⟩

/-- From three to forty moves are five to eighty ply in either order; from 5001 moves on, the lower
bound has to come second. -/
theorem bounds_in_either_order_moves :
    ({ disk := ⟨[], []⟩ } : Session).config.plyBounds = {} ∧ (3 : UInt32) ≤ 40 ∧
      (5001 : UInt32) ≤ 6000 ∧
      (after {} [.named "maxmoves" "40", .named "minmoves" "3"]
        { disk := ⟨[], []⟩ }).config.plyBounds = ⟨5, 80, true⟩ ∧
      (after {} [.commandLine ["--minmoves", "3", "--maxmoves", "40"]]
        { disk := ⟨[], []⟩ }).config.plyBounds = ⟨5, 80, true⟩ ∧
      (after {} [.commandLine ["--minmoves", "5001", "--maxmoves", "6000"]]
        { disk := ⟨[], []⟩ }).config.plyBounds = ⟨0, 12000, true⟩ := by
  have few := @bounds_in_either_order {} .moves { disk := ⟨[], []⟩ } rfl 3 40 (by decide)
  have many := @bounds_in_either_order {} .moves { disk := ⟨[], []⟩ } rfl 5001 6000 (by decide)
  refine ⟨rfl, by decide, by decide, ?_, ?_, ?_⟩
  · rw [(few.1 _ (by decide +kernel)).2]
    rfl
  · have within := (few.2 [.commandLine ["--minmoves", "3", "--maxmoves", "40"]]
      (by decide +kernel)).2
    rw [if_pos (by decide)] at within
    rw [within]
    rfl
  · have above := (many.2 [.commandLine ["--minmoves", "5001", "--maxmoves", "6000"]]
      (by decide +kernel)).2
    rw [if_neg (by decide)] at above
    exact above.1

/-- A lower bound of 10001 ply is in force after an upper one of 20000 but not before it. -/
theorem bounds_in_one_order_only :
    ¬ ∀ (context : Context) (disk : Disk) (unit : BoundUnit) (least most : UInt32),
      (unit = .moves → 1 ≤ least) → least ≤ most →
        ∀ calls ∈ inTurn (unit.lowerName, least) (unit.upperName, most) ++
            inTurn (unit.upperName, most) (unit.lowerName, least),
          (after context calls { disk }).config.plyBounds =
              ⟨(unit.span least.toNat).1, (unit.span most.toNat).2, true⟩ ∧
            (after context calls { disk }).counters.warnings = 0 := by
  intro law
  have both := (law {} ⟨[], []⟩ .ply 10001 20000 nofun (by decide)
    [.commandLine ["--minply", "10001", "--maxply", "20000"]] (by decide +kernel)).1
  exact absurd both (by decide +kernel)

end Calls

end ExtractOptions
