/-
Module: ExtractOptions.Proofs.Bounds.Agreement
Purpose: a bound given by name and the same bound given by letter. Both read the same numbers and hold
  them against the same pair. They differ in how a refusal is told: the name warns and goes on, the
  letter fails.
Main exports: BoundSpec.parse_of_denotes, BoundUnit.boundName?, BoundUnit.letterOption,
  Session.bounded_by_letter, bounds_soft_and_hard
-/
import ExtractOptions.Proofs.Bounds.Order
import ExtractOptions.Proofs.Bounds.Spec

namespace ExtractOptions

open Text

/-! ### Bounds as they are written

By letter a bound is written with its side in front of the number; by name the number stands alone.
Both texts denote the same number. -/

/-- The letter of a side and the digits of a number of 32 bits are read as the bound. -/
theorem BoundSpec.parse_of_denotes (side : BoundSide) {digits : String} {n : UInt32}
    (denotes : Numeral.Denotes digits.toList n.toNat) :
    BoundSpec.parse (String.ofList (side.letter :: digits.toList)) = .ok ⟨side, n.toNat⟩ := by
  refine BoundSpec.parse_eq_ok_iff.mpr ⟨?_, Numeral.toNat_le_max32 n⟩
  rw [String.toList_ofList]
  exact ⟨[side.letter], digits.toList, .letter side, denotes, rfl⟩

namespace BoundUnit

/-- The name of the option that gives a bound on the side, if there is one. -/
def boundName? (unit : BoundUnit) : BoundSide → Option String
  | .lower => some unit.lowerName
  | .upper => some unit.upperName
  | .exact => none

/-- The letter of the option that gives bounds on any side. -/
def letterOption : BoundUnit → LetterOption
  | moves => .moveBounds
  | ply => .plyBounds

end BoundUnit

/-- The text that gives the bound to an option with a letter: its side, then the digits. -/
def BoundCall.written (call : BoundCall) (digits : String) : String :=
  String.ofList (call.side.letter :: digits.toList)

/-- The option that a side has by name is one that gives bounds on that side. -/
theorem namesBound_of_boundName? {unit : BoundUnit} {side : BoundSide} {name : String}
    (named : unit.boundName? side = some name) : NamesBound name unit side := by
  cases side with
  | lower =>
    cases named
    exact namesBound_lowerName unit
  | upper =>
    cases named
    exact namesBound_upperName unit
  | exact => cases named

section Given

variable {context : Context} {name digits : String} {call : BoundCall} {session : Session}

/-! ### One bound given by letter

The letter does to the pair of bounds what `PlyBounds.answer` says, and its failure carries the
refusal. Nothing else of the session is touched but the counter of options. -/

/-- An option with a letter puts the bound in force or fails with the clash. -/
theorem Adjustment.apply_bound (option : OptionName) (config : Config)
    (denotes : Numeral.Denotes digits.toList call.number.toNat) :
    (Adjustment.bound call.unit).apply option (call.written digits) config =
      match config.plyBounds.answer call with
      | .ok plyBounds => .ok { config with plyBounds }
      | .error refusal => .error (.conflict (.bound refusal)) := by
  simp only [apply, BoundCall.written, Value.bound, BoundSpec.parse_of_denotes call.side denotes,
    PlyBounds.answer, bind, Except.bind]
  cases config.plyBounds.apply call.unit call.side call.number.toNat <;> rfl

/-- A bound that is given by letter is in force, or the option fails and says why. -/
theorem BoundUnit.run_letterOption
    (denotes : Numeral.Denotes digits.toList call.number.toNat) :
    (Call.letter call.unit.letterOption (call.written digits)).run context session =
      match session.config.plyBounds.answer call with
      | .ok plyBounds =>
        .ok () { session.lettered with config := { session.config with plyBounds } }
      | .error refusal => .error (.conflict (.bound refusal)) session.lettered := by
  have makes : call.unit.letterOption.adjustment? = some (.bound call.unit) := by
    cases call.unit <;> rfl
  have other : call.unit.letterOption ≠ .argumentFile := by
    cases call.unit <;> simp [letterOption]
  rw [Call.run, LetterOption.perform_eq_alone fun same => absurd same other,
    LetterOption.alone_of_adjustment? makes, Adjustment.apply_bound _ _ denotes]
  cases session.config.plyBounds.answer call <;> rfl

/-! ### The two beside each other

The same pair of bounds is asked in both cases, so the two options differ only in what they make of
a refusal: one line of diagnostics, or a clash. -/

/-- The digits of a number stand on one line. -/
theorem Numeral.newline_notMem_number (n : Nat) : '\n' ∉ (number n).toList := fun among =>
  absurd ((Numeral.denotes_number n).digits '\n' among) (by decide)

/-- A bound that was ignored is reported on one line. -/
theorem Session.bounded_refused {refusal : BoundRefusal}
    (named : call.unit.boundName? call.side = some name)
    (refused : session.config.plyBounds.answer call = .error refusal) :
    ∃ line : String, '\n' ∉ line.toList ∧ session.bounded name call = session.warned line := by
  have plain : '\n' ∉ name.toList := by
    cases side : call.side <;> cases unit : call.unit <;> rw [side, unit] at named <;>
      cases named <;> decide
  have message : '\n' ∉ refusal.message.toList := by
    cases refusal <;> simp only [BoundRefusal.message] <;> decide
  refine ⟨"--" ++ name ++ " " ++ number call.number.toNat ++ ": " ++ refusal.message, ?_, ?_⟩
  · simp [String.toList_append, plain, message, Numeral.newline_notMem_number]
  · simp only [bounded, refused]

/-- A warning does not change the configuration, so it rewinds alike. -/
theorem Session.rewound_warned (session : Session) (message : String) :
    (session.warned message).config.rewound = session.config.rewound :=
  session.rewound_diagnose message

/-- The bounds in force are the same after a bound was given by name and after it was given by
letter. The name always succeeds. Where the letter succeeds, the name warns of nothing and leaves the
same configuration. Where the letter fails, the bound clashes with those in force: the name writes
one warning, on one line, and neither changes the configuration. -/
theorem bounds_soft_and_hard (context : Context) (session : Session)
    (named : call.unit.boundName? call.side = some name)
    (denotes : Numeral.Denotes digits.toList call.number.toNat) :
    let byName := (Call.named name digits).run context
    let byLetter := (Call.letter call.unit.letterOption (call.written digits)).run context
    ∃ soft hard, byName session = .ok () soft ∧
      soft.config.plyBounds = hard.config.plyBounds ∧
      (byLetter session = .ok () hard ∧ soft.config = hard.config ∧
          soft.counters.warnings = session.counters.warnings ∧
          soft.disk = session.disk ∧ soft.standardError = session.standardError ∨
        (∃ refusal, byLetter session = .error (.conflict (.bound refusal)) hard) ∧
          hard.config = session.config ∧ soft.config.rewound = session.config.rewound ∧
          soft.counters.warnings = session.counters.warnings + 1 ∧
          ∃ line : String, '\n' ∉ line.toList ∧ soft = session.named.warned line) := by
  intro byName byLetter
  have soft : byName session = .ok () (session.named.bounded name call) :=
    (namesBound_of_boundName? named).run_named denotes
  have hard := @BoundUnit.run_letterOption context _ _ session denotes
  cases answer : session.config.plyBounds.answer call with
  | ok plyBounds =>
    simp only [answer] at hard
    have accepted : session.named.config.plyBounds.answer call = .ok plyBounds := answer
    rw [Session.bounded_of_ok accepted] at soft
    exact ⟨_, { session.lettered with config := { session.config with plyBounds } }, soft, rfl,
      .inl ⟨hard, rfl, rfl, rfl, rfl⟩⟩
  | error refusal =>
    simp only [answer] at hard
    have refused : session.named.config.plyBounds.answer call = .error refusal := answer
    obtain ⟨line, plain, warned⟩ := Session.bounded_refused named refused
    rw [warned] at soft
    exact ⟨_, session.lettered, soft, session.named.plyBounds_warned line,
      .inr ⟨⟨refusal, hard⟩, rfl, session.named.rewound_warned line,
        session.named.warnings_warned line, line, plain, rfl⟩⟩

end Given

/-- A lower bound of 10001 ply is above the upper bound in force until one is given. -/
theorem bounds_soft_and_hard_above :
    let call : BoundCall := ⟨.ply, .lower, 10001⟩
    let start : Session := { disk := ⟨[], []⟩ }
    call.unit.boundName? call.side = some "minply" ∧
      Numeral.Denotes "10001".toList call.number.toNat ∧
      (∃ refusal left, (Call.letter .plyBounds (call.written "10001")).run {} start =
        .error (.conflict (.bound refusal)) left) ∧
      ∃ soft, (Call.named "minply" "10001").run {} start = .ok () soft ∧
        soft.counters.warnings = 1 := by
  intro call start
  have denotes : Numeral.Denotes "10001".toList call.number.toNat :=
    ((@Numeral.digits?_eq_some_iff Numeral.max32 _ _).mp (by decide +kernel)).1
  obtain ⟨soft, hard, does, -, ⟨passes, -⟩ | ⟨⟨refusal, fails⟩, -, -, warned, -⟩⟩ :=
    @bounds_soft_and_hard "minply" "10001" call {} start rfl denotes
  · have refused : start.config.plyBounds.answer call = .error (.lowerAboveUpper 10001 10000) := by
      decide +kernel
    rw [BoundUnit.run_letterOption denotes, refused] at passes
    cases passes
  · exact ⟨rfl, denotes, ⟨refusal, hard, fails⟩, soft, does, warned⟩

end ExtractOptions
