/-
Module: ExtractOptions.Proofs.CommandLine.Order
Purpose: the order of flags. A flag is an option without a value, other than those that ask for help
  or for the version. It counts itself and leaves one mark, or fails since a mark opposes its own. Two
  flags in a row come to the same in either order, and so does a command line of flags in any order.
Main exports: isFlag, Action.Leaves, Action.Concur, Action.Leaves.swap, resolve_perm
-/
import ExtractOptions.Proofs.CommandLine.Composition
import ExtractOptions.Proofs.Run.Flag

namespace ExtractOptions

open ExtractOptions.Action

/-! ### Flags

A token is a flag if the option it gives reads no value and does not end the run. Each flag leaves
one mark, as found by going through the two tables of options. -/

/-- A letter that reads no value, other than those for help. The letter `-s` is not among them: it
and `--quiet` set one level, and the last of them wins. -/
def LetterOption.isFlag : LetterOption → Bool
  | sevenTagRoster | dropComments | dropDuplicates | dropNags | exactOrder | checkOnly | soundex
  | checkmate | dropFirstCopies | dropVariations | virtualHashTable => true
  | _ => false

/-- A name that takes no value, other than those for help and for the version. -/
def NamedOption.isFlag (option : NamedOption) : Bool :=
  !option.takesValue && option.name != "help" && option.name != "version"

/-- The token gives a flag. What is attached to a letter does not matter. -/
def isFlag (token : String) : Bool :=
  match Token.ofText token with
  | .named name => (NamedOption.find? name).any NamedOption.isFlag
  | .letter c _ => (LetterOption.ofLetter? c).any LetterOption.isFlag
  | .bareDash | .source _ => false

/-- The mark that an option leaves, if it leaves but one and reads no value. -/
def AnyOption.mark? : AnyOption → Option Mark
  | letter own => own.adjustment?.bind Adjustment.mark?
  | named option =>
    match option.action with
    | .adjust adjustment => adjustment.mark?
    | .letter own => own.adjustment?.bind Adjustment.mark?
    | .fenComments => some (.turned .fenComments)
    | _ => none

instance : DecidablePred Mark.IsFlag
  | .turned switch => inferInstanceAs (Decidable (switch ≠ .finalFen))
  | .moveRule moves => inferInstanceAs (Decidable (moves = 50 ∨ moves = 75))
  | .repetition count => inferInstanceAs (Decidable (count = 3 ∨ count = 5))
  | .sideToMove side => inferInstanceAs (Decidable (side = .white ∨ side = .black))
  | .setupTags policy => inferInstanceAs (Decidable (policy = .excluded ∨ policy = .required))
  | .tagOutput tags => inferInstanceAs (Decidable (tags = .sevenTagRoster ∨ tags = .noTags))
  | .quiet => inferInstanceAs (Decidable True)

/-- A flag given by letter leaves one mark, of the kind that flags leave. -/
theorem LetterOption.mark?_of_isFlag {option : LetterOption} (flag : option.isFlag = true) :
    ∃ mark ∈ (AnyOption.letter option).mark?, mark.IsFlag := by
  have every : ∀ option ∈ all, option.isFlag = true →
      ∃ mark ∈ (AnyOption.letter option).mark?, mark.IsFlag := by decide
  exact every option option.mem_all flag

/-- A flag given by name leaves one mark, of the kind that flags leave. -/
theorem NamedOption.mark?_of_isFlag {option : NamedOption} (listed : option ∈ all)
    (flag : option.isFlag = true) : ∃ mark ∈ (AnyOption.named option).mark?, mark.IsFlag := by
  have every : ∀ option ∈ all, option.isFlag = true →
      ∃ mark ∈ (AnyOption.named option).mark?, mark.IsFlag := by decide +kernel
  exact every option listed flag

/-! ### What a flag does to a session

A flag has two effects: it is counted, by letter or by name, and it leaves its mark. Counting
commutes with everything, so only the marks can disagree. -/

namespace AnyOption

/-- How often an option counts among those given by letter. A name that stands for a letter does. -/
def letters : AnyOption → Nat
  | letter _ => 1
  | named option =>
    match option.action with
    | .letter _ => 1
    | _ => 0

/-- How often an option counts among those given by name. -/
def names : AnyOption → Nat
  | letter _ => 0
  | named _ => 1

/-- The counters with the option counted. -/
def count (option : AnyOption) (counters : Counters) : Counters :=
  { counters with
    letters := counters.letters + option.letters
    names := counters.names + option.names }

/-- Options may be counted in either order. -/
theorem count_comm (option other : AnyOption) (counters : Counters) :
    other.count (option.count counters) = option.count (other.count counters) := by
  simp only [count, Nat.add_right_comm]

end AnyOption

namespace Session

/-- The session with the option counted. -/
def counted (session : Session) (option : AnyOption) : Session :=
  { session with counters := option.count session.counters }

/-- The session that an option leaves whose mark is accepted. -/
def flagged (session : Session) (option : AnyOption) (mark : Mark) : Session :=
  { session.counted option with config := session.config.marked mark }

/-- A name that stands for a letter counts twice, once each way. -/
theorem counted_of_letter {option : NamedOption} {own : LetterOption}
    (stands : option.action = .letter own) (session : Session) :
    session.counted (.named option) = session.named.lettered := by
  simp [counted, AnyOption.count, AnyOption.letters, AnyOption.names, stands, named, lettered]

/-- Any other name counts once. -/
theorem counted_of_not_letter {option : NamedOption}
    (other : ∀ own, option.action ≠ .letter own) (session : Session) :
    session.counted (.named option) = session.named := by
  cases does : option.action with
  | letter own => exact absurd does (other own)
  | _ => simp [counted, AnyOption.count, AnyOption.letters, AnyOption.names, does, named]

end Session

namespace Action

/-- The action fails since options contradict each other. -/
def Clashes (action : Action Unit) (session : Session) : Prop :=
  ∃ clash left, action session = .error (.conflict clash) left

/-- The action counts the option and leaves the mark, or clashes where the mark is refused. -/
structure Leaves (action : Action Unit) (option : AnyOption) (mark : Mark) : Prop where
  flag : mark.IsFlag
  of_accepted : ∀ session : Session, session.config.IsPlain → ¬ session.config.Refuses mark →
    action session = .ok () (session.flagged option mark)
  of_refused : ∀ session : Session, session.config.IsPlain → session.config.Refuses mark →
    action.Clashes session

/-- Two actions come to the same on a session: both leave the same session, or both clash. -/
inductive Concur (first second : Action Unit) (session : Session) : Prop where
  | leave (left : Session) (one : first session = .ok () left)
    (other : second session = .ok () left)
  | clash (one : first.Clashes session) (other : second.Clashes session)

end Action

/-! ### Options that leave a mark

That an option leaves its mark and nothing else is shown option by option. Most come down to an
adjustment of the configuration; FEN comments are the one exception and go by themselves. -/

section Options

variable {context : Context}

/-- What comes down to an adjustment leaves the mark of the adjustment. -/
theorem Action.Leaves.of_adjusts {action : Action Unit} {option : AnyOption}
    {adjustment : Adjustment} {mark : Mark} (name : OptionName) (value : String)
    (marks : adjustment.mark? = some mark) (flag : mark.IsFlag)
    (adjusts : ∀ session : Session, action session =
      match adjustment.apply name value session.config with
      | .ok config => .ok () { session.counted option with config }
      | .error failure => .error failure (session.counted option)) :
    action.Leaves option mark where
  flag := flag
  of_accepted session plain accepted := by
    rcases Adjustment.apply_of_mark? marks flag plain name value with ⟨-, made⟩ | ⟨refused, -⟩
    · rw [adjusts, made]
      rfl
    · exact absurd refused accepted
  of_refused session plain refused := by
    rcases Adjustment.apply_of_mark? marks flag plain name value with
      ⟨accepted, -⟩ | ⟨-, clash, made⟩
    · exact absurd refused accepted
    · exact ⟨clash, _, by rw [adjusts, made]⟩

/-- A letter with a mark of the kind that flags leave does nothing but leave it. -/
theorem LetterOption.alone_leaves {option : LetterOption} {mark : Mark}
    (marks : (AnyOption.letter option).mark? = some mark) (flag : mark.IsFlag) (value : String) :
    (option.alone context value).Leaves (.letter option) mark := by
  obtain ⟨adjustment, makes, leaves⟩ := Option.bind_eq_some_iff.mp marks
  exact .of_adjusts _ value leaves flag fun session => alone_of_adjustment? makes value session

/-- FEN comments are refused by no mark. -/
theorem not_refuses_fenComments (config : Config) : ¬ config.Refuses (.turned .fenComments) := by
  rintro ⟨_, ⟨stance, _, own, -⟩, -⟩
  cases stance <;> cases own

/-- Without a pattern for final positions, FEN comments replace them. -/
theorem commentWithFen_of_free {name : String} {session : Session}
    (free : session.config.fenPattern = none) :
    commentWithFen name session =
      .ok ()
        { session with config := (session.config.set .fenComments true).set .finalFen false } := by
  simp [commentWithFen, free]

/-- The option for FEN comments leaves its mark in a configuration that was marked by flags alone. -/
theorem NamedOption.alone_leaves_of_fenComments {option : NamedOption}
    (writes : option.action = .fenComments) (value : String) :
    (option.alone context value).Leaves (.named option) (.turned .fenComments) where
  flag := by decide
  of_accepted session plain _ := by
    have run : option.alone context value session = commentWithFen option.name session.named := by
      simp [alone, effect, writes, Session.named]
    have off : (session.config.set .fenComments true).set .finalFen false =
        session.config.set .fenComments true := Config.set_of_on (by simpa using plain.finalFen)
    have counted : session.counted (.named option) = session.named :=
      session.counted_of_not_letter (by simp [writes])
    have free : session.named.config.fenPattern = none := plain.fenPattern
    refine (run.trans (commentWithFen_of_free free)).trans ?_
    rw [Session.flagged, counted]
    exact congrArg (fun config => EStateM.Result.ok () { session.named with config }) off
  of_refused session _ refused := absurd refused (not_refuses_fenComments session.config)

/-- A name with a mark of the kind that flags leave does nothing but leave it. -/
theorem NamedOption.alone_leaves {option : NamedOption} {mark : Mark}
    (marks : (AnyOption.named option).mark? = some mark) (flag : mark.IsFlag) (value : String) :
    (option.alone context value).Leaves (.named option) mark := by
  cases does : option.action with
  | adjust adjustment =>
    have leaves : adjustment.mark? = some mark := by simpa [AnyOption.mark?, does] using marks
    refine .of_adjusts (.named option.name) value leaves flag fun session => ?_
    rw [session.counted_of_not_letter (by simp [does])]
    exact alone_of_adjust does value session
  | letter own =>
    have makes : own.adjustment?.bind Adjustment.mark? = some mark := by
      simpa [AnyOption.mark?, does] using marks
    obtain ⟨adjustment, makes, leaves⟩ := Option.bind_eq_some_iff.mp makes
    refine .of_adjusts (.letter own) (option.letterValue value) leaves flag fun session => ?_
    rw [session.counted_of_letter does]
    exact (alone_of_letter does value session).trans
      (LetterOption.alone_of_adjustment? makes _ session.named)
  | fenComments =>
    have own : mark = .turned .fenComments := by
      simpa [AnyOption.mark?, does] using marks.symm
    rw [own]
    exact alone_leaves_of_fenComments does value
  | bound | suppressTag | fenPattern | material | version =>
    simp [AnyOption.mark?, does] at marks

/-! ### Tokens that give flags

From options to tokens: what a flag does as an entry of a command line, and that it never takes the
next token for its value. -/

variable {token : String}

/-- A flag is given by name or by letter. -/
theorem named_or_letter_of_isFlag (flag : isFlag token = true) :
    (∃ name option, Token.ofText token = .named name ∧ NamedOption.find? name = some option ∧
        option.isFlag = true) ∨
      ∃ c value option, Token.ofText token = .letter c value ∧
        LetterOption.ofLetter? c = some option ∧ option.isFlag = true := by
  unfold isFlag at flag
  cases means : Token.ofText token with
  | named name =>
    cases found : NamedOption.find? name with
    | none => simp [means, found] at flag
    | some option => exact .inl ⟨name, option, rfl, found, by simpa [means, found] using flag⟩
  | letter c value =>
    cases found : LetterOption.ofLetter? c with
    | none => simp [means, found] at flag
    | some option => exact .inr ⟨c, value, option, rfl, found, by simpa [means, found] using flag⟩
  | bareDash | source => simp [means] at flag

/-- A token that gives a flag leaves the mark of the flag. -/
theorem Entry.perform_leaves (context : Context) (flag : isFlag token = true) :
    ∃ option mark, (Entry.perform context ⟨token, none⟩).Leaves option mark := by
  rcases named_or_letter_of_isFlag flag with
    ⟨name, option, means, found, own⟩ | ⟨c, value, option, means, found, own⟩
  · have listed : option ∈ NamedOption.all := List.mem_of_find?_eq_some found
    obtain ⟨mark, marks, leaves⟩ := NamedOption.mark?_of_isFlag listed own
    rw [Entry.perform_named means found]
    exact ⟨.named option, mark, NamedOption.alone_leaves marks leaves _⟩
  · obtain ⟨mark, marks, leaves⟩ := LetterOption.mark?_of_isFlag own
    have run : Entry.perform context ⟨token, none⟩ = option.alone context value := by
      simp only [Entry.perform, means, performLetter, found]
      refine LetterOption.perform_eq_alone ?_
      rintro rfl
      cases own
    rw [run]
    exact ⟨.letter option, mark, LetterOption.alone_leaves marks leaves value⟩

/-- A flag leaves the next token alone. -/
theorem usesNext_of_isFlag (flag : isFlag token = true) (next : String) :
    usesNext token next = false := by
  rcases named_or_letter_of_isFlag flag with
    ⟨name, option, means, found, own⟩ | ⟨c, value, option, means, found, own⟩
  · have listed : option ∈ NamedOption.all := List.mem_of_find?_eq_some found
    have every : ∀ option ∈ NamedOption.all, option.isFlag = true →
        option.takesValue = false ∧ option.action ≠ .adjust .splitVariants := by decide +kernel
    obtain ⟨bare, whole⟩ := every option listed own
    rw [usesNext_of_named means found, NamedOption.consumed_eq listed whole, bare]
    rfl
  · exact usesNext_of_not_named (by simp [means]) next

/-- A flag at the start of a command line is one entry, and the rest follows. -/
theorem resolve_flag (flag : isFlag token = true) (later : List String) :
    resolve context (token :: later) =
      (Entry.perform context ⟨token, none⟩ >>= fun _ => resolve context later) :=
  resolve_of_unused fun next _ => usesNext_of_isFlag flag next

end Options

/-! ### Flags one after the other

Two flags in a row are both accepted in one order exactly if they are in the other, and leave the
same session. Swapping neighbours carries this over to any rearrangement of a command line. -/

namespace Action

variable {first second third next : Action Unit} {option other : AnyOption} {mark opposed : Mark}
  {session : Session}

theorem Clashes.congr {met : Session} (same : first session = second met)
    (clashes : second.Clashes met) : first.Clashes session := by
  obtain ⟨clash, left, run⟩ := clashes
  exact ⟨clash, left, same.trans run⟩

theorem Clashes.bind (clashes : first.Clashes session) (later : Unit → Action Unit) :
    (first >>= later).Clashes session := by
  obtain ⟨clash, left, run⟩ := clashes
  exact ⟨clash, left, by rw [bind_apply, run]⟩

/-- What clashes does not succeed. -/
theorem Clashes.ne_ok (clashes : first.Clashes session) {left : Session} :
    first session ≠ .ok () left := by
  obtain ⟨clash, met, run⟩ := clashes
  simp [run]

theorem Concur.congr {met : Session} (one : first session = next met)
    (two : second session = third met) (concur : next.Concur third met) :
    first.Concur second session := by
  cases concur with
  | leave left run same => exact .leave left (one.trans run) (two.trans same)
  | clash clashes same => exact .clash (clashes.congr one) (same.congr two)

/-- Coming to the same carries over from one action to the next. -/
theorem Concur.trans (one : first.Concur second session) (two : second.Concur third session) :
    first.Concur third session := by
  cases one with
  | leave left run same =>
    cases two with
    | leave other again last =>
      cases same.symm.trans again
      exact .leave left run last
    | clash clashes last => exact absurd same clashes.ne_ok
  | clash clashes same =>
    cases two with
    | leave other again last => exact absurd again same.ne_ok
    | clash _ last => exact .clash clashes last

namespace Leaves

/-- What follows an accepted flag goes on with the mark. -/
theorem bind_accepted (leaves : first.Leaves option mark) (plain : session.config.IsPlain)
    (accepted : ¬ session.config.Refuses mark) :
    (first >>= fun _ => next) session = next (session.flagged option mark) := by
  rw [bind_apply, leaves.of_accepted session plain accepted]

/-- What comes to the same after a flag comes to the same with the flag before it. -/
theorem bind_concur (leaves : first.Leaves option mark) (plain : session.config.IsPlain)
    (later : ∀ left : Session, left.config.IsPlain → second.Concur third left) :
    (first >>= fun _ => second).Concur (first >>= fun _ => third) session := by
  by_cases refused : session.config.Refuses mark
  · have clashes := leaves.of_refused session plain refused
    exact .clash (clashes.bind _) (clashes.bind _)
  · exact (later (session.flagged option mark) (plain.marked leaves.flag)).congr
      (leaves.bind_accepted plain refused) (leaves.bind_accepted plain refused)

/-- Two flags in a row that nothing opposes, neither what was there before nor each other. -/
theorem pair_accepted (one : first.Leaves option mark) (two : second.Leaves other opposed)
    (plain : session.config.IsPlain) (accepted : ¬ session.config.Refuses mark)
    (free : ¬ session.config.Refuses opposed) (agree : ¬ mark.Opposes opposed) :
    (first >>= fun _ => second >>= fun _ => next) session =
      next ((session.flagged option mark).flagged other opposed) := by
  have still : ¬ (session.config.marked mark).Refuses opposed := by
    rw [Config.refuses_marked one.flag accepted]
    exact not_or.mpr ⟨free, agree⟩
  rw [one.bind_accepted plain accepted]
  exact two.bind_accepted (plain.marked one.flag) still

/-- Two flags in a row clash if one of them is refused or they oppose each other. -/
theorem pair_clashes (one : first.Leaves option mark) (two : second.Leaves other opposed)
    (plain : session.config.IsPlain)
    (refused : session.config.Refuses mark ∨ session.config.Refuses opposed ∨
      mark.Opposes opposed) :
    (first >>= fun _ => second >>= fun _ => next).Clashes session := by
  by_cases accepted : session.config.Refuses mark
  · exact (one.of_refused session plain accepted).bind _
  -- The first flag is accepted, so whatever is left to refuse meets the second one.
  · have later : (session.config.marked mark).Refuses opposed :=
      (Config.refuses_marked one.flag accepted).mpr (refused.resolve_left accepted)
    exact ((two.of_refused _ (plain.marked one.flag) later).bind _).congr
      (one.bind_accepted plain accepted)

/-- Two accepted flags leave the same session in either order. -/
theorem flagged_comm (one : first.Leaves option mark) (two : second.Leaves other opposed)
    (agree : ¬ mark.Opposes opposed) :
    (session.flagged option mark).flagged other opposed =
      (session.flagged other opposed).flagged option mark := by
  have config : (session.config.marked mark).marked opposed =
      (session.config.marked opposed).marked mark := Config.marked_comm one.flag two.flag agree
  have counters := option.count_comm other session.counters
  simp only [Session.flagged, Session.counted, config, counters]

/-- Two flags in a row come to the same in either order, if what follows comes to anything that
way. -/
theorem swap (one : first.Leaves option mark) (two : second.Leaves other opposed)
    (plain : session.config.IsPlain)
    (later : ∀ left : Session, left.config.IsPlain → next.Concur next left) :
    (first >>= fun _ => second >>= fun _ => next).Concur
      (second >>= fun _ => first >>= fun _ => next) session := by
  by_cases refused : session.config.Refuses mark ∨ session.config.Refuses opposed ∨
      mark.Opposes opposed
  · have turned : session.config.Refuses opposed ∨ session.config.Refuses mark ∨
        opposed.Opposes mark := by
      rcases refused with now | before | opposes
      · exact .inr (.inl now)
      · exact .inl before
      · exact .inr (.inr opposes.symm)
    exact .clash (one.pair_clashes two plain refused) (two.pair_clashes one plain turned)
  · obtain ⟨accepted, free, agree⟩ : ¬ _ ∧ ¬ _ ∧ ¬ _ := by simpa only [not_or] using refused
    have both : ((session.flagged option mark).flagged other opposed).config.IsPlain :=
      (plain.marked one.flag).marked two.flag
    refine (later _ both).congr (one.pair_accepted two plain accepted free agree) ?_
    rw [two.pair_accepted one plain free accepted fun opposes => agree opposes.symm,
      one.flagged_comm two agree]

end Leaves

end Action

section Runs

variable {context : Context} {tokens other : List String} {session : Session}

/-- A command line of flags leaves a session or clashes. -/
theorem resolve_concur_self (flags : ∀ token ∈ tokens, isFlag token = true)
    (plain : session.config.IsPlain) :
    (resolve context tokens).Concur (resolve context tokens) session := by
  induction tokens generalizing session with
  | nil => exact .leave session rfl rfl
  | cons token later ih =>
    obtain ⟨now, after⟩ := List.forall_mem_cons.mp flags
    obtain ⟨option, mark, leaves⟩ := Entry.perform_leaves context now
    rw [resolve_flag now]
    exact leaves.bind_concur plain fun left still => ih after still

/-- A command line of flags comes to the same in any order, in a plain configuration. -/
theorem resolve_concur_of_perm (perm : tokens.Perm other)
    (flags : ∀ token ∈ tokens, isFlag token = true) (plain : session.config.IsPlain) :
    (resolve context tokens).Concur (resolve context other) session := by
  induction perm generalizing session with
  | nil => exact .leave session rfl rfl
  | cons token _ ih =>
    obtain ⟨now, after⟩ := List.forall_mem_cons.mp flags
    obtain ⟨option, mark, leaves⟩ := Entry.perform_leaves context now
    rw [resolve_flag now, resolve_flag now]
    exact leaves.bind_concur plain fun left still => ih after still
  | swap second first later =>
    obtain ⟨now, rest⟩ := List.forall_mem_cons.mp flags
    obtain ⟨next, after⟩ := List.forall_mem_cons.mp rest
    obtain ⟨_, _, one⟩ := Entry.perform_leaves context now
    obtain ⟨_, _, two⟩ := Entry.perform_leaves context next
    rw [resolve_flag now, resolve_flag next, resolve_flag next, resolve_flag now]
    -- The rest is the same on both sides, but it must be known to leave a session or to clash.
    exact one.swap two plain fun left still => resolve_concur_self after still
  | trans first _ ih again =>
    have between : ∀ token ∈ _, isFlag token = true := fun token among =>
      flags token (first.mem_iff.mpr among)
    exact (ih flags plain).trans (again between plain)

/-- The order of flags does not matter: a command line of flags and the same flags in another order
leave the same session behind, or both fail since flags contradict each other. -/
theorem resolve_perm (start : session.config = {}) (perm : tokens.Perm other)
    (flags : ∀ token ∈ tokens, isFlag token = true) :
    (resolve context tokens).Concur (resolve context other) session :=
  resolve_concur_of_perm perm flags (start ▸ Config.IsPlain.initially)

/-- Games that end in checkmate, positions with white to move and the seven tag roster may be asked
for in any order. -/
theorem checkmate_flags_perm :
    (isFlag "-M" = true ∧ isFlag "--wtm" = true ∧ isFlag "-7" = true) ∧
      (resolve {} ["-M", "--wtm", "-7"]).Concur (resolve {} ["-7", "-M", "--wtm"])
        { disk := ⟨[], []⟩ } :=
  ⟨by decide +kernel, resolve_perm rfl (by decide) (by decide +kernel)⟩

end Runs

end ExtractOptions
