/-
Module: ExtractOptions.Proofs.CommandLine.Composition
Purpose: command lines put together. A command line does what its entries do, one after the other, and
  the entries use every token once. Where the first of two command lines succeeds, its last option
  has the value that it needs, so the two together have the entries of both. Only the option that
  splits variations goes with and without a value, and may take one from the second command line.
Main exports: Adjustment.apply_missing_ne_ok, NamedOption.alone_missing_ne_ok, Entry.perform,
  resolve_eq_entries, entries_append, Walk, commandLines_compose
-/
import Mathlib.Data.List.Basic
import ExtractOptions.Proofs.Transcript.Entry

namespace ExtractOptions

open Text ExtractOptions.Action

/-! ### Values that are missing

At the end of a command line an option meets the empty text in place of a value. Every option that
needs its value then fails, so an option that succeeded there did not look for one. The option that
splits variations is the one that may have looked and still succeeded. -/

namespace Value

/-- A value that is required is not empty. -/
theorem required_missing_ne_ok {option : OptionName} {what answer : String} :
    required option what "" ≠ .ok answer := by
  simp [required]

theorem unsigned_missing_ne_ok {option : OptionName} {most answer : Nat} :
    unsigned option most "" ≠ .ok answer := by
  have empty : Numeral.unsigned? most (digitsOf "") = none := rfl
  simp [unsigned, empty]

theorem signed_missing_ne_ok {option : OptionName} {answer : Int} :
    signed option "" ≠ .ok answer := by
  have empty : Numeral.signed32? (digitsOf "") = none := rfl
  simp [signed, empty]

/-- The empty text is no number that has a minimum. -/
theorem atLeast_missing_ne_ok {option : OptionName} {minimum : Int} {answer : Nat} :
    atLeast option minimum "" ≠ .ok answer := by
  have empty : Numeral.signed64? (digitsOf "") = none := rfl
  simp [atLeast, empty]

theorem ranges_missing_ne_ok {option : OptionName} {answer : GameRanges} :
    ranges option "" ≠ .ok answer := by
  have empty : GameRanges.parse? "" = none := rfl
  simp [ranges, empty]

theorem bound_missing_ne_ok {option : LetterOption} {answer : BoundSpec} :
    bound option "" ≠ .ok answer := by
  have empty : BoundSpec.parse "" = .error .badSide := rfl
  simp [bound, empty]

end Value

/-- An adjustment that reads its value needs one, unless it splits variations. -/
theorem Adjustment.apply_missing_ne_ok {adjustment : Adjustment}
    (reads : adjustment.readsValue = true) (needs : adjustment ≠ .splitVariants)
    {option : OptionName} {config changed : Config} :
    adjustment.apply option "" config ≠ .ok changed := by
  intro made
  cases adjustment with
  | splitVariants => exact needs rfl
  | dropBefore | lineMarker | markMatches =>
    obtain ⟨_, read, -⟩ := bind_eq_ok.mp made
    exact Value.required_missing_ne_ok read
  | dropPly =>
    obtain ⟨_, read, -⟩ := bind_eq_ok.mp made
    exact Value.signed_missing_ne_ok read
  | firstGame | gameLimit =>
    obtain ⟨_, read, -⟩ := bind_eq_ok.mp made
    exact Value.unsigned_missing_ne_ok read
  | fuzzyDepth => cases made
  | searchDepth | pieceCount | plyLimit | quietPly | startPly | stopAfter =>
    obtain ⟨_, read, -⟩ := bind_eq_ok.mp made
    exact Value.atLeast_missing_ne_ok read
  | selectOnly | skipMatching =>
    obtain ⟨_, read, -⟩ := bind_eq_ok.mp made
    exact Value.ranges_missing_ne_ok read
  | bound =>
    obtain ⟨_, read, -⟩ := bind_eq_ok.mp made
    exact Value.bound_missing_ne_ok read
  | ecoLevel =>
    obtain ⟨_, -, rest⟩ := bind_eq_ok.mp made
    obtain ⟨_, -, read⟩ := bind_eq_ok.mp rest
    cases read
  | gamesPerFile =>
    obtain ⟨_, -, rest⟩ := bind_eq_ok.mp made
    obtain ⟨_, -, read⟩ := bind_eq_ok.mp rest
    cases read
  | turn | verbosity | ending | winner | sideToMove | setupTags | moveRule | repetition
  | onlyCommented | dropComments | dropVariations | dropDuplicates | sevenTagRoster | noTags
  | onlyWantedTags => cases reads

theorem requireFile_missing_ne_ok {option : LetterOption} {session left : Session} :
    requireFile option "" session ≠ .ok () left := by
  simp [requireFile]

/-- What is done with a value is not done without one. -/
theorem withValue_missing_ne_ok {name what : String} {go : Action Unit} {session left : Session} :
    withValue name what "" go session ≠ .ok () left := by
  simp [withValue, Value.required]

theorem softBound_missing_ne_ok {name : String} {unit : BoundUnit} {side : BoundSide}
    {session left : Session} : softBound name unit side "" session ≠ .ok () left := by
  have empty : Numeral.unsigned? Numeral.max32 (Value.digitsOf "") = none := rfl
  simp [softBound, Value.unsigned, empty]

/-- The option with a letter cannot do without a value. -/
def LetterOption.needsValue : LetterOption → Bool
  | appendOutput | writeOutput | duplicatesFile | checkFile | lineWidth => true
  | _ => false

section

variable {context : Context}

/-- An option with a letter that cannot do without a value fails without it. -/
theorem LetterOption.alone_missing_ne_ok {option : LetterOption} (needs : option.needsValue = true)
    {session left : Session} : option.alone context "" session ≠ .ok () left := by
  intro run
  obtain ⟨_, counted, -, does⟩ := bind_ok run
  have empty : skipSpaces "" = "" := rfl
  cases option with
  | appendOutput | writeOutput =>
    obtain ⟨_, checked, -, rest⟩ := bind_ok does
    obtain ⟨_, _, named, -⟩ := bind_ok rest
    exact requireFile_missing_ne_ok named
  | duplicatesFile | checkFile =>
    obtain ⟨_, _, named, -⟩ := bind_ok does
    exact requireFile_missing_ne_ok named
  | lineWidth => cases does
  | _ => cases needs

/-- What the option does cannot be done without a value. -/
def NamedAction.needsValue : NamedAction → Bool
  | adjust adjustment => adjustment.readsValue && adjustment != .splitVariants
  | letter option => option.needsValue
  | bound .. | suppressTag | fenPattern _ | material _ => true
  | fenComments | version => false

namespace NamedOption

/-- Every option with a placeholder needs its value, but for the one that splits variations. -/
theorem needsValue_of_mem {option : NamedOption} (listed : option ∈ all)
    (takes : option.takesValue = true) (other : option.action ≠ .adjust .splitVariants) :
    option.action.needsValue = true := by
  have every : ∀ option ∈ all, option.takesValue = true →
      option.action ≠ .adjust .splitVariants → option.action.needsValue = true := by decide
  exact every option listed takes other

/-- An option that needs its value fails without it. -/
theorem alone_missing_ne_ok {option : NamedOption} (needs : option.action.needsValue = true)
    {session left : Session} : option.alone context "" session ≠ .ok () left := by
  intro run
  cases does : option.action with
  | adjust adjustment =>
    rw [does] at needs
    simp only [NamedAction.needsValue, Bool.and_eq_true, bne_iff_ne] at needs
    rw [alone_of_adjust does] at run
    cases made : adjustment.apply (.named option.name) "" session.config with
    | ok config => exact Adjustment.apply_missing_ne_ok needs.1 needs.2 made
    | error failure =>
      rw [made] at run
      cases run
  | letter letter =>
    rw [does] at needs
    have empty : option.letterValue "" = "" := by
      unfold letterValue
      split <;> rfl
    rw [alone_of_letter does, empty] at run
    exact LetterOption.alone_missing_ne_ok needs run
  | bound unit side =>
    obtain ⟨_, _, -, effect⟩ := bind_ok run
    simp only [NamedOption.effect, does] at effect
    exact softBound_missing_ne_ok effect
  | suppressTag | fenPattern | material =>
    obtain ⟨_, _, -, effect⟩ := bind_ok run
    simp only [NamedOption.effect, does] at effect
    exact withValue_missing_ne_ok effect
  | fenComments | version =>
    rw [does] at needs
    cases needs

end NamedOption

end

/-! ### Entries one after the other

The tokens of a command line fall into entries, each an option with the token after it if that is
its value. The program walks over tokens; that it does what the entries do one by one is the bridge
to everything below. -/

namespace Entry

/-- The tokens that an entry is made of. -/
def tokens (entry : Entry) : List String :=
  entry.token :: entry.value.toList

/-- What an entry does. -/
def perform (context : Context) (entry : Entry) : Action Unit :=
  match Token.ofText entry.token with
  | .named name =>
    discard (performNamed context (readArgumentFile context) name (entry.value.getD ""))
  | .letter c value => performLetter context c value
  | .bareDash => throw (.usage .missingLetter)
  | .source path => Action.addSource path .normal

end Entry

/-- The entries of a command line use every token once, in order. -/
theorem flatMap_tokens_entries (tokens : List String) :
    (entries tokens).flatMap Entry.tokens = tokens := by
  induction tokens using entries.induct with
  | case1 => rfl
  | case2 token => rfl
  | case3 token next later uses ih =>
    rw [entries, if_pos uses, List.flatMap_cons, ih]
    rfl
  | case4 token next later unused ih =>
    rw [entries, if_neg unused, List.flatMap_cons, ih]
    rfl

section

variable {context : Context} {token name : String} {later : List String}

/-- An entry that gives an option by name does what the option does with the value. -/
theorem Entry.perform_named {entry : Entry} {option : NamedOption}
    (means : Token.ofText entry.token = .named name)
    (found : NamedOption.find? name = some option) :
    entry.perform context = option.alone context (entry.value.getD "") := by
  simp only [Entry.perform, means]
  exact discard_performNamed found _

/-- A name that no option has fails as an entry. -/
theorem Entry.perform_unknown {entry : Entry} (means : Token.ofText entry.token = .named name)
    (unknown : NamedOption.find? name = none) :
    entry.perform context = throw (.usage (.unknownName name)) := by
  simp only [Entry.perform, means, performNamed_of_unknown unknown]
  rfl

/-- A name goes on with the tokens after those that its option uses. -/
theorem resolve_named {option : NamedOption} (means : Token.ofText token = .named name)
    (found : NamedOption.find? name = some option) :
    resolve context (token :: later) =
      (option.alone context (later.head?.getD "") >>= fun _ =>
        resolve context (later.drop ((option.consumed (later.head?.getD "")).tokens - 1))) := by
  rw [resolve.eq_def]
  simp only [means]
  rw [performNamed_eq found, bind_map_left]
  congr 1
  funext _
  cases option.consumed (later.head?.getD "") with
  | nameOnly => rfl
  | nameAndValue => cases later <;> rfl

/-- A name that no option has ends the command line with a failure. -/
theorem resolve_unknown (means : Token.ofText token = .named name)
    (unknown : NamedOption.find? name = none) :
    resolve context (token :: later) = throw (.usage (.unknownName name)) := by
  rw [resolve.eq_def]
  simp only [means]
  rw [performNamed_of_unknown unknown]
  rfl

/-- What an option reports to have used says whether the next token belongs to its entry. -/
theorem consumed_of_usesNext {next : String} {option : NamedOption}
    (means : Token.ofText token = .named name) (found : NamedOption.find? name = some option) :
    option.consumed next = if usesNext token next then .nameAndValue else .nameOnly := by
  rw [usesNext_of_named means found]
  cases option.consumed next <;> rfl

/-- A token that does not use the next one is an entry by itself. -/
theorem resolve_of_unused (unused : ∀ next ∈ later.head?, usesNext token next = false) :
    resolve context (token :: later) =
      (Entry.perform context ⟨token, none⟩ >>= fun _ => resolve context later) := by
  cases means : Token.ofText token with
  | letter | source =>
    rw [resolve.eq_def]
    simp only [Entry.perform, means]
  | bareDash =>
    rw [resolve.eq_def]
    simp only [Entry.perform, means]
    rfl
  | named name =>
    cases found : NamedOption.find? name with
    | none =>
      rw [resolve_unknown means found, Entry.perform_unknown means found]
      rfl
    | some option =>
      rw [resolve_named means found, Entry.perform_named means found]
      cases later with
      | nil => simp only [List.head?_nil, Option.getD_none, List.drop_nil]
      | cons next rest =>
        have only : option.consumed next = .nameOnly := by
          rw [consumed_of_usesNext means found, unused next rfl]
          rfl
        have listed : option ∈ NamedOption.all := List.mem_of_find?_eq_some found
        simp only [List.head?_cons, Option.getD_some, Option.getD_none, only,
          NamedOption.alone_of_nameOnly context listed only]
        rfl

/-- A token that uses the next one makes an entry with it. -/
theorem resolve_of_used {next : String} (used : usesNext token next = true) :
    resolve context (token :: next :: later) =
      (Entry.perform context ⟨token, some next⟩ >>= fun _ => resolve context later) := by
  cases means : Token.ofText token with
  | letter | source | bareDash =>
    rw [usesNext_of_not_named (by simp [means])] at used
    cases used
  | named name =>
    cases found : NamedOption.find? name with
    | none => simp [usesNext, means, found] at used
    | some option =>
      have both : option.consumed next = .nameAndValue := by
        rw [consumed_of_usesNext means found, used]
        rfl
      rw [resolve_named means found, Entry.perform_named means found]
      simp only [List.head?_cons, Option.getD_some, both]
      rfl

/-- A command line does what its entries do, one after the other. -/
theorem resolve_eq_entries (context : Context) (tokens : List String) :
    resolve context tokens = (entries tokens).forM (Entry.perform context) := by
  induction tokens using entries.induct with
  | case1 => rfl
  | case2 token =>
    rw [resolve_of_unused (by simp)]
    rfl
  | case3 token next later used ih =>
    rw [entries, if_pos used, resolve_of_used used, ih]
    rfl
  | case4 token next later other ih =>
    have unused : ∀ other ∈ (next :: later).head?, usesNext token other = false := by
      rintro _ ⟨⟩
      exact Bool.eq_false_iff.mpr other
    rw [entries_of_unused unused, resolve_of_unused unused, ih]
    rfl

/-! ### Command lines one after the other

Two command lines put together have the entries of both as long as the last entry of the first one
is closed, that is, has its value or needs none. Success of the first command line is what closes
it. -/

/-- Two command lines have the entries of both, if the last entry of the first one leaves alone what
comes after it. -/
theorem entries_append {xs ys : List String}
    (closed : ∀ entry ∈ (entries xs).getLast?, entry.value = none →
      ∀ next ∈ ys.head?, usesNext entry.token next = false) :
    entries (xs ++ ys) = entries xs ++ entries ys := by
  -- Along the entries of the first command line. Only its last token is shown the second one.
  induction xs using entries.induct with
  | case1 => rfl
  | case2 token => exact entries_of_unused (closed ⟨token, none⟩ rfl rfl)
  | case3 token next later used ih =>
    rw [entries, if_pos used] at closed ⊢
    rw [List.cons_append, List.cons_append, entries, if_pos used,
      ih fun entry ends => closed entry (List.mem_getLast?_cons ends)]
    rfl
  | case4 token next later other ih =>
    have unused : ∀ other ∈ (next :: later).head?, usesNext token other = false := by
      rintro _ ⟨⟩
      exact Bool.eq_false_iff.mpr other
    rw [entries_of_unused unused] at closed ⊢
    rw [List.cons_append, entries_of_unused (by rintro _ ⟨⟩; exact Bool.eq_false_iff.mpr other),
      ih fun entry ends => closed entry (List.mem_getLast?_cons ends)]
    rfl

/-- The last token gives the option that splits variations, without a depth. -/
def EndsInSplitting (tokens : List String) : Prop :=
  ∃ entry ∈ (entries tokens).getLast?, entry.value = none ∧
    ∃ name, Token.ofText entry.token = .named name ∧ name.toLower = "splitvariants"

/-- The first token is a number that can be the depth of that option. -/
def StartsWithDepth (tokens : List String) : Prop :=
  ∃ token ∈ tokens.head?, (Value.splitDepth? token).isSome = true

/-- Only one option splits variations. -/
theorem NamedOption.name_of_splitVariants {option : NamedOption} (listed : option ∈ all)
    (splits : option.action = .adjust .splitVariants) : option.name = "splitvariants" := by
  have every : ∀ option ∈ all, option.action = .adjust .splitVariants →
      option.name = "splitvariants" := by decide
  exact every option listed splits

/-- An option that is done without a value uses none, unless it splits variations. -/
theorem NamedOption.consumed_of_missing {option : NamedOption} (listed : option ∈ all)
    {session left : Session} (run : option.alone context "" session = .ok () left)
    (other : option.action ≠ .adjust .splitVariants) (next : String) :
    option.consumed next = .nameOnly := by
  have bare : option.takesValue = false := by
    cases takes : option.takesValue with
    | false => rfl
    | true => exact absurd run (alone_missing_ne_ok (needsValue_of_mem listed takes other))
  simp [consumed_eq listed other, bare]

/-- At the end of a command line no option uses a value. -/
theorem performNamed_missing {includeFile : String → Action Unit} {session left : Session}
    {consumed : Consumed}
    (run : performNamed context includeFile name "" session = .ok consumed left) :
    consumed = .nameOnly := by
  obtain ⟨option, found, rfl, does⟩ := performNamed_eq_ok run
  by_cases splits : option.action = .adjust .splitVariants
  · have empty : Value.splitDepth? "" = none := by decide
    simp [NamedOption.consumed_of_splitVariants splits, empty]
  · exact NamedOption.consumed_of_missing (List.mem_of_find?_eq_some found) does splits ""

/-- An entry that is done without a value leaves alone what comes after it, unless it splits
variations and a depth comes after it. -/
theorem usesNext_of_perform {next : String} {session left : Session}
    (run : Entry.perform context ⟨token, none⟩ session = .ok () left)
    (apart : ∀ name, Token.ofText token = .named name → name.toLower = "splitvariants" →
      Value.splitDepth? next = none) :
    usesNext token next = false := by
  cases means : Token.ofText token with
  | letter | source | bareDash => exact usesNext_of_not_named (by simp [means]) next
  | named name =>
    cases found : NamedOption.find? name with
    | none =>
      rw [Entry.perform_unknown means found] at run
      cases run
    | some option =>
      have listed : option ∈ NamedOption.all := List.mem_of_find?_eq_some found
      rw [usesNext_of_named means found]
      by_cases splits : option.action = .adjust .splitVariants
      · have same : option.name = name.toLower := by simpa using List.find?_some found
        have unread := apart name means (same ▸ NamedOption.name_of_splitVariants listed splits)
        simp [NamedOption.consumed_of_splitVariants splits, unread]
      · rw [Entry.perform_named means found] at run
        rw [NamedOption.consumed_of_missing listed run splits next]
        rfl

/-- The last entry of a command line that succeeds has the value that it needs. -/
theorem closed_of_succeeds {xs ys : List String} {session : Session}
    (succeeds : (resolve context xs).succeeds session = true)
    (apart : ¬ (EndsInSplitting xs ∧ StartsWithDepth ys)) :
    ∀ entry ∈ (entries xs).getLast?, entry.value = none →
      ∀ next ∈ ys.head?, usesNext entry.token next = false := by
  rintro ⟨token, _⟩ ends rfl next first
  obtain ⟨front, split⟩ := List.getLast?_eq_some_iff.mp ends
  obtain ⟨_, run⟩ := exists_ok_of_succeeds succeeds
  rw [resolve_eq_entries, split, List.forM_eq_forM, List.forM_append] at run
  obtain ⟨_, between, -, last⟩ := bind_ok run
  obtain ⟨_, left, does, -⟩ := bind_ok last
  apply usesNext_of_perform does
  intro name means splits
  cases depth : Value.splitDepth? next with
  | none => rfl
  | some _ =>
    exact absurd ⟨⟨_, ends, rfl, name, means, splits⟩, ⟨next, first, by rw [depth]; rfl⟩⟩ apart

/-- A way through a command line. Its tokens are taken from left to right, each of them once: as an
option, as the value of the option before it, or as a source. -/
inductive Walk (context : Context) : Session → List String → List Entry → Session → Prop
  | done {session : Session} : Walk context session [] [] session
  | named {session between left : Session} {token name : String} {later : List String}
      {rest : List Entry} (means : Token.ofText token = .named name)
      (does : performNamed context (readArgumentFile context) name (later.head?.getD "") session =
        .ok .nameOnly between)
      (goes : Walk context between later rest left) :
      Walk context session (token :: later) (⟨token, none⟩ :: rest) left
  | namedWithValue {session between left : Session} {token name value : String}
      {later : List String} {rest : List Entry} (means : Token.ofText token = .named name)
      (does : performNamed context (readArgumentFile context) name value session =
        .ok .nameAndValue between)
      (goes : Walk context between later rest left) :
      Walk context session (token :: value :: later) (⟨token, some value⟩ :: rest) left
  | letter {session between left : Session} {token value : String} {c : Char}
      {later : List String} {rest : List Entry} (means : Token.ofText token = .letter c value)
      (does : performLetter context c value session = .ok () between)
      (goes : Walk context between later rest left) :
      Walk context session (token :: later) (⟨token, none⟩ :: rest) left
  | source {session between left : Session} {token path : String} {later : List String}
      {rest : List Entry} (means : Token.ofText token = .source path)
      (does : addSource path .normal session = .ok () between)
      (goes : Walk context between later rest left) :
      Walk context session (token :: later) (⟨token, none⟩ :: rest) left

/-- A token that does not use the next one is walked past by itself. -/
theorem walk_of_unused {rest : List Entry} {session left : Session}
    (unused : ∀ next ∈ later.head?, usesNext token next = false)
    (goes : ∀ between, resolve context later between = .ok () left →
      Walk context between later rest left)
    (run : resolve context (token :: later) session = .ok () left) :
    Walk context session (token :: later) (⟨token, none⟩ :: rest) left := by
  rw [resolve.eq_def] at run
  cases means : Token.ofText token with
  | letter c value =>
    simp only [means] at run
    obtain ⟨_, between, does, follows⟩ := bind_ok run
    exact .letter means does (goes between follows)
  | source path =>
    simp only [means] at run
    obtain ⟨_, between, does, follows⟩ := bind_ok run
    exact .source means does (goes between follows)
  | bareDash =>
    simp only [means] at run
    cases run
  | named name =>
    simp only [means] at run
    obtain ⟨consumed, between, does, follows⟩ := bind_ok run
    cases consumed with
    | nameOnly => exact .named means does (goes between follows)
    | nameAndValue =>
      -- The option would use a token that is not there, or one that it does not use.
      cases later with
      | nil => cases performNamed_missing does
      | cons next rest =>
        obtain ⟨option, found, uses, -⟩ := performNamed_eq_ok does
        have both : option.consumed next = .nameAndValue := uses
        have used : usesNext token next = (option.consumed next == .nameAndValue) :=
          usesNext_of_named means found
        rw [unused next rfl, both] at used
        cases used

/-- A token that uses the next one is walked past together with that. -/
theorem walk_of_used {next : String} {rest : List Entry} {session left : Session}
    (used : usesNext token next = true)
    (goes : ∀ between, resolve context later between = .ok () left →
      Walk context between later rest left)
    (run : resolve context (token :: next :: later) session = .ok () left) :
    Walk context session (token :: next :: later) (⟨token, some next⟩ :: rest) left := by
  rw [resolve.eq_def] at run
  cases means : Token.ofText token with
  | letter | source | bareDash =>
    rw [usesNext_of_not_named (by simp [means])] at used
    cases used
  | named name =>
    simp only [means] at run
    obtain ⟨consumed, between, does, follows⟩ := bind_ok run
    obtain ⟨option, found, uses, -⟩ := performNamed_eq_ok does
    have both : option.consumed next = .nameAndValue := by
      rw [consumed_of_usesNext means found, used]
      rfl
    have same : consumed = .nameAndValue := uses.symm.trans both
    subst same
    exact .namedWithValue means does (goes between follows)

/-- A command line that succeeds is walked through in its entries. -/
theorem walk_of_ok {tokens : List String} {session left : Session}
    (run : resolve context tokens session = .ok () left) :
    Walk context session tokens (entries tokens) left := by
  induction tokens using entries.induct generalizing session with
  | case1 =>
    cases run
    exact .done
  | case2 token =>
    apply walk_of_unused (by simp) _ run
    rintro between ⟨⟩
    exact .done
  | case3 token next later used ih =>
    rw [entries, if_pos used]
    exact walk_of_used used (fun _ => ih) run
  | case4 token next later other ih =>
    have unused : ∀ other ∈ (next :: later).head?, usesNext token other = false := by
      rintro _ ⟨⟩
      exact Bool.eq_false_iff.mpr other
    rw [entries_of_unused unused]
    exact walk_of_unused unused (fun _ => ih) run

/-- Command lines compose. Where the first one succeeds, the two together do the same as one after
the other, unless the first one ends in the option that splits variations and the second one starts
with a depth for it. A command line that succeeds uses each of its tokens once, and none beyond its
end. -/
theorem commandLines_compose (context : Context) :
    (∀ xs ys session, (resolve context xs).succeeds session = true →
      ¬ (EndsInSplitting xs ∧ StartsWithDepth ys) →
      resolve context (xs ++ ys) session =
        (do resolve context xs; resolve context ys : Action Unit) session) ∧
    ∀ tokens session left, resolve context tokens session = .ok () left →
      Walk context session tokens (entries tokens) left ∧
        (entries tokens).flatMap Entry.tokens = tokens := by
  constructor
  · intro xs ys session succeeds apart
    have both := entries_append (closed_of_succeeds succeeds apart)
    rw [resolve_eq_entries, resolve_eq_entries context xs, resolve_eq_entries context ys, both,
      List.forM_eq_forM, List.forM_append]
  · intro tokens session left run
    exact ⟨walk_of_ok run, flatMap_tokens_entries tokens⟩

/-- A command line that ends in the option that splits variations can be followed by another option
and a source. -/
theorem commandLines_compose_splitting :
    resolve {} (["--stopafter", "3", "--SplitVariants"] ++ ["-s", "games"]) { disk := ⟨[], []⟩ } =
        (do
          resolve {} ["--stopafter", "3", "--SplitVariants"]
          resolve {} ["-s", "games"] : Action Unit) { disk := ⟨[], []⟩ } ∧
      Walk {} { disk := ⟨[], []⟩ } ["--stopafter", "3", "--SplitVariants"]
        [⟨"--stopafter", some "3"⟩, ⟨"--SplitVariants", none⟩]
        ((resolve {} ["--stopafter", "3", "--SplitVariants"]).after { disk := ⟨[], []⟩ }) := by
  have succeeds : (resolve {} ["--stopafter", "3", "--SplitVariants"]).succeeds
      { disk := ⟨[], []⟩ } = true := by
    decide +kernel
  obtain ⟨_, run⟩ := exists_ok_of_succeeds succeeds
  have split : entries ["--stopafter", "3", "--SplitVariants"] =
      [⟨"--stopafter", some "3"⟩, ⟨"--SplitVariants", none⟩] := by
    decide +kernel
  constructor
  · apply (commandLines_compose {}).1 _ _ _ succeeds
    rintro ⟨-, token, first, depth⟩
    cases first
    revert depth
    decide
  · rw [← split]
    exact ((commandLines_compose {}).2 _ _ _ run).1

/-- A depth that comes after it makes the difference. -/
example : resolve {} (["--SplitVariants"] ++ ["2"]) { disk := ⟨[], []⟩ } ≠
    (do resolve {} ["--SplitVariants"]; resolve {} ["2"] : Action Unit) { disk := ⟨[], []⟩ } := by
  intro same
  have sources := congrArg (fun left => left.registry.sources) (after_congr same)
  revert sources
  decide +kernel

end

end ExtractOptions
