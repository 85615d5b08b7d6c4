/-
Module: ExtractOptions.Proofs.Transcript.Entry
Purpose: a command line written down as the lines of an argument file. The command line falls into
  entries, each an option or a source with the token that the option uses as its value. On success,
  each entry does what its line does: an option finds the same value after its name, and one that
  uses no value does not look at the next token.
Main exports: Entry, Entry.line, entries, transcript, Entry.Begins,
  beginsWithEntry
-/
import ExtractOptions.Proofs.Disk.Written
import ExtractOptions.Proofs.Inclusion.Stack

namespace ExtractOptions

open Text ExtractOptions.Action

/-! ### Entries

An entry is what belongs together on a command line: a token and, if it is used, the one behind it.
An entry has a line that gives the same in an argument file. -/

/-- A token that gives an option or a source, and the token after it if the option uses that as its
value. -/
structure Entry where
  token : String
  value : Option String
deriving DecidableEq, Repr

namespace Entry

/-- The line of an argument file that gives the same. -/
def line (entry : Entry) : String :=
  match entry.value with
  | none => ":" ++ entry.token
  | some value => ":" ++ entry.token ++ " " ++ value

/-- The value, if one is used, starts where the spaces after the name end. -/
def IsApart (entry : Entry) : Prop :=
  ∀ value ∈ entry.value, value.toList.head? ≠ some ' '

instance (entry : Entry) : Decidable entry.IsApart :=
  inferInstanceAs (Decidable (∀ value ∈ entry.value, _))

end Entry

/-- The token gives an option that uses the next token as its value. -/
def usesNext (token next : String) : Bool :=
  match Token.ofText token with
  | .named name =>
    match NamedOption.find? name with
    | some option => option.consumed next == .nameAndValue
    | none => false
  | _ => false

/-- The entries of a command line. -/
def entries : List String → List Entry
  | [] => []
  | [token] => [⟨token, none⟩]
  | token :: next :: later =>
    if usesNext token next then ⟨token, some next⟩ :: entries later
    else ⟨token, none⟩ :: entries (next :: later)

/-- The lines that give what a command line gives. -/
def transcript (tokens : List String) : List String :=
  (entries tokens).map Entry.line

/-- An entry is made of tokens of its command line. -/
theorem mem_of_mem_entries {tokens : List String} {entry : Entry} (among : entry ∈ entries tokens) :
    entry.token ∈ tokens ∧ ∀ value ∈ entry.value, value ∈ tokens := by
  induction tokens using entries.induct with
  | case1 => cases among
  | case2 token =>
    rw [entries, List.mem_singleton] at among
    subst among
    simp
  | case3 token next later uses ih =>
    rw [entries, if_pos uses] at among
    rcases List.mem_cons.mp among with rfl | inside
    · simp
    · obtain ⟨listed, values⟩ := ih inside
      exact ⟨by simp [listed], fun value used => by simp [values value used]⟩
  | case4 token next later uses ih =>
    rw [entries, if_neg uses] at among
    rcases List.mem_cons.mp among with rfl | inside
    · simp
    · obtain ⟨listed, values⟩ := ih inside
      exact ⟨List.mem_cons_of_mem _ listed,
        fun value used => List.mem_cons_of_mem _ (values value used)⟩

theorem IsLine.append {first second : String} (head : IsLine first) (tail : IsLine second) :
    IsLine (first ++ second) := by
  refine ⟨?_, ?_⟩
  · rw [String.toList_append, List.mem_append, not_or]
    exact ⟨head.1, tail.1⟩
  · rw [String.toList_append, List.getLast?_append]
    cases last : second.toList.getLast? with
    | none => exact head.2
    | some c =>
      rw [Option.some_or, ← last]
      exact tail.2

/-- Tokens that can stand on lines have a transcript whose lines can be written. -/
theorem isLine_of_mem_transcript {tokens : List String} (lines : ∀ token ∈ tokens, IsLine token) :
    ∀ line ∈ transcript tokens, IsLine line := by
  intro line among
  obtain ⟨entry, listed, rfl⟩ := List.mem_map.mp among
  obtain ⟨token, values⟩ := mem_of_mem_entries listed
  have colon : IsLine ":" := by decide
  have space : IsLine " " := by decide
  have start := colon.append (lines entry.token token)
  unfold Entry.line
  cases used : entry.value with
  | none => exact start
  | some value => exact (start.append space).append (lines value (values value used))

/-! ### The forms of lines

How the reader of argument files takes the line of an entry. A name and its value are told apart by
the first space, so the name must have none. -/

namespace LineForm

/-- The form of a line that gives an option by name. -/
theorem ofText_named {line : String} {text : List Char}
    (chars : line.toList = ':' :: '-' :: '-' :: text) :
    ofText line =
      named (splitNamed (String.ofList text)).1 (splitNamed (String.ofList text)).2 := by
  have directive : directiveLetter? line = some '-' := by simp [directiveLetter?, chars]
  have known : LetterOption.ofLetter? '-' = some .named := by decide
  rw [ofText_of_some directive, known, chars]
  rfl

/-- The form of a line that names a source. -/
theorem ofText_source {line : String} {path : List Char} (chars : line.toList = ':' :: path)
    (undashed : path.head? ≠ some '-') : ofText line = source (String.ofList path) := by
  have plain : directiveLetter? line = none := by
    unfold directiveLetter?
    rw [chars]
    split
    · rename_i same
      cases same
      exact absurd rfl undashed
    · rfl
  have colon : isBlank ':' = false := by decide
  have full : isBlankText line = false := by simp [isBlankText, chars, colon]
  rw [ofText_of_none plain, full, chars]
  rfl

end LineForm

/-- A name without spaces ends where the text does. -/
theorem splitNamed_of_notMem {name : String} (single : ' ' ∉ name.toList) :
    splitNamed name = (name, "") := by
  unfold splitNamed
  rw [cut?_eq_none_iff.mpr single]

/-- A name without spaces and a value that starts with none are told apart. -/
theorem splitNamed_append {name value : String} (single : ' ' ∉ name.toList)
    (apart : value.toList.head? ≠ some ' ') :
    splitNamed (name ++ " " ++ value) = (name, value) := by
  have chars : (name ++ " " ++ value).toList = name.toList ++ ' ' :: value.toList := by
    rw [String.toList_append, String.toList_append, List.append_assoc]
    rfl
  unfold splitNamed
  rw [chars, cut?_append name.toList value.toList single]
  simp only [String.ofList_toList, skipSpaces_of_head? apart]

/-! ### The meanings of tokens

A token is taken by its first characters. Each meaning determines how the token is written. -/

namespace Token

/-- A token that gives a name is two dashes and the name. -/
theorem eq_of_ofText_named {text name : String} (means : ofText text = .named name) :
    text.toList = '-' :: '-' :: name.toList := by
  unfold ofText at means
  split at means <;> cases means
  rename_i chars
  rw [chars, String.toList_ofList]

/-- A token that gives a letter is a dash, the letter and the value. -/
theorem eq_of_ofText_letter {text value : String} {c : Char}
    (means : ofText text = .letter c value) :
    c ≠ '-' ∧ text.toList = '-' :: c :: value.toList := by
  unfold ofText at means
  split at means <;> cases means
  rename_i other chars
  exact ⟨other, by rw [chars, String.toList_ofList]⟩

/-- Any other token is a source, and does not start with a dash. -/
theorem eq_of_ofText_source {text path : String} (means : ofText text = .source path) :
    path = text ∧ text.toList.head? ≠ some '-' := by
  unfold ofText at means
  split at means <;> cases means
  rename_i other another bare
  refine ⟨rfl, fun dash => ?_⟩
  cases chars : text.toList with
  | nil =>
    rw [chars] at dash
    cases dash
  | cons c rest =>
    rw [chars] at dash
    cases dash
    cases rest with
    | nil => exact bare chars
    | cons d rest => exact another d rest chars

end Token

/-! ### Options that use no value

On a command line an option meets the next token even if it does not use it; on a line of its own it
meets nothing. For an option that reads no value the two are the same. -/

/-- What the adjustment does depends on the value of its option. -/
def Adjustment.readsValue : Adjustment → Bool
  | splitVariants | dropBefore | dropPly | lineMarker | markMatches | firstGame | gameLimit
  | fuzzyDepth | searchDepth | pieceCount | plyLimit | quietPly | startPly | stopAfter | selectOnly
  | skipMatching | bound _ | ecoLevel | gamesPerFile => true
  | turn .. | verbosity _ | ending _ | winner _ | sideToMove _ | setupTags _ | moveRule _
  | repetition _ | onlyCommented | dropComments | dropVariations | dropDuplicates | sevenTagRoster
  | noTags | onlyWantedTags => false

/-- An adjustment that reads no value does the same with any. -/
theorem Adjustment.apply_of_readsValue {adjustment : Adjustment}
    (reads : adjustment.readsValue = false) (option : OptionName) (value other : String)
    (config : Config) :
    adjustment.apply option value config = adjustment.apply option other config := by
  cases adjustment with
  | turn | verbosity | ending | winner | sideToMove | setupTags | moveRule | repetition
  | onlyCommented | dropComments | dropVariations | dropDuplicates | sevenTagRoster | noTags
  | onlyWantedTags => rfl
  | splitVariants | dropBefore | dropPly | lineMarker | markMatches | firstGame | gameLimit
  | fuzzyDepth | searchDepth | pieceCount | plyLimit | quietPly | startPly | stopAfter | selectOnly
  | skipMatching | bound | ecoLevel | gamesPerFile => cases reads

/-- What the action does depends on the value, beyond what a letter gets of it. -/
def NamedAction.readsValue : NamedAction → Bool
  | adjust adjustment => adjustment.readsValue
  | letter _ | fenComments | version => false
  | bound .. | suppressTag | fenPattern _ | material _ => true

namespace NamedOption

/-- Options without a placeholder do not look at the value. -/
theorem readsValue_of_mem {option : NamedOption} (listed : option ∈ all)
    (bare : option.takesValue = false) : option.action.readsValue = false := by
  have every : ∀ option ∈ all, option.takesValue = false → option.action.readsValue = false := by
    decide
  exact every option listed bare

/-- Whether an option uses the value goes by its placeholder, but for the one whose depth may be left
out. -/
theorem consumed_eq {option : NamedOption} (listed : option ∈ all)
    (other : option.action ≠ .adjust .splitVariants) (value : String) :
    option.consumed value = if option.takesValue then .nameAndValue else .nameOnly := by
  have every : ∀ option ∈ all, option.action ≠ .adjust .splitVariants →
      option.consumed "" = if option.takesValue then .nameAndValue else .nameOnly := by decide
  have same : option.consumed value = option.consumed "" := by
    unfold consumed
    cases does : option.action with
    | adjust adjustment =>
      cases adjustment with
      | splitVariants => exact absurd does other
      | _ => rfl
    | _ => rfl
  rw [same]
  exact every option listed other

/-- A depth is used exactly if it is a number. -/
theorem consumed_of_splitVariants {option : NamedOption}
    (splits : option.action = .adjust .splitVariants) (value : String) :
    option.consumed value =
      if (Value.splitDepth? value).isSome then .nameAndValue else .nameOnly := by
  simp only [consumed, splits, Adjustment.consumed]

/-- An option that used its name alone takes no value. -/
theorem takesValue_of_nameOnly {option : NamedOption} (listed : option ∈ all) {value : String}
    (only : option.consumed value = .nameOnly) (other : option.action ≠ .adjust .splitVariants) :
    option.takesValue = false := by
  rw [consumed_eq listed other] at only
  cases takes : option.takesValue with
  | false => rfl
  | true => simp [takes] at only

/-- A depth that is no number is not read at all. -/
theorem splitDepth?_of_nameOnly {option : NamedOption} {value : String}
    (only : option.consumed value = .nameOnly) (splits : option.action = .adjust .splitVariants) :
    Value.splitDepth? value = none := by
  rw [consumed_of_splitVariants splits] at only
  cases depth : Value.splitDepth? value with
  | none => rfl
  | some _ => simp [depth] at only

/-- An option that uses its name alone does the same whatever follows. -/
theorem alone_of_nameOnly (context : Context) {option : NamedOption} (listed : option ∈ all)
    {value : String} (only : option.consumed value = .nameOnly) :
    option.alone context value = option.alone context "" := by
  unfold alone effect
  by_cases splits : option.action = .adjust .splitVariants
  · have unread := splitDepth?_of_nameOnly only splits
    have empty : Value.splitDepth? "" = none := by decide
    have same : Adjustment.splitVariants.apply (.named option.name) value =
        Adjustment.splitVariants.apply (.named option.name) "" := by
      funext config
      simp only [Adjustment.apply, unread, empty]
    simp only [splits, same]
  · have bare := takesValue_of_nameOnly listed only splits
    have reads := readsValue_of_mem listed bare
    cases does : option.action with
    | adjust adjustment =>
      rw [does] at reads
      have same : adjustment.apply (.named option.name) value =
          adjustment.apply (.named option.name) "" :=
        funext fun config => adjustment.apply_of_readsValue reads _ _ _ config
      simp only [same]
    | letter letter => simp [bare]
    | fenComments | version => rfl
    | bound | suppressTag | fenPattern | material =>
      rw [does] at reads
      cases reads

/-- No option has a space in its name. -/
theorem space_notMem_of_find? {name : String} {option : NamedOption}
    (found : find? name = some option) : ' ' ∉ name.toList := by
  have listed : option ∈ all := List.mem_of_find?_eq_some found
  have same : option.name = name.toLower := by simpa using List.find?_some found
  have every : ∀ option ∈ all, ' ' ∉ option.name.toList := by decide +kernel
  intro present
  have lower : ' ' ∈ (name.map Char.toLower).toList := by
    rw [String.toList_map]
    exact List.mem_map.mpr ⟨' ', present, rfl⟩
  exact every option listed (same ▸ lower)

end NamedOption

/-! ### Entries and their lines

What is to be shown of a command line, entry by entry: the entry does what its line does, with the
same options given on the way. -/

section

variable {context : Context}

/-- The two options do the same on the same session, whatever their values are. -/
structure Given.Agrees (context : Context) (one other : Given) : Prop where
  session : other.session = one.session
  alone : other.alone context = one.alone context
  file? : other.file? = one.file?

/-- A command line that succeeds begins with an entry that does what its line does, and goes on with
the tokens after it. -/
structure Entry.Begins (context : Context) (tokens : List String) (session left : Session)
    (entry : Entry) (rest : List String) (between : Session) : Prop where
  entries_eq : entries tokens = entry :: entries rest
  does : ∀ origin before,
    lineAction context (readArgumentFile context) origin before entry.line session = .ok () between
  goes : resolve context rest between = .ok () left
  given : ∀ one ∈ givenInLine context (givenReading context) entry.line session,
    ∃ other ∈ givenResolving context tokens session, one.Agrees context other
  later : givenResolving context rest between ⊆ givenResolving context tokens session

/-- The command line of the token and those after it begins with some entry. -/
def BeginsWithEntry (context : Context) (token : String) (later : List String)
    (session left : Session) : Prop :=
  ∃ entry rest between, Entry.Begins context (token :: later) session left entry rest between

/-! ### The first entry of a command line

By cases on the meaning of the first token. Each gives an entry, and the rest of the command line is
left. -/

section Begins

variable {token : String} {later : List String} {session left : Session}

theorem usesNext_of_named {name next : String} (means : Token.ofText token = .named name)
    {option : NamedOption} (found : NamedOption.find? name = some option) :
    usesNext token next = (option.consumed next == .nameAndValue) := by
  unfold usesNext
  simp only [means, found]

/-- Only a name may use the next token. -/
theorem usesNext_of_not_named (other : ∀ name, Token.ofText token ≠ .named name) (next : String) :
    usesNext token next = false := by
  unfold usesNext
  split
  · rename_i name means
    exact absurd means (other name)
  · rfl

/-- A token that leaves the next one alone is an entry by itself. -/
theorem entries_of_unused (unused : ∀ next ∈ later.head?, usesNext token next = false) :
    entries (token :: later) = ⟨token, none⟩ :: entries later := by
  cases later with
  | nil => rfl
  | cons next later =>
    rw [entries, unused next rfl]
    rfl

/-- The line of an option that is given by name has the name and the value. -/
theorem Entry.ofText_line_named {entry : Entry} {name : String}
    (means : Token.ofText entry.token = .named name) (unspaced : ' ' ∉ name.toList)
    (apart : entry.IsApart) :
    LineForm.ofText entry.line = .named name (entry.value.getD "") := by
  have chars := Token.eq_of_ofText_named means
  unfold Entry.line
  cases used : entry.value with
  | none =>
    have line : (":" ++ entry.token).toList = ':' :: '-' :: '-' :: name.toList := by
      rw [String.toList_append, chars]
      rfl
    simp only [LineForm.ofText_named line, String.ofList_toList, splitNamed_of_notMem unspaced,
      Option.getD_none]
  | some value =>
    have line : (":" ++ entry.token ++ " " ++ value).toList =
        ':' :: '-' :: '-' :: (name ++ " " ++ value).toList := by
      simp only [String.toList_append, chars]
      rfl
    simp only [LineForm.ofText_named line, String.ofList_toList,
      splitNamed_append unspaced (apart value used), Option.getD_some]

/-- The options given from a name on: its own, and those of the tokens that it leaves. -/
theorem givenResolving_named {name : String} (means : Token.ofText token = .named name)
    {consumed : Consumed} {between : Session}
    (done : performNamed context (readArgumentFile context) name (later.head?.getD "") session =
      .ok consumed between) :
    givenResolving context (token :: later) session =
      givenByName name (later.head?.getD "") session ++
        givenResolving context (later.drop (consumed.tokens - 1)) between := by
  rw [givenResolving.eq_def]
  simp only [means]
  rw [Trace.andThen_of_ok done]
  cases consumed with
  | nameOnly => rfl
  | nameAndValue => cases later <;> rfl

/-- The options given from a letter on: its own, and those of the tokens behind it. -/
theorem givenResolving_letter {c : Char} {value : String}
    (means : Token.ofText token = .letter c value) {option : LetterOption}
    (known : LetterOption.ofLetter? c = some option) :
    givenResolving context (token :: later) =
      (option.given context (givenReading context) value).andThen (performLetter context c value)
        fun _ => givenResolving context later := by
  rw [givenResolving.eq_def]
  simp only [means, known]

/-- A source gives no option. -/
theorem givenResolving_source {path : String} (means : Token.ofText token = .source path) :
    givenResolving context (token :: later) =
      Trace.silent.andThen (Action.addSource path .normal) fun _ =>
        givenResolving context later := by
  rw [givenResolving.eq_def]
  simp only [means]

/-- An option that is given by name begins the command line with what it does on a line. The option
may be listed with another value, if it does the same with that. -/
theorem Entry.begins_of_option {name value : String} {option : NamedOption} {entry : Entry}
    {rest : List String} {between : Session} (means : Token.ofText entry.token = .named name)
    (found : NamedOption.find? name = some option) (apart : entry.IsApart)
    (split : entries (token :: later) = entry :: entries rest)
    (same : option.alone context (entry.value.getD "") = option.alone context value)
    (does : option.alone context value session = .ok () between)
    (goes : resolve context rest between = .ok () left)
    (given : givenResolving context (token :: later) session =
      ⟨.named option, value, session⟩ :: givenResolving context rest between) :
    Entry.Begins context (token :: later) session left entry rest between := by
  have form : LineForm.ofText entry.line = .named name (entry.value.getD "") :=
    Entry.ofText_line_named means (NamedOption.space_notMem_of_find? found) apart
  have alone : option.alone context (entry.value.getD "") session = .ok () between := by
    rw [same, does]
  refine ⟨split, fun _ _ => (lineAction_named_iff form).mpr ⟨option, found, alone⟩, goes, ?_, ?_⟩
  · intro one among
    unfold givenInLine givenByName at among
    simp only [form, found, List.mem_singleton] at among
    subst among
    refine ⟨⟨.named option, value, session⟩, ?_, ⟨rfl, same.symm, rfl⟩⟩
    rw [given]
    exact List.mem_cons_self
  · rw [given]
    exact List.subset_cons_self _ _

/-- An option that is given by name makes an entry with the next token, if it uses that. -/
theorem begins_named {name : String} (means : Token.ofText token = .named name)
    (apart : ∀ entry ∈ entries (token :: later), entry.IsApart)
    (run : resolve context (token :: later) session = .ok () left) :
    BeginsWithEntry context token later session left := by
  rw [resolve.eq_def] at run
  simp only [means] at run
  obtain ⟨consumed, between, done, goes⟩ := bind_ok run
  obtain ⟨option, found, uses, does⟩ := performNamed_eq_ok done
  have listed : option ∈ NamedOption.all := List.mem_of_find?_eq_some found
  have given := givenResolving_named means done
  unfold givenByName at given
  simp only [found, List.singleton_append] at given
  cases consumed with
  | nameOnly =>
    have unused : ∀ next ∈ later.head?, usesNext token next = false := by
      intro next first
      rw [first, Option.getD_some] at uses
      rw [usesNext_of_named means found, uses]
      rfl
    have split := entries_of_unused unused
    have same := (NamedOption.alone_of_nameOnly context listed uses).symm
    exact ⟨⟨token, none⟩, later, between,
      Entry.begins_of_option means found (apart _ (by simp [split])) split same does goes given⟩
  | nameAndValue =>
    cases later with
    | nil =>
      exact ⟨⟨token, none⟩, [], between,
        Entry.begins_of_option means found (apart _ List.mem_cons_self) rfl rfl does goes given⟩
    | cons next rest =>
      have used : usesNext token next = true := by
        rw [List.head?_cons, Option.getD_some] at uses
        rw [usesNext_of_named means found, uses]
        rfl
      have split : entries (token :: next :: rest) = ⟨token, some next⟩ :: entries rest := by
        rw [entries, if_pos used]
      exact ⟨⟨token, some next⟩, rest, between,
        Entry.begins_of_option means found (apart _ (by simp [split])) split rfl does goes given⟩

/-- A token that does what its line does, and uses no other token, is an entry by itself. -/
theorem begins_alone {action : Action Unit} {trace : Trace}
    (unnamed : ∀ name, Token.ofText token ≠ .named name)
    (does : ∀ origin before,
      lineAction context (readArgumentFile context) origin before (":" ++ token) = action)
    (lists : givenInLine context (givenReading context) (":" ++ token) session ⊆ trace session)
    (resolves : resolve context (token :: later) = action >>= fun _ => resolve context later)
    (follows : givenResolving context (token :: later) =
      trace.andThen action fun _ => givenResolving context later)
    (run : resolve context (token :: later) session = .ok () left) :
    BeginsWithEntry context token later session left := by
  rw [resolves] at run
  obtain ⟨_, between, done, goes⟩ := bind_ok run
  have given : givenResolving context (token :: later) session = _ :=
    (congrFun follows session).trans (Trace.andThen_of_ok done)
  refine ⟨⟨token, none⟩, later, between, ?_, fun origin before => ?_, goes, fun one among => ?_, ?_⟩
  · exact entries_of_unused fun next _ => usesNext_of_not_named unnamed next
  · exact (congrFun (does origin before) session).trans done
  · exact ⟨one, by rw [given]; exact List.mem_append_left _ (lists among), ⟨rfl, rfl, rfl⟩⟩
  · rw [given]
    exact List.subset_append_right _ _

/-- A letter makes an entry by itself. -/
theorem begins_letter {c : Char} {value : String} (means : Token.ofText token = .letter c value)
    (run : resolve context (token :: later) session = .ok () left) :
    BeginsWithEntry context token later session left := by
  obtain ⟨undashed, chars⟩ := Token.eq_of_ofText_letter means
  have resolves : resolve context (token :: later) =
      performLetter context c value >>= fun _ => resolve context later := by
    rw [resolve.eq_def]
    simp only [means]
  cases known : LetterOption.ofLetter? c with
  | none =>
    rw [resolves] at run
    unfold performLetter at run
    rw [known] at run
    cases run
  | some option =>
    have own := LetterOption.letter_of_ofLetter? known
    have form : LineForm.ofText (":" ++ token) = .letter option value := by
      refine LineForm.ofText_eq_letter_iff.mpr ⟨?_, ?_⟩
      · rintro rfl
        exact undashed own.symm
      · have line : (":" ++ token).toList = ':' :: '-' :: c :: value.toList := by
          rw [String.toList_append, chars]
          rfl
        apply String.toList_injective
        rw [Directive.render, Directive.toList_written, line, own]
        rfl
    refine begins_alone (by simp [means]) (fun origin before => ?_) ?_ resolves
      (givenResolving_letter means known) run
    · unfold lineAction performLetter
      simp only [form, known]
    · unfold givenInLine
      simp only [form]
      exact List.Subset.refl _

/-- A source makes an entry by itself. -/
theorem begins_source {path : String} (means : Token.ofText token = .source path)
    (run : resolve context (token :: later) session = .ok () left) :
    BeginsWithEntry context token later session left := by
  obtain ⟨rfl, undashed⟩ := Token.eq_of_ofText_source means
  have chars : (":" ++ path).toList = ':' :: path.toList := by
    rw [String.toList_append]
    rfl
  have form : LineForm.ofText (":" ++ path) = .source path := by
    rw [LineForm.ofText_source chars undashed, String.ofList_toList]
  refine begins_alone (by simp [means]) (fun origin before => ?_) ?_ ?_
    (givenResolving_source means) run
  · unfold lineAction
    simp only [form]
  · unfold givenInLine
    simp only [form]
    exact List.Subset.refl _
  · rw [resolve.eq_def]
    simp only [means]

/-- A command line that succeeds begins with an entry, if it is not empty. -/
theorem beginsWithEntry (apart : ∀ entry ∈ entries (token :: later), entry.IsApart)
    (run : resolve context (token :: later) session = .ok () left) :
    BeginsWithEntry context token later session left := by
  cases means : Token.ofText token with
  | named name => exact begins_named means apart run
  | letter c value => exact begins_letter means run
  | source path => exact begins_source means run
  | bareDash =>
    rw [resolve.eq_def] at run
    simp only [means] at run
    cases run

end Begins

end

end ExtractOptions
