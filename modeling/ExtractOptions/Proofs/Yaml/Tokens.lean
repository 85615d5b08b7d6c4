/-
Module: ExtractOptions.Proofs.Yaml.Tokens
Purpose: the tokens of a mapping that is written with one entry on each line, the value plain or in
  single quotes. Between two lines the reader is at an entry: in the first column, where a key may
  start, within the mapping or in front of it. Three steps take it through a line to the next one.
Main exports: isPlainCharacter, EntryLine, EntryLine.IsSimple, Flat, Flat.WithinMapping,
  Flat.exists_run?_line, Flat.run?_lines, tokens?_lines
-/
import Mathlib.Data.List.TakeWhile
import ExtractOptions.Yaml.Lexer

namespace ExtractOptions.Yaml

/-! ### Simple lines

The settings file is written in a small part of YAML. A simple line is a key, a colon and a value
that is plain or in single quotes, and nothing of this spans lines. -/

/-- A letter, a digit, or one of the marks that stand for themselves everywhere in a scalar. -/
def isPlainCharacter (c : Char) : Bool :=
  c.isAlphanum || c == '/' || c == '.' || c == '_' || c == '-'

/-- One entry of a mapping on a line of its own. -/
structure EntryLine where
  key : List Char
  style : ScalarStyle
  text : List Char

namespace EntryLine

/-- The value as it is written. -/
def value (line : EntryLine) : List Char :=
  match line.style with
  | .plain => line.text
  | .text => '\'' :: line.text ++ ['\'']

/-- The line with its end. -/
def written (line : EntryLine) : List Char :=
  line.key ++ ':' :: ' ' :: (line.value ++ ['\n'])

/-- The tokens of the line. -/
def tokens (line : EntryLine) : List Token :=
  [.key, .scalar .plain (String.ofList line.key), .value,
    .scalar line.style (String.ofList line.text)]

/-- The key is a word, and the value can stand as it does. -/
structure IsSimple (line : EntryLine) : Prop where
  named : line.key ≠ []
  short : line.key.length ≤ keyLength
  word : ∀ c ∈ line.key, c.isAlpha = true ∨ c = '_'
  characters : ∀ c ∈ line.text, isPlainCharacter c = true
  standing : line.style = .plain → line.text ≠ [] ∧ line.text ≠ ['-']

end EntryLine

/-! ### Plain characters

These characters mean nothing to the lexer wherever they stand, so a word of them is read as it
stands. -/

/-- A plain character is no white space. -/
theorem not_spacing_of_plain {c : Char} (plain : isPlainCharacter c = true) :
    isSpacing c = false := by
  cases spacing : isSpacing c with
  | false => rfl
  | true =>
    simp only [isSpacing, isGap, Bool.or_eq_true, beq_iff_eq] at spacing
    rcases spacing with (rfl | rfl) | rfl <;> revert plain <;> decide

/-- A plain character is none of those that are not plain. -/
theorem ne_of_plain {c d : Char} (plain : isPlainCharacter c = true)
    (other : isPlainCharacter d = false) : c ≠ d := by
  rintro rfl
  rw [plain] at other
  cases other

/-- A plain character is content, and starts no comment. -/
theorem content_of_plain {c : Char} (plain : isPlainCharacter c = true) :
    isSpacing c = false ∧ c ≠ '#' :=
  ⟨not_spacing_of_plain plain, ne_of_plain plain (by decide)⟩

/-- The characters of a key are plain. -/
theorem plain_of_word {c : Char} (word : c.isAlpha = true ∨ c = '_') :
    isPlainCharacter c = true := by
  rcases word with letter | rfl
  · simp [isPlainCharacter, Char.isAlphanum, letter]
  · rfl

/-- A line starts with its key. -/
theorem EntryLine.IsSimple.content {line : EntryLine} (simple : line.IsSimple) (rest : List Char) :
    ∀ c ∈ (line.written ++ rest).head?, isSpacing c = false ∧ c ≠ '#' := by
  obtain ⟨c, more, named⟩ := List.exists_cons_of_ne_nil simple.named
  have first := content_of_plain (plain_of_word (simple.word c (by simp [named])))
  simpa [written, named] using first

/-- A word of plain characters is read as it stands. -/
theorem plainWord_append {cs : List Char} (plain : ∀ c ∈ cs, isPlainCharacter c = true)
    (rest : List Char) : plainWord false (cs ++ rest) = cs ++ plainWord false rest := by
  induction cs with
  | nil => rfl
  | cons c cs ih =>
    obtain ⟨here, later⟩ := List.forall_mem_cons.mp plain
    have colon : (c == ':') = false := beq_eq_false_iff_ne.mpr (ne_of_plain here (by decide))
    rw [List.cons_append, plainWord]
    simp [not_spacing_of_plain here, continuesPlain, colon, ih later]

namespace Cursor

/-- What does not start with a mark is no document mark. -/
theorem atMark_of_head {cursor : Cursor} {mark : Char} (head : cursor.rest.head? ≠ some mark) :
    cursor.atMark mark = false := by
  unfold atMark
  split
  · rename_i a b c rest chars
    have differs : (a == mark) = false := by
      rw [beq_eq_false_iff_ne]
      rintro rfl
      simp [chars] at head
    simp [differs]
  · simp

/-- Marks of documents stand in the first column only. -/
theorem atMark_of_column {cursor : Cursor} (mark : Char) (column : cursor.column ≠ 0) :
    cursor.atMark mark = false := by
  have inside : (cursor.column == 0) = false := beq_eq_false_iff_ne.mpr column
  simp [atMark, inside]

/-- Within a line no document mark can stand. -/
theorem atDocumentMark_of_column {cursor : Cursor} (column : cursor.column ≠ 0) :
    cursor.atDocumentMark = false := by
  rw [atDocumentMark, atMark_of_column _ column, atMark_of_column _ column]
  rfl

/-- Content starts here. -/
def AtContent (cursor : Cursor) : Prop :=
  ∀ c ∈ cursor.rest.head?, isSpacing c = false ∧ c ≠ '#'

/-- Where content starts, nothing is skipped. -/
theorem toContent?_of_atContent {cursor : Cursor} (content : cursor.AtContent) (least : Int)
    (fuel : Nat) : cursor.toContent? least fuel = some cursor := by
  cases fuel with
  | zero => rfl
  | succ fuel =>
    unfold toContent?
    unfold AtContent at content
    split
    · rename_i chars
      simp [chars, isSpacing] at content
    · rename_i chars
      simp [chars] at content
    · rename_i chars
      simp [chars, isSpacing, isGap] at content
    · rename_i chars
      simp [chars, isSpacing, isGap] at content
    · rfl

/-- Going on by some characters leaves the rest without them. -/
theorem past_rest (count : Nat) (cursor : Cursor) :
    (cursor.past count).rest = cursor.rest.drop count := by
  cases count <;> rfl

theorem restOfLine?_of_break {cursor : Cursor} {rest : List Char}
    (chars : cursor.rest = '\n' :: rest) : cursor.restOfLine? = some cursor := by
  obtain ⟨_, line, column, fresh⟩ := cursor
  simp only at chars
  subst chars
  rfl

end Cursor

/-! ### Plain scalars

A plain scalar ends where a colon with a space, or the end of its line, is met. Both ends occur: the
first ends a key, the second a value. -/

section Plain

variable {cs rest : List Char} {cursor : Cursor} {least : Int}

/-- A plain scalar of one word that a colon ends. -/
theorem plainScalar?_colon (plain : ∀ c ∈ cs, isPlainCharacter c = true) (named : cs ≠ [])
    (chars : cursor.rest = cs ++ ':' :: ' ' :: rest) (unmarked : cursor.atDocumentMark = false)
    (fuel : Nat) :
    plainScalar? false least (fuel + 1) {} cursor = some (cs, cursor.past cs.length) := by
  have word : plainWord false cursor.rest = cs := by
    rw [chars, plainWord_append plain]
    simp [plainWord, continuesPlain, endsWord, isSpacing, isGap]
  have head : cursor.rest.head? ≠ some '#' := by
    obtain ⟨c, later, rfl⟩ := List.exists_cons_of_ne_nil named
    rw [chars]
    simpa using ne_of_plain (plain c List.mem_cons_self) (by decide)
  have after : (cursor.past cs.length).rest = ':' :: ' ' :: rest := by
    simp [Cursor.past, named, chars]
  have pause : Pause.text {} cursor.fresh = [] := by
    cases cursor.fresh <;> rfl
  rw [plainScalar?]
  simp [unmarked, head, word, named, after, pause, isSpacing, isGap]

/-- A plain scalar of one word that ends with its line, in front of content in the first column. -/
theorem plainScalar?_line (plain : ∀ c ∈ cs, isPlainCharacter c = true) (named : cs ≠ [])
    (chars : cursor.rest = cs ++ '\n' :: rest) (unmarked : cursor.atDocumentMark = false)
    (content : ∀ c ∈ rest.head?, isSpacing c = false) (right : 0 < least) (fuel : Nat) :
    plainScalar? false least (fuel + 1) {} cursor =
      some (cs, (cursor.past cs.length).pastBreak) := by
  have word : plainWord false cursor.rest = cs := by
    rw [chars, plainWord_append plain]
    simp [plainWord, isSpacing]
  have head : cursor.rest.head? ≠ some '#' := by
    obtain ⟨c, later, rfl⟩ := List.exists_cons_of_ne_nil named
    rw [chars]
    simpa using ne_of_plain (plain c List.mem_cons_self) (by decide)
  have after : (cursor.past cs.length).rest = '\n' :: rest := by
    simp [Cursor.past, named, chars]
  have text : Pause.text {} cursor.fresh = [] := by
    cases cursor.fresh <;> rfl
  have beyond : ((cursor.past cs.length).pastBreak).rest = rest := by
    simp [Cursor.pastBreak, after]
  -- One line break is passed, and then nothing more.
  have paused : plainPause? least (rest.length + 1 + 1) {} (cursor.past cs.length) =
      some (Pause.addBreak {} (cursor.past cs.length).fresh,
        (cursor.past cs.length).pastBreak) := by
    rw [plainPause?]
    simp only [after]
    rw [plainPause?, beyond]
    cases rest with
    | nil => rfl
    | cons c later =>
      have still := content c rfl
      simp only [isSpacing, Bool.or_eq_false_iff, beq_eq_false_iff_ne] at still
      split
      · rename_i same
        cases same
        exact absurd rfl still.2
      · rename_i same
        cases same
        simp [still.1]
      · rename_i same
        cases same
  have left : ((cursor.past cs.length).pastBreak).column < least := right
  rw [plainScalar?]
  simp [unmarked, head, word, named, after, text, isSpacing, paused, left]

end Plain

/-! ### Scalars in single quotes

Between the quotes the characters stand for themselves, and the closing quote is followed by the end
of the line. -/

theorem Cursor.past_past (first second : Nat) (cursor : Cursor) :
    (cursor.past first).past second = cursor.past (first + second) := by
  cases first with
  | zero => rw [Nat.zero_add]; rfl
  | succ first =>
    cases second with
    | zero => rfl
    | succ second =>
      simp [past]
      omega

section Quoted

variable {cs rest : List Char} {cursor : Cursor} {fuel : Nat}

/-- A quoted word of plain characters is read up to the closing quote. -/
theorem quotedWord?_plain (plain : ∀ c ∈ cs, isPlainCharacter c = true)
    (chars : cursor.rest = cs ++ '\'' :: '\n' :: rest) (room : cs.length < fuel) :
    quotedWord? '\'' fuel cursor = some (cs, false, cursor.past cs.length) := by
  induction cs generalizing cursor fuel with
  | nil =>
    obtain ⟨more, rfl⟩ := Nat.exists_eq_add_of_lt room
    rw [quotedWord?]
    simp [chars, isSpacing, isGap, Cursor.past]
  | cons c cs ih =>
    obtain ⟨here, later⟩ := List.forall_mem_cons.mp plain
    obtain ⟨more, rfl⟩ := Nat.exists_eq_add_of_lt room
    have quote : c ≠ '\'' := ne_of_plain here (by decide)
    have beyond : cursor.next.rest = cs ++ '\'' :: '\n' :: rest := by
      simp [Cursor.next, Cursor.past, chars]
    have read : quotedWord? '\'' (cs.length + 1 + more) cursor.next = _ :=
      ih later beyond (by omega)
    have ends : cursor.next.past cs.length = cursor.past (cs.length + 1) := by
      rw [Cursor.next, Cursor.past_past, Nat.add_comm]
    rw [List.length_cons, quotedWord?]
    simp [chars, not_spacing_of_plain here, quote, read, ends]

/-- A scalar in single quotes without a quote in it. -/
theorem quotedScalar?_plain {least : Int} (plain : ∀ c ∈ cs, isPlainCharacter c = true)
    (chars : cursor.rest = '\'' :: cs ++ '\'' :: '\n' :: rest)
    (right : least ≤ cursor.column + 1) :
    quotedScalar? '\'' least cursor = some (cs, cursor.past (cs.length + 2)) := by
  have inside : cursor.next.rest = cs ++ '\'' :: '\n' :: rest := by
    simp [Cursor.next, Cursor.past, chars]
  have column : cursor.next.column = cursor.column + 1 := rfl
  have unmarked : cursor.next.atDocumentMark = false :=
    Cursor.atDocumentMark_of_column (Nat.succ_ne_zero _)
  have more : cursor.next.rest.isEmpty = false := by simp [inside]
  have within : ¬ (cursor.next.column : Int) < least := by
    rw [column]
    omega
  have word := quotedWord?_plain plain inside (Nat.lt_succ_of_le
    (show cs.length ≤ cursor.next.rest.length by simp [inside]))
  have closing : (cursor.next.past cs.length).rest.head? = some '\'' := by
    cases cs <;> simp [Cursor.past, inside]
  have ends : (cursor.next.past cs.length).next = cursor.past (cs.length + 2) := by
    rw [Cursor.next, Cursor.next, Cursor.past_past, Cursor.past_past]
    congr 1
    omega
  rw [quotedScalar?, quotedRest?]
  simp [unmarked, more, within, word, closing, ends]

end Quoted

/-! ### Steps of the lexer

What happens before a token is taken. Away from the first column and at content, that is nothing. -/

namespace Lexer

/-- A place of a key that has not been given up, or none at all. -/
def KeepsKey (s : Lexer) : Prop :=
  s.place.possible = true →
    s.place.line = s.cursor.line ∧ s.cursor.column ≤ s.place.column + keyLength

theorem keepsKey_of_not_possible {s : Lexer} (done : s.place.possible = false) : s.KeepsKey :=
  fun possible => Bool.noConfusion (done.symm.trans possible)

theorem toContent?_of_atContent {s : Lexer} (content : s.cursor.AtContent) :
    s.toContent? = some s := by
  have same : s.goTo s.cursor = s := by simp [goTo]
  rw [toContent?, Cursor.toContent?_of_atContent content, Option.map_some, same]

/-- A place of a key that is kept is not given up. -/
theorem dropLateKey?_of_keepsKey {s : Lexer} (keeps : s.KeepsKey) : s.dropLateKey? = some s := by
  unfold dropLateKey?
  split
  · rename_i late
    simp only [Bool.and_eq_true, Bool.or_eq_true, decide_eq_true_eq] at late
    obtain ⟨line, column⟩ := keeps late.1.2
    omega
  · rfl

/-- Blocks that content is not left of stay open. -/
theorem closed_of_le {column : Int} {s : Lexer} (left : s.indent ≤ column) (margins : List Margin) :
    closed column margins s = s := by
  cases margins with
  | nil => rfl
  | cons margin margins =>
    rw [closed, if_neg (by omega)]

theorem close_of_le {column : Int} {s : Lexer} (left : s.indent ≤ column) : s.close column = s := by
  unfold close
  split
  · rfl
  · exact closed_of_le left _

/-- At content that stands in the present block, nothing happens before the next token. -/
theorem approach?_of_atContent {s : Lexer} (content : s.cursor.AtContent) (keeps : s.KeepsKey)
    (left : s.indent ≤ s.cursor.column) : s.approach? = some s := by
  simp [approach?, toContent?_of_atContent content, dropLateKey?_of_keepsKey keeps,
    close_of_le left]

/-- A plain character starts a plain scalar, unless it is a dash by itself. -/
theorem takeToken?_of_plain {s : Lexer} {c : Char} {following : List Char}
    (plain : isPlainCharacter c = true) (dash : c = '-' → endsWord following = false) :
    s.takeToken? c following = s.takePlain? := by
  unfold takeToken?
  split <;> first
    | rfl
    | exact absurd plain (by decide)
    | rw [dash rfl]; rfl

end Lexer

/-! ### Lexers in a mapping of the first column

A lexer has a lot of state, most of which does not change within such a mapping. `Flat` has what
does, and the steps through a line are equations on it. -/

/-- Where a lexer outside brackets stands with respect to a mapping in the first column: in front of
it, at an entry, or after the colon of one. -/
inductive Layout where
  | outside
  | entry
  | value
deriving DecidableEq, Repr

namespace Layout

/-- The column that content must not stand left of. -/
def indent : Layout → Int
  | outside => -1
  | entry => 0
  | value => 1

/-- The columns around that one. -/
def margins : Layout → List Margin
  | outside => []
  | entry => [⟨-1, true⟩]
  | value => [⟨0, false⟩, ⟨-1, true⟩]

/-- The layout before the next key. -/
def beforeKey : Layout → Layout
  | outside => outside
  | entry | value => entry

/-- The mapping has been entered. -/
def isOpen : Layout → Bool
  | outside => false
  | entry | value => true

/-- The token that the next key comes after. -/
def opening : Layout → List Token
  | outside => [.blockMappingStart]
  | entry | value => []

/-- Where a key may come next, content may stand in the first column. -/
theorem indent_le {layout : Layout} (front : layout ≠ value) : layout.indent ≤ 0 := by
  cases layout with
  | value => exact absurd rfl front
  | outside | entry => decide

theorem beforeKey_ne (layout : Layout) : layout.beforeKey ≠ value := by
  cases layout <;> decide

theorem opening_beforeKey (layout : Layout) : layout.beforeKey.opening = layout.opening := by
  cases layout <;> rfl

end Layout

/-- What can change of a lexer that goes through such a mapping. -/
structure Flat where
  layout : Layout := .outside
  cursor : Cursor
  tokens : List Token := []
  count : Nat := 0
  place : KeyPlace := {}
  keyAllowed : Bool := true
  adjacent : Option (Nat × Nat) := none
  inMapping : Bool := false

namespace Flat

/-- The lexer. -/
def lexer (flat : Flat) : Lexer where
  cursor := flat.cursor
  tokens := flat.tokens
  count := flat.count
  indent := flat.layout.indent
  margins := flat.layout.margins
  places := [flat.place]
  keyAllowed := flat.keyAllowed
  adjacent := flat.adjacent
  inMapping := flat.inMapping
  pairs := []

theorem lexer_cursor (flat : Flat) : flat.lexer.cursor = flat.cursor := rfl

theorem lexer_indent (flat : Flat) : flat.lexer.indent = flat.layout.indent := rfl

/-- A key may start here, in the first column. -/
structure AtKey (flat : Flat) : Prop where
  column : flat.cursor.column = 0
  allowed : flat.keyAllowed = true
  done : flat.place.possible = false

/-- The lexer at an entry of the mapping, or at its end, after some tokens, the latest first. -/
structure WithinMapping (flat : Flat) (tokens : List Token) (rest : List Char) : Prop
    extends AtKey flat where
  entered : flat.layout.opening = []
  chars : flat.cursor.rest = rest
  tokens : flat.tokens = tokens

/-- The lexer after a key. -/
def atColon (flat : Flat) (key : List Char) : Flat :=
  { flat with
    cursor := flat.cursor.past key.length
    tokens := .scalar .plain (String.ofList key) :: flat.tokens
    count := flat.count + 1
    place :=
      { possible := true
        required := flat.layout.isOpen
        tokens := flat.count
        line := flat.cursor.line
        column := 0 }
    keyAllowed := false }

/-- The lexer after a key and its colon. -/
def pastKey (flat : Flat) (key : List Char) : Flat :=
  { flat with
    layout := .value
    cursor := (flat.cursor.past key.length).next
    tokens :=
      .value :: .scalar .plain (String.ofList key) :: .key :: (flat.layout.opening ++ flat.tokens)
    count := flat.count + 1 + flat.layout.opening.length + 2
    place :=
      { required := flat.layout.isOpen
        tokens := flat.count
        line := flat.cursor.line
        column := 0 }
    keyAllowed := false }

variable {flat : Flat} {key rest : List Char}

/-- Content of the first column ends what stands right of it. -/
theorem close_first (column : flat.cursor.column = 0) :
    flat.lexer.close flat.lexer.cursor.column =
      { flat with layout := flat.layout.beforeKey }.lexer := by
  obtain ⟨layout, cursor, tokens, count, place, keyAllowed, adjacent, inMapping⟩ := flat
  simp only at column
  cases layout <;> simp [lexer, Lexer.close, Lexer.closed, Lexer.inFlow, Lexer.depth,
    Layout.indent, Layout.margins, Layout.beforeKey, column]

/-- The next key is reached if the last one has been dealt with. -/
theorem approach?_entry (content : flat.cursor.AtContent) (column : flat.cursor.column = 0)
    (done : flat.place.possible = false) :
    flat.lexer.approach? = some { flat with layout := flat.layout.beforeKey }.lexer := by
  have keeps : flat.lexer.KeepsKey := Lexer.keepsKey_of_not_possible done
  have reached : flat.lexer.toContent? = some flat.lexer :=
    Lexer.toContent?_of_atContent content
  simp [Lexer.approach?, reached, Lexer.dropLateKey?_of_keepsKey keeps, close_first column]

/-- A plain scalar that may be a key is taken. -/
theorem takePlain?_key (plain : ∀ c ∈ key, isPlainCharacter c = true)
    (named : key ≠ []) (chars : flat.cursor.rest = key ++ ':' :: ' ' :: rest)
    (unmarked : flat.cursor.atDocumentMark = false) (column : flat.cursor.column = 0)
    (allowed : flat.keyAllowed = true) (front : flat.layout ≠ .value) :
    flat.lexer.takePlain? = some (flat.atColon key).lexer := by
  obtain ⟨layout, cursor, tokens, count, place, keyAllowed, adjacent, inMapping⟩ := flat
  simp only at chars unmarked column allowed front
  have read (least : Int) : plainScalar? false least (cursor.rest.length + 1) {} cursor =
      some (key, cursor.past key.length) :=
    plainScalar?_colon plain named chars unmarked cursor.rest.length
  have fresh : (cursor.past key.length).fresh = false := by simp [Cursor.past, named]
  cases layout with
  | value => exact absurd rfl front
  | outside | entry =>
    simp [lexer, atColon, Lexer.takePlain?, Lexer.markKey, Lexer.allowKeys, Lexer.setPlace,
      Lexer.inFlow, Lexer.depth, Lexer.push, Lexer.unshift, Lexer.atBlock, Layout.margins,
      Layout.indent, Layout.isOpen, allowed, column, read, fresh]

/-- The colon of a key that stands in the first column puts the tokens of the key in front of it. -/
theorem takeValue?_key (chars : (flat.atColon key).cursor.rest = ':' :: ' ' :: rest)
    (front : flat.layout ≠ .value) :
    (flat.atColon key).lexer.takeValue? = some (flat.pastKey key).lexer := by
  obtain ⟨layout, cursor, tokens, count, place, keyAllowed, adjacent, inMapping⟩ := flat
  have past : Lexer.pastColon? (cursor.past key.length) = some (cursor.past key.length).next := by
    change (cursor.past key.length).rest = _ at chars
    have beyond : (cursor.past key.length).next.rest = ' ' :: rest := by
      rw [Cursor.next, Cursor.past_rest, chars]
      rfl
    simp [Lexer.pastColon?, beyond]
  have gap : count + 1 + 1 - count = 2 := by omega
  cases layout with
  | value => exact absurd rfl front
  | outside | entry =>
    simp [lexer, atColon, pastKey, Lexer.takeValue?, Lexer.place, Lexer.insert, Lexer.openBlock,
      Lexer.shift, Lexer.unshift, Lexer.setPlace, Lexer.allowKeys, Lexer.push, Lexer.inFlow,
      Lexer.depth, Lexer.atBlock, Layout.margins, Layout.indent, Layout.opening, past, gap]

/-- White space after a colon is passed. -/
theorem approach?_value {following : List Char} (chars : flat.cursor.rest = ' ' :: following)
    (content : (flat.cursor.pastGaps 1).AtContent) (done : flat.place.possible = false)
    (inside : flat.layout = .value) :
    flat.lexer.approach? = some { flat with cursor := flat.cursor.pastGaps 1 }.lexer := by
  have reached : flat.lexer.toContent? =
      some { flat with cursor := flat.cursor.pastGaps 1 }.lexer := by
    have passed (fuel : Nat) : flat.cursor.toContent? flat.layout.indent (fuel + 1) =
        some (flat.cursor.pastGaps 1) := by
      rw [Cursor.toContent?]
      simp only [chars]
      exact Cursor.toContent?_of_atContent content _ _
    simp [Lexer.toContent?, lexer, passed, Lexer.goTo, Cursor.pastGaps]
  have keeps : { flat with cursor := flat.cursor.pastGaps 1 }.lexer.KeepsKey :=
    Lexer.keepsKey_of_not_possible done
  have right : flat.layout.indent ≤ (flat.cursor.pastGaps 1).column := by
    rw [inside]
    simp only [Layout.indent, Cursor.pastGaps]
    omega
  have stays : ({ flat with cursor := flat.cursor.pastGaps 1 }.lexer).close
      (flat.cursor.pastGaps 1).column = { flat with cursor := flat.cursor.pastGaps 1 }.lexer :=
    Lexer.close_of_le right
  have last : { flat with cursor := flat.cursor.pastGaps 1 }.lexer.cursor =
      flat.cursor.pastGaps 1 := rfl
  simp [Lexer.approach?, reached, Lexer.dropLateKey?_of_keepsKey keeps, last, stays]

/-- A plain value ends with its line. -/
theorem takePlain?_value {text rest : List Char} (plain : ∀ c ∈ text, isPlainCharacter c = true)
    (named : text ≠ []) (chars : flat.cursor.rest = text ++ '\n' :: rest)
    (column : flat.cursor.column ≠ 0) (content : ∀ c ∈ rest.head?, isSpacing c = false)
    (allowed : flat.keyAllowed = false) (inside : flat.layout = .value) :
    flat.lexer.takePlain? =
      some { flat with
        layout := .entry
        cursor := (flat.cursor.past text.length).pastBreak
        tokens := .scalar .plain (String.ofList text) :: flat.tokens
        count := flat.count + 1
        keyAllowed := true }.lexer := by
  obtain ⟨_, cursor, tokens, count, place, _, adjacent, inMapping⟩ := flat
  simp only at chars column allowed inside
  subst allowed inside
  have unmarked : cursor.atDocumentMark = false := Cursor.atDocumentMark_of_column column
  have read : plainScalar? false 1 (cursor.rest.length + 1) {} cursor =
      some (text, (cursor.past text.length).pastBreak) :=
    plainScalar?_line plain named chars unmarked content (by decide) cursor.rest.length
  simp [lexer, Lexer.takePlain?, Lexer.markKey, Lexer.allowKeys, Lexer.inFlow, Lexer.depth,
    Lexer.push, Lexer.unshift, Layout.margins, Layout.indent, read, Cursor.pastBreak]

/-- A value in single quotes ends with its line, and the reader goes on to the next one. -/
theorem takeQuoted?_value {text rest : List Char} (plain : ∀ c ∈ text, isPlainCharacter c = true)
    (chars : flat.cursor.rest = '\'' :: text ++ '\'' :: '\n' :: rest)
    (column : flat.cursor.column ≠ 0) (content : ∀ c ∈ rest.head?, isSpacing c = false ∧ c ≠ '#')
    (allowed : flat.keyAllowed = false) (inside : flat.layout = .value) :
    flat.lexer.takeQuoted? '\'' =
      some { flat with
        cursor := (flat.cursor.past (text.length + 2)).pastBreak
        tokens := .scalar .text (String.ofList text) :: flat.tokens
        count := flat.count + 1
        keyAllowed := true
        adjacent := some (flat.cursor.line + 1, 0) }.lexer := by
  obtain ⟨_, cursor, tokens, count, place, _, adjacent, inMapping⟩ := flat
  simp only at chars column allowed inside
  subst allowed inside
  have read : quotedScalar? '\'' 1 cursor = some (text, cursor.past (text.length + 2)) :=
    quotedScalar?_plain plain chars (by omega)
  have after : (cursor.past (text.length + 2)).rest = '\n' :: rest := by
    simp [Cursor.past, chars]
  have line : (cursor.past (text.length + 2)).line = cursor.line := by simp [Cursor.past]
  have ended := Cursor.restOfLine?_of_break after
  have beyond : ((cursor.past (text.length + 2)).pastBreak).AtContent := by
    simpa [Cursor.AtContent, Cursor.pastBreak, after] using content
  have passed (fuel : Nat) : (cursor.past (text.length + 2)).toContent? 1 (fuel + 1) =
      some (cursor.past (text.length + 2)).pastBreak := by
    rw [Cursor.toContent?]
    simp only [after]
    exact Cursor.toContent?_of_atContent beyond _ _
  simp [lexer, Lexer.takeQuoted?, Layout.indent, read, ended, Lexer.mayFollowQuotes, after,
    endsLine, Lexer.markKey, Lexer.allowKeys, Lexer.toContent?, passed, Lexer.goTo, Lexer.inFlow,
    Lexer.depth, Lexer.push, Cursor.pastBreak, line]

end Flat

/-! ### Lines

A line is gone through in three steps: the key, the colon and the value. Behind the third step the
lexer is where it was before the first, one line further. -/

namespace Lexer

/-- A lexer that takes a token goes on from there. -/
theorem run?_succ {s near later : Lexer} (approached : s.approach? = some near)
    (more : near.cursor.rest ≠ []) (taken : near.step = some later) (fuel : Nat) :
    run? (fuel + 1) s = run? fuel later := by
  simp [run?, approached, more, taken]

/-- Within a line the next token is all that matters. -/
theorem step_of_column {s : Lexer} {c : Char} {following : List Char}
    (chars : s.cursor.rest = c :: following) (column : s.cursor.column ≠ 0)
    (right : s.indent ≤ s.cursor.column) : s.step = s.takeToken? c following := by
  unfold step
  simp only [chars]
  rw [if_neg (fun first => column first.1), Cursor.atMark_of_column _ column,
    Cursor.atMark_of_column _ column]
  simp [Int.not_lt.mpr right]

end Lexer

namespace Flat

variable {flat : Flat} {key rest : List Char}

/-- The first step takes a key. -/
theorem step_key (ready : flat.AtKey) (named : key ≠ [])
    (word : ∀ c ∈ key, c.isAlpha = true ∨ c = '_')
    (chars : flat.cursor.rest = key ++ ':' :: ' ' :: rest) (front : flat.layout ≠ .value) :
    flat.lexer.step = some (flat.atColon key).lexer := by
  obtain ⟨c, later, rfl⟩ := List.exists_cons_of_ne_nil named
  have first := word c List.mem_cons_self
  have unmarked (mark : Char) (other : mark.isAlpha = false ∧ mark ≠ '_') :
      flat.cursor.atMark mark = false := by
    refine Cursor.atMark_of_head fun same => ?_
    rw [chars, List.cons_append, List.head?_cons, Option.some.injEq] at same
    subst same
    simp [other] at first
  have dash := unmarked '-' (by decide)
  have point := unmarked '.' (by decide)
  have percent : c ≠ '%' := ne_of_plain (plain_of_word first) (by decide)
  have within : ¬ (flat.cursor.column : Int) < flat.layout.indent := by
    rw [ready.column]
    exact Int.not_lt.mpr (Layout.indent_le front)
  have taken : flat.lexer.takeToken? c (later ++ ':' :: ' ' :: rest) = flat.lexer.takePlain? :=
    Lexer.takeToken?_of_plain (plain_of_word first) fun same => by
      subst same
      exact absurd first (by decide)
  have read := takePlain?_key (fun d among => plain_of_word (word d among)) named chars
    (by simp [Cursor.atDocumentMark, dash, point]) ready.column ready.allowed front
  unfold Lexer.step
  rw [lexer_cursor, lexer_indent, chars]
  simp only [List.cons_append]
  rw [if_neg fun same => percent same.2, dash, point, if_neg (by decide), if_neg (by decide),
    if_neg within, taken, read]

/-- The second step takes the colon. -/
theorem run?_colon (named : key ≠ []) (short : key.length ≤ keyLength)
    (column : flat.cursor.column = 0)
    (chars : flat.cursor.rest = key ++ ':' :: ' ' :: rest) (front : flat.layout ≠ .value)
    (fuel : Nat) :
    Lexer.run? (fuel + 1) (flat.atColon key).lexer = Lexer.run? fuel (flat.pastKey key).lexer := by
  have beyond : (flat.atColon key).cursor.rest = ':' :: ' ' :: rest := by
    simp [atColon, Cursor.past, named, chars]
  have reached : (flat.atColon key).cursor.column = key.length := by
    simp [atColon, Cursor.past, named, column]
  have inside : (flat.atColon key).cursor.column ≠ 0 := by
    rw [reached]
    exact fun none => named (List.length_eq_zero_iff.mp none)
  have right : (flat.atColon key).lexer.indent ≤ (flat.atColon key).cursor.column :=
    Int.le_trans (Layout.indent_le front) (Int.natCast_nonneg _)
  have content : (flat.atColon key).cursor.AtContent := by
    simp [Cursor.AtContent, beyond, isSpacing, isGap]
  have keeps : (flat.atColon key).lexer.KeepsKey := fun _ => by
    refine ⟨?_, ?_⟩
    · change flat.cursor.line = (flat.cursor.past key.length).line
      simp [Cursor.past, named]
    · change (flat.atColon key).cursor.column ≤ 0 + keyLength
      omega
  have near := Lexer.approach?_of_atContent content keeps right
  have taken : (flat.atColon key).lexer.step = some (flat.pastKey key).lexer := by
    rw [Lexer.step_of_column beyond inside right]
    have ends : (flat.atColon key).lexer.endsKey (' ' :: rest) = true := by
      simp [Lexer.endsKey, endsWord, isSpacing, isGap]
    simp only [Lexer.takeToken?, ends, if_true]
    exact takeValue?_key beyond front
  exact Lexer.run?_succ near (by simp [lexer_cursor, beyond]) taken fuel

/-- A value that stands on the rest of its line is taken in one step. -/
theorem exists_step_value {line : EntryLine} (simple : line.IsSimple)
    (inside : flat.layout = .value) (allowed : flat.keyAllowed = false)
    (done : flat.place.possible = false) (column : flat.cursor.column ≠ 0)
    (chars : flat.cursor.rest = line.value ++ '\n' :: rest)
    (content : ∀ c ∈ rest.head?, isSpacing c = false ∧ c ≠ '#') :
    flat.cursor.AtContent ∧
      ∃ later : Flat, flat.lexer.step = some later.lexer ∧
        later.WithinMapping (.scalar line.style (String.ofList line.text) :: flat.tokens) rest := by
  have right : flat.lexer.indent ≤ flat.cursor.column := by
    rw [lexer_indent, inside, Layout.indent]
    omega
  obtain ⟨key, style, text⟩ := line
  cases style with
  | plain =>
    obtain ⟨named, notDash⟩ := simple.standing rfl
    obtain ⟨c, more, rfl⟩ := List.exists_cons_of_ne_nil named
    have first := simple.characters c List.mem_cons_self
    have dash : c = '-' → endsWord (more ++ '\n' :: rest) = false := by
      rintro rfl
      cases more with
      | nil => exact absurd rfl notDash
      | cons d more => exact not_spacing_of_plain (simple.characters d (by simp))
    have taken := takePlain?_value simple.characters named chars column
      (fun c among => (content c among).1) allowed inside
    have step : flat.lexer.step = flat.lexer.takePlain? := by
      rw [Lexer.step_of_column chars column right]
      exact Lexer.takeToken?_of_plain first dash
    refine ⟨?_, _, step.trans taken, ⟨⟨rfl, rfl, done⟩, rfl, ?_, rfl⟩⟩
    · simpa [Cursor.AtContent, chars, EntryLine.value] using content_of_plain first
    · simp [Cursor.pastBreak, Cursor.past_rest, chars, EntryLine.value]
  | text =>
    have quoted : flat.cursor.rest = '\'' :: text ++ '\'' :: '\n' :: rest := by
      rw [chars, EntryLine.value]
      simp
    have taken := takeQuoted?_value simple.characters quoted column content allowed inside
    have step : flat.lexer.step = flat.lexer.takeQuoted? '\'' := by
      rw [Lexer.step_of_column quoted column right]
      rfl
    refine ⟨?_, _, step.trans taken, ⟨⟨rfl, rfl, done⟩, ?_, ?_, rfl⟩⟩
    · simp [Cursor.AtContent, quoted, isSpacing, isGap]
    · simp [inside, Layout.opening]
    · simp [Cursor.pastBreak, Cursor.past_rest, quoted]

/-- The lexer goes through a line in three steps, and the tokens of the line come out. -/
theorem exists_run?_line {line : EntryLine} (simple : line.IsSimple) (ready : flat.AtKey)
    (chars : flat.cursor.rest = line.written ++ rest)
    (content : ∀ c ∈ rest.head?, isSpacing c = false ∧ c ≠ '#') :
    ∃ later : Flat,
      later.WithinMapping (line.tokens.reverse ++ (flat.layout.opening ++ flat.tokens)) rest ∧
      ∀ fuel, Lexer.run? (fuel + 3) flat.lexer = Lexer.run? fuel later.lexer := by
  let front : Flat := { flat with layout := flat.layout.beforeKey }
  have readyFront : front.AtKey := ⟨ready.column, ready.allowed, ready.done⟩
  have settled : front.layout ≠ .value := flat.layout.beforeKey_ne
  have keyed : flat.cursor.rest = line.key ++ ':' :: ' ' :: (line.value ++ '\n' :: rest) := by
    rw [chars, EntryLine.written]
    simp
  have starts : flat.cursor.AtContent := by
    rw [Cursor.AtContent, chars]
    exact simple.content rest
  have toKey (fuel : Nat) :
      Lexer.run? (fuel + 1) flat.lexer = Lexer.run? fuel (front.atColon line.key).lexer :=
    Lexer.run?_succ (approach?_entry starts ready.column ready.done)
      (by simp [lexer_cursor, keyed])
      (step_key readyFront simple.named simple.word keyed settled) fuel
  have toColon (fuel : Nat) : Lexer.run? (fuel + 1) (front.atColon line.key).lexer =
      Lexer.run? fuel (front.pastKey line.key).lexer :=
    run?_colon simple.named simple.short readyFront.column keyed settled fuel
  -- After the colon comes a space, and then the value.
  have beyond : (front.pastKey line.key).cursor.rest = ' ' :: (line.value ++ '\n' :: rest) := by
    change ((flat.cursor.past line.key.length).past 1).rest = _
    rw [Cursor.past_past, Cursor.past_rest, keyed]
    simp
  let spaced : Flat :=
    { front.pastKey line.key with cursor := (front.pastKey line.key).cursor.pastGaps 1 }
  have value : spaced.cursor.rest = line.value ++ '\n' :: rest := by
    simp [spaced, Cursor.pastGaps, beyond]
  obtain ⟨content, later, taken, within⟩ := exists_step_value simple
    (show spaced.layout = .value from rfl) rfl rfl (Nat.succ_ne_zero _) value content
  refine ⟨later, ?_, fun fuel => ?_⟩
  · have opening : front.layout.opening = flat.layout.opening := flat.layout.opening_beforeKey
    simpa [spaced, pastKey, opening, EntryLine.tokens] using within
  · rw [toKey, toColon]
    exact Lexer.run?_succ (approach?_value beyond content rfl rfl)
      (by simp [lexer_cursor, Cursor.pastGaps, beyond]) taken fuel

/-- At the end of the text the mapping ends. -/
theorem run?_end {tokens : List Token} (within : flat.WithinMapping tokens []) (fuel : Nat) :
    Lexer.run? (fuel + 1) flat.lexer = some (tokens.reverse ++ [.blockEnd]) := by
  have starts : flat.cursor.AtContent := by simp [Cursor.AtContent, within.chars]
  have approached := approach?_entry starts within.column within.done
  obtain ⟨⟨column, allowed, done⟩, entered, chars, rfl⟩ := within
  obtain ⟨layout, cursor, tokens, count, place, keyAllowed, adjacent, inMapping⟩ := flat
  simp only at entered chars done
  rw [Lexer.run?, approached]
  cases layout with
  | outside => cases entered
  | entry | value =>
    simp [lexer, chars, done, Lexer.finish?, Lexer.close, Lexer.closed, Lexer.push, Lexer.inFlow,
      Lexer.depth, Layout.beforeKey, Layout.margins, Layout.indent]

end Flat

/-! ### Texts of lines

By induction over the lines the lexer gets through the text, and the tokens that it leaves are those
of the lines in order. -/

/-- The characters of a line that are not plain are the marks of the entry. -/
theorem EntryLine.IsSimple.mem_written {line : EntryLine} (simple : line.IsSimple) {c : Char}
    (among : c ∈ line.written) : isPlainCharacter c = true ∨ c ∈ [':', ' ', '\n', '\''] := by
  have value : c ∈ line.value → isPlainCharacter c = true ∨ c = '\'' := by
    obtain ⟨key, style, text⟩ := line
    have plain := simple.characters c
    cases style with
    | plain => exact fun there => .inl (plain there)
    | text =>
      simp only [EntryLine.value, List.cons_append, List.mem_cons, List.mem_append,
        List.not_mem_nil, or_false]
      rintro (rfl | there | rfl)
      · exact .inr rfl
      · exact .inl (plain there)
      · exact .inr rfl
  simp only [written, List.mem_append, List.mem_cons, List.not_mem_nil, or_false] at among ⊢
  rcases among with there | rfl | rfl | there | rfl
  · exact .inl (plain_of_word (simple.word c there))
  · exact .inr (.inl rfl)
  · exact .inr (.inr (.inl rfl))
  · exact (value there).imp_right fun quote => .inr (.inr (.inr quote))
  · exact .inr (.inr (.inr (.inl rfl)))

/-- What starts a simple line is content, and no comment. -/
theorem content_lines {lines : List EntryLine} (simple : ∀ line ∈ lines, line.IsSimple) :
    ∀ c ∈ (lines.flatMap EntryLine.written).head?, isSpacing c = false ∧ c ≠ '#' := by
  cases lines with
  | nil => simp
  | cons line lines => exact (simple line List.mem_cons_self).content _

/-- A line is read within three steps for each of its characters. -/
theorem three_mul_length_le (lines : List EntryLine) :
    3 * lines.length ≤ (lines.flatMap EntryLine.written).length := by
  induction lines with
  | nil => simp
  | cons line lines ih =>
    simp only [List.flatMap_cons, List.length_append, List.length_cons, EntryLine.written]
    omega

/-- The reader goes through the lines that are left, and then ends the mapping. -/
theorem Flat.run?_lines {lines : List EntryLine} (simple : ∀ line ∈ lines, line.IsSimple)
    {flat : Flat} {tokens : List Token}
    (within : flat.WithinMapping tokens (lines.flatMap EntryLine.written)) (fuel : Nat) :
    Lexer.run? (fuel + 3 * lines.length + 1) flat.lexer =
      some (tokens.reverse ++ lines.flatMap EntryLine.tokens ++ [.blockEnd]) := by
  induction lines generalizing flat tokens with
  | nil => simpa using run?_end within fuel
  | cons line lines ih =>
    obtain ⟨here, others⟩ := List.forall_mem_cons.mp simple
    obtain ⟨later, ready, run⟩ := exists_run?_line here within.toAtKey
      (by rw [within.chars, List.flatMap_cons]) (content_lines others)
    have rest := ih others ready
    rw [show fuel + 3 * (line :: lines).length + 1 = fuel + 3 * lines.length + 1 + 3 by
      simp only [List.length_cons]; omega, run, rest]
    simp [within.entered, within.tokens]

/-- A text without carriage returns has its line breaks already. -/
theorem unifyBreaks_eq_self {cs : List Char} (none : '\r' ∉ cs) : unifyBreaks cs = cs := by
  induction cs with
  | nil => rfl
  | cons c cs ih =>
    rw [List.mem_cons, not_or] at none
    have other : c ≠ '\r' := fun same => none.1 same.symm
    rw [unifyBreaks, ih none.2]
    · exact fun _ same _ => other same
    · exact other

/-- The tokens of a mapping with one entry on each line. -/
theorem tokens?_lines {lines : List EntryLine} (nonempty : lines ≠ [])
    (simple : ∀ line ∈ lines, line.IsSimple) :
    tokens? (String.ofList (lines.flatMap EntryLine.written)) =
      some (.blockMappingStart :: lines.flatMap EntryLine.tokens ++ [.blockEnd]) := by
  obtain ⟨line, lines, rfl⟩ := List.exists_cons_of_ne_nil nonempty
  obtain ⟨here, others⟩ := List.forall_mem_cons.mp simple
  have absent {c : Char} (marked : isPlainCharacter c = false ∧ c ∉ [':', ' ', '\n', '\'']) :
      c ∉ (line :: lines).flatMap EntryLine.written := by
    intro among
    obtain ⟨within, member, inside⟩ := List.mem_flatMap.mp among
    rcases (simple within member).mem_written inside with plain | mark
    · exact absurd plain (by simp [marked.1])
    · exact marked.2 mark
  have whole : ((line :: lines).flatMap EntryLine.written).takeWhile (· != '\x00') =
      (line :: lines).flatMap EntryLine.written := by
    refine List.takeWhile_eq_self_iff.mpr fun c among => ?_
    rw [bne_iff_ne]
    rintro rfl
    exact absent (by decide) among
  let start : Flat := { cursor := { rest := (line :: lines).flatMap EntryLine.written } }
  obtain ⟨later, within, run⟩ := Flat.exists_run?_line here
    (show start.AtKey from ⟨rfl, rfl, rfl⟩) (List.flatMap_cons ..) (content_lines others)
  obtain ⟨spare, enough⟩ := Nat.exists_eq_add_of_le (three_mul_length_le (line :: lines))
  have fuel : ((line :: lines).flatMap EntryLine.written).length + 1 =
      spare + 3 * lines.length + 1 + 3 := by
    rw [enough, List.length_cons]
    omega
  simp only [tokens?, String.toList_ofList, whole, unifyBreaks_eq_self (absent (by decide))]
  rw [fuel]
  change Lexer.run? _ start.lexer = _
  rw [run, Flat.run?_lines others within]
  simp [start, Layout.opening]

end ExtractOptions.Yaml
