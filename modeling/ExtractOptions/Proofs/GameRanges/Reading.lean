/-
Module: ExtractOptions.Proofs.GameRanges.Reading
Purpose: what a list of game numbers may look like. A number is a numeral with white space around it
  if one likes, a piece holds one number or two with a colon between them, and a list is pieces with
  commas between them. Reading accepts such a list exactly if its ranges are in order, and what is
  written for ranges in order is read back. A list that is refused leaves the one before it.
Main exports: GameRange.IsPiece, GameRange.render, GameRanges.IsListing, GameRanges.InOrder,
  GameRanges.render, GameRanges.parse?_eq_some_iff, GameRanges.parse?_render,
  GameRanges.reads_listings
-/
import ExtractOptions.Config.Walk
import ExtractOptions.Proofs.Session.Effect
import ExtractOptions.Proofs.Text.Numeral
import Mathlib.Data.List.Chain

namespace ExtractOptions

open Text

/-! ### Pieces

A piece is read with its white space, and its two numbers are separated by the first colon. That the
reader accepts pieces and nothing else is an equivalence with the inductive description. -/

namespace GameRange

/-- The text is a game number: a numeral of 64 bits at most, with white space around it if one
likes. -/
def IsNumber (cs : List Char) (n : Nat) : Prop :=
  Numeral.DenotesSpaced cs n ∧ n ≤ Numeral.max64

/-- The text is a piece of a list that stands for the range. -/
inductive IsPiece : List Char → GameRange → Prop
  | single {cs : List Char} {n : Nat} (number : IsNumber cs n) : IsPiece cs ⟨n, n⟩
  | pair {first last : List Char} {m n : Nat} (start : IsNumber first m) (stop : IsNumber last n) :
    IsPiece (first ++ ':' :: last) ⟨m, n⟩

/-- The reader of numbers accepts game numbers and nothing else. -/
theorem number?_eq_some_iff {cs : List Char} {n : Nat} : number? cs = some n ↔ IsNumber cs n := by
  unfold number? IsNumber
  rw [Numeral.digits?_trimChars_eq_some_iff]

/-- A game number holds digits and white space and no other character. -/
theorem IsNumber.notMem {cs : List Char} {n : Nat} (number : IsNumber cs n) {c : Char}
    (printed : isBlank c = false) (other : c.isDigit = false) : c ∉ cs := by
  intro among
  rcases number.1.isDigit_or_isBlank among with digit | blank
  · rw [other] at digit
    cases digit
  · rw [printed] at blank
    cases blank

/-- The reader of pieces accepts pieces and nothing else. -/
theorem ofPiece?_eq_some_iff {piece : List Char} {r : GameRange} :
    ofPiece? piece = some r ↔ IsPiece piece r := by
  constructor
  · intro read
    unfold ofPiece? at read
    cases cut : cut? ':' piece with
    | some parts =>
      obtain ⟨first, last⟩ := parts
      simp only [cut, Option.bind_eq_bind, Option.pure_def, Option.bind_eq_some_iff,
        Option.some.injEq, number?_eq_some_iff] at read
      obtain ⟨m, start, n, stop, rfl⟩ := read
      rw [eq_append_of_cut? cut]
      exact .pair start stop
    | none =>
      simp only [cut, Option.bind_eq_bind, Option.pure_def, Option.bind_eq_some_iff,
        Option.some.injEq, number?_eq_some_iff] at read
      obtain ⟨n, number, rfl⟩ := read
      exact .single number
  · rintro (⟨number⟩ | ⟨start, stop⟩)
    · have uncut : cut? ':' piece = none :=
        cut?_eq_none_iff.mpr (number.notMem (by decide) (by decide))
      simp [ofPiece?, uncut, number?_eq_some_iff.mpr number]
    · rename_i first last m n
      have cut : cut? ':' (first ++ ':' :: last) = some (first, last) :=
        cut?_append first last (start.notMem (by decide) (by decide))
      simp [ofPiece?, cut, number?_eq_some_iff.mpr start, number?_eq_some_iff.mpr stop]

theorem IsPiece.ne_nil {piece : List Char} {r : GameRange} (is : IsPiece piece r) : piece ≠ [] := by
  cases is with
  | single number => exact number.1.ne_nil
  | pair => simp

/-- No comma stands in a piece, so commas separate pieces. -/
theorem IsPiece.comma_notMem {piece : List Char} {r : GameRange} (is : IsPiece piece r) :
    ',' ∉ piece := by
  cases is with
  | single number => exact number.notMem (by decide) (by decide)
  | pair start stop =>
    have before := start.notMem (c := ',') (by decide) (by decide)
    have after := stop.notMem (c := ',') (by decide) (by decide)
    simp [before, after]

/-- The written form of a range. -/
def render (r : GameRange) : List Char :=
  if r.first = r.last then Numeral.decimal r.first
  else Numeral.decimal r.first ++ ':' :: Numeral.decimal r.last

/-- The written form of a range of 64-bit numbers is a piece for it. -/
theorem isPiece_render {r : GameRange} (first : r.first ≤ Numeral.max64)
    (last : r.last ≤ Numeral.max64) :
    IsPiece r.render r := by
  have number (n : Nat) (small : n ≤ Numeral.max64) : IsNumber (Numeral.decimal n) n :=
    ⟨(Numeral.denotes_decimal n).spaced, small⟩
  unfold render
  split
  · rename_i same
    have is : IsPiece (Numeral.decimal r.first) ⟨r.first, r.first⟩ := .single (number _ first)
    have whole : (⟨r.first, r.first⟩ : GameRange) = r := by
      rw [GameRange.mk.injEq]
      exact ⟨rfl, same⟩
    rwa [whole] at is
  · exact .pair (number _ first) (number _ last)

end GameRange

namespace GameRanges

/-! ### The order of ranges

The reader goes through the ranges with the last number so far in hand. `InOrder` says the same of
neighbours, without anything in hand. -/

/-- The ranges are in order: there is one, game numbers start at one, no range ends before it
starts, and each starts after the end of the one in front of it. -/
structure InOrder (ranges : List GameRange) : Prop where
  nonempty : ranges ≠ []
  starts : ∀ r ∈ ranges.head?, 1 ≤ r.first
  proper : ∀ r ∈ ranges, r.first ≤ r.last
  follows : ranges.IsChain fun r next => r.last < next.first

/-- Ranges ascend behind a number exactly if the first one starts behind it, none ends before it
starts, and each starts after the one before it ends. -/
theorem ascending_iff {before : Nat} {ranges : List GameRange} :
    Ascending before ranges ↔
      (∀ r ∈ ranges.head?, before < r.first) ∧ (∀ r ∈ ranges, r.first ≤ r.last) ∧
        ranges.IsChain fun r next => r.last < next.first := by
  induction ranges generalizing before with
  | nil => simp [Ascending]
  | cons r later ih =>
    rw [Ascending, ih, List.isChain_cons]
    simp only [List.head?_cons, Option.mem_some_iff, forall_eq', List.forall_mem_cons]
    tauto

/-- Ranges are in order exactly if there are some and they ascend behind zero. -/
theorem inOrder_iff {ranges : List GameRange} :
    InOrder ranges ↔ ranges ≠ [] ∧ Ascending 0 ranges := by
  rw [ascending_iff]
  exact ⟨fun order => ⟨order.nonempty, order.starts, order.proper, order.follows⟩,
    fun ⟨nonempty, starts, proper, follows⟩ => ⟨nonempty, starts, proper, follows⟩⟩

instance (ranges : List GameRange) : Decidable (InOrder ranges) :=
  decidable_of_iff _ inOrder_iff.symm

/-- Ranges that ascend lie behind what is before them, and each ends before any later one. -/
theorem pairwise_of_ascending {before : Nat} {ranges : List GameRange}
    (ascending : Ascending before ranges) :
    (∀ r ∈ ranges, before < r.first ∧ r.first ≤ r.last) ∧
      ranges.Pairwise fun r later => r.last < later.first := by
  induction ranges generalizing before with
  | nil => simp
  | cons r later ih =>
    obtain ⟨first, proper, rest⟩ := ascending
    obtain ⟨behind, apart⟩ := ih rest
    refine ⟨?_, List.pairwise_cons.mpr ⟨fun next among => (behind next among).1, apart⟩⟩
    intro next among
    rcases List.mem_cons.mp among with rfl | among
    · exact ⟨first, proper⟩
    · obtain ⟨after, own⟩ := behind next among
      exact ⟨by omega, own⟩

/-! ### Lists

A text is split at its commas and what is left empty is passed over. The description of a list
allows for just that, and the written form uses none of it. -/

/-- The text is pieces for the ranges with commas between them. Pieces may be left empty. -/
def IsListing (cs : List Char) (ranges : List GameRange) : Prop :=
  ∃ written : List (List Char), (∀ piece ∈ written, ',' ∉ piece) ∧
    cs = [','].intercalate written ∧
    List.Forall₂ GameRange.IsPiece (written.filter fun piece => !piece.isEmpty) ranges

/-- Every piece that is not empty can be read exactly if the text is a list. -/
theorem mapM_ofPiece?_eq_some_iff {cs : List Char} {ranges : List GameRange} :
    ((pieces ',' cs).filter fun piece => !piece.isEmpty).mapM GameRange.ofPiece? = some ranges ↔
      IsListing cs ranges := by
  simp only [mapM_eq_some_iff, GameRange.ofPiece?_eq_some_iff]
  constructor
  · intro read
    exact ⟨pieces ',' cs, fun _ => notMem_of_mem_pieces, (intercalate_pieces ',' cs).symm, read⟩
  · rintro ⟨written, clean, rfl, read⟩
    rwa [filter_pieces_intercalate clean]

/-- A list is accepted exactly if it is written as it may be and its ranges are in order. -/
theorem parse?_eq_some_iff {text : String} {read : GameRanges} :
    parse? text = some read ↔
      IsListing text.toList read.ranges ∧ InOrder read.ranges ∧ read.walked = 0 := by
  unfold parse?
  simp only [Option.bind_eq_bind, Option.bind_eq_some_iff, mapM_ofPiece?_eq_some_iff,
    Option.ite_none_right_eq_some, Option.pure_def, Option.some.injEq, ← inOrder_iff]
  constructor
  · rintro ⟨ranges, listing, order, rfl⟩
    exact ⟨listing, order, rfl⟩
  · rintro ⟨listing, order, unwalked⟩
    exact ⟨read.ranges, listing, order, by rw [← unwalked]⟩

/-- The written form of a list of ranges. -/
def render (ranges : List GameRange) : List Char :=
  [','].intercalate (ranges.map GameRange.render)

/-- The written form of ranges of 64-bit numbers is a list for them. -/
theorem isListing_render {ranges : List GameRange} (proper : ∀ r ∈ ranges, r.first ≤ r.last)
    (small : ∀ r ∈ ranges, r.last ≤ Numeral.max64) : IsListing (render ranges) ranges := by
  have is : ∀ r ∈ ranges, GameRange.IsPiece r.render r := fun r among =>
    GameRange.isPiece_render ((proper r among).trans (small r among)) (small r among)
  refine ⟨ranges.map GameRange.render, ?_, rfl, ?_⟩
  · intro piece among
    obtain ⟨r, here, rfl⟩ := List.mem_map.mp among
    exact (is r here).comma_notMem
  · have whole : (ranges.map GameRange.render).filter (fun piece => !piece.isEmpty) =
        ranges.map GameRange.render := by
      rw [List.filter_eq_self]
      intro piece among
      obtain ⟨r, here, rfl⟩ := List.mem_map.mp among
      simp [(is r here).ne_nil]
    rw [whole, List.forall₂_map_left_iff, List.forall₂_same]
    exact is

/-- What is written for ranges in order is read back. -/
theorem parse?_render {ranges : List GameRange} (order : InOrder ranges)
    (small : ∀ r ∈ ranges, r.last ≤ Numeral.max64) :
    parse? (String.ofList (render ranges)) = some ⟨ranges, 0⟩ := by
  rw [parse?_eq_some_iff, String.toList_ofList]
  exact ⟨isListing_render order.proper small, order, rfl⟩

end GameRanges

/-! ### Options that take a list

The two options with a list are one option with a parameter. What they do with a value is told by
the reader alone. -/

namespace GameList

/-- The option that gives a list of game numbers. -/
def optionName : GameList → String
  | selectOnly => "selectonly"
  | skipMatching => "skipmatching"

/-- What the option does to the configuration. -/
def adjustment : GameList → Adjustment
  | selectOnly => .selectOnly
  | skipMatching => .skipMatching

/-- The option puts the list in place of the one before, or reports that it is malformed. -/
theorem adjustment_apply (list : GameList) (option : OptionName) (value : String)
    (config : Config) :
    list.adjustment.apply option value config =
      match GameRanges.parse? value with
      | some ranges => .ok (config.setGameList list ranges)
      | none => .error (.usage (.malformedRanges option value)) := by
  cases list <;> simp only [adjustment, Adjustment.apply, Value.ranges] <;>
    cases GameRanges.parse? value <;> rfl

/-- Each of the two lists has an option of its own, which takes the value that follows its name. -/
theorem exists_option (list : GameList) {name : String} (names : name.toLower = list.optionName) :
    ∃ option, NamedOption.find? name = some option ∧ option.name = list.optionName ∧
      option.action = .adjust list.adjustment ∧ ∀ value, option.consumed value = .nameAndValue := by
  unfold NamedOption.find?
  rw [names]
  cases list with
  | selectOnly =>
    exact ⟨⟨"selectonly", some "N[:M],...", "output only the listed matches",
      .adjust .selectOnly⟩, by decide, rfl, rfl, fun _ => rfl⟩
  | skipMatching =>
    exact ⟨⟨"skipmatching", some "N[:M],...", "skip the listed matches",
      .adjust .skipMatching⟩, by decide, rfl, rfl, fun _ => rfl⟩

/-- The option puts the list that it is given in the place of the one before, or is refused and
changes no setting. -/
theorem performNamed_eq (context : Context) (includeFile : String → Action Unit)
    (list : GameList) {name : String} (names : name.toLower = list.optionName) (value : String)
    (session : Session) :
    performNamed context includeFile name value session =
      match GameRanges.parse? value with
      | some ranges =>
        .ok .nameAndValue
          { session.named with config := session.config.setGameList list ranges }
      | none =>
        .error (.usage (.malformedRanges (.named list.optionName) value)) session.named := by
  obtain ⟨option, found, named, acts, takes⟩ := list.exists_option names
  rw [ExtractOptions.performNamed_eq found, Action.map_apply, NamedOption.alone_of_adjust acts,
    adjustment_apply, named, takes]
  cases GameRanges.parse? value <;> rfl

end GameList

/-- Range lists are read exactly: what is accepted is written as it may be and in order, ranges in
order are read back from what is written for them, and an option that is refused its list leaves
the configuration, with the lists in it and the walks along them, as it was. -/
theorem GameRanges.reads_listings :
    (∀ (text : String) (read : GameRanges), parse? text = some read ↔
      IsListing text.toList read.ranges ∧ InOrder read.ranges ∧ read.walked = 0) ∧
    (∀ (text : String) (read : GameRanges), parse? text = some read →
      (∀ r ∈ read.ranges, 1 ≤ r.first ∧ r.first ≤ r.last) ∧
        read.ranges.Pairwise fun r later => r.last < later.first) ∧
    (∀ ranges : List GameRange, InOrder ranges → (∀ r ∈ ranges, r.last ≤ Numeral.max64) →
      parse? (String.ofList (render ranges)) = some ⟨ranges, 0⟩) ∧
    (∀ (context : Context) (includeFile : String → Action Unit) (list : GameList)
      (name value : String) (session : Session), name.toLower = list.optionName →
        ((performNamed context includeFile name value).succeeds session = true ↔
          (parse? value).isSome = true) ∧
        ∀ (failure : Failure) (left : Session),
          performNamed context includeFile name value session = .error failure left →
            left.config = session.config) := by
  refine ⟨fun _ _ => parse?_eq_some_iff, ?_, fun _ => parse?_render, ?_⟩
  · intro text read accepted
    obtain ⟨-, order, -⟩ := parse?_eq_some_iff.mp accepted
    exact pairwise_of_ascending (inOrder_iff.mp order).2
  · intro context includeFile list name value session names
    have does := list.performNamed_eq context includeFile names value session
    cases read : parse? value with
    | some ranges =>
      rw [read] at does
      refine ⟨iff_of_true (Action.succeeds_of_ok does) rfl, fun failure left refused => ?_⟩
      rw [does] at refused
      cases refused
    | none =>
      rw [read] at does
      refine ⟨iff_of_false ?_ (by simp), fun failure left refused => ?_⟩
      · rw [Action.succeeds_of_error does]
        decide
      · rw [does] at refused
        cases refused
        rfl

/-- White space, empty pieces and leading zeros are passed over, the greatest number is read back,
and a list that is not in order is refused halfway along the one before it. -/
theorem GameRanges.reads_listings_spaced :
    (parse? "\t007 : 9 ,,12" = some ⟨[⟨7, 9⟩, ⟨12, 12⟩], 0⟩ ∧
      [⟨7, 9⟩, ⟨12, 12⟩].Pairwise fun r later : GameRange => r.last < later.first) ∧
    (InOrder [⟨1, 1⟩, ⟨2, Numeral.max64⟩] ∧
      parse? (String.ofList (render [⟨1, 1⟩, ⟨2, Numeral.max64⟩])) =
        some ⟨[⟨1, 1⟩, ⟨2, Numeral.max64⟩], 0⟩) ∧
    ("SelectOnly".toLower = GameList.selectOnly.optionName ∧
      ∃ failure left,
        performNamed {} (fun _ => pure ()) "SelectOnly" "5,3"
            { disk := ⟨[], []⟩, config := { selectOnly := some ⟨[⟨2, 2⟩, ⟨4, 6⟩], 1⟩ } } =
          .error failure left ∧
        left.config = { selectOnly := some ⟨[⟨2, 2⟩, ⟨4, 6⟩], 1⟩ }) := by
  have read : parse? "\t007 : 9 ,,12" = some ⟨[⟨7, 9⟩, ⟨12, 12⟩], 0⟩ := by decide
  have order : InOrder [⟨1, 1⟩, ⟨2, Numeral.max64⟩] := by decide
  have name : "SelectOnly".toLower = GameList.selectOnly.optionName := by decide +kernel
  have refused := GameList.performNamed_eq {} (fun _ => pure ()) .selectOnly name "5,3"
    { disk := ⟨[], []⟩, config := { selectOnly := some ⟨[⟨2, 2⟩, ⟨4, 6⟩], 1⟩ } }
  rw [show parse? "5,3" = none by decide] at refused
  exact ⟨⟨read, (reads_listings.2.1 _ _ read).2⟩,
    ⟨order, reads_listings.2.2.1 _ order (by decide)⟩,
    ⟨name, _, _, refused, (reads_listings.2.2.2 {} _ .selectOnly _ "5,3" _ name).2 _ _ refused⟩⟩

end ExtractOptions
