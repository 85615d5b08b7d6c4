/-
Module: ExtractOptions.Proofs.Text.Pieces
Purpose: how texts are cut. A text is put together again from its pieces, which hold no separator;
  it is cut at its first separator, behind a given start, or before a given end; and trimming takes
  white space off its ends and nothing else.
Main exports: pieces_eq_splitOn, notMem_of_mem_pieces, cut?_append, eq_append_of_cut?,
  cut?_eq_none_iff, dropPrefix?_eq_some_iff, dropPrefix?_eq_none_iff, skipSpaces_of_head?,
  dropEndWhile_eq_self_iff, exists_trimmed, trimChars_padded
-/
import ExtractOptions.Text.Blank
import Mathlib.Data.List.DropRight

namespace ExtractOptions.Text

/-! ### Pieces between separators

Cutting at all separators is the library's `splitOn`, with the facts on it that are used: what holds
no separator, and what is put together again. -/

section Separator

variable {separator : Char} {cs : List Char}

/-- Cutting a text at a separator is splitting the list of its characters. -/
theorem pieces_eq_splitOn (separator : Char) (cs : List Char) :
    pieces separator cs = cs.splitOn separator := by
  induction cs with
  | nil => rfl
  | cons c cs ih =>
    rw [List.splitOn_cons_eq_if_modifyHead, pieces, ih]
    by_cases same : c = separator
    · simp [same]
    · cases later : cs.splitOn separator with
      | nil => exact absurd later (List.splitOn_ne_nil separator cs)
      | cons piece later => simp [same]

/-- No piece holds the separator. -/
theorem notMem_of_mem_pieces {piece : List Char} (among : piece ∈ pieces separator cs) :
    separator ∉ piece := by
  induction cs generalizing piece with
  | nil =>
    simp only [pieces, List.mem_singleton] at among
    simp [among]
  | cons c cs ih =>
    unfold pieces at among
    split at among
    · rcases List.mem_cons.mp among with rfl | later
      · exact List.not_mem_nil
      · exact ih later
    · rename_i other
      cases rest : pieces separator cs with
      | nil => exact absurd rest (pieces_ne_nil separator cs)
      | cons head later =>
        simp only [rest] at among ih
        rcases List.mem_cons.mp among with rfl | among
        · simp only [List.mem_cons, not_or]
          exact ⟨Ne.symm other, ih List.mem_cons_self⟩
        · exact ih (List.mem_cons_of_mem _ among)

/-- A text is its pieces with separators between them. -/
theorem intercalate_pieces (separator : Char) (cs : List Char) :
    [separator].intercalate (pieces separator cs) = cs := by
  rw [pieces_eq_splitOn, List.intercalate_splitOn]

/-- Putting pieces together and cutting the text again gives the pieces, but for empty ones. -/
theorem filter_pieces_intercalate {written : List (List Char)}
    (clean : ∀ piece ∈ written, separator ∉ piece) :
    (pieces separator ([separator].intercalate written)).filter (fun piece => !piece.isEmpty) =
      written.filter fun piece => !piece.isEmpty := by
  by_cases none : written = []
  · subst none
    rfl
  · rw [pieces_eq_splitOn, List.splitOn_intercalate separator clean none]

/-! ### The first separator

Cutting at the first separator only. The two equations and the inversion are all that is known of
`cut?` elsewhere. -/

/-- A text is cut at its first separator. -/
theorem cut?_append (before after : List Char) (clean : separator ∉ before) :
    cut? separator (before ++ separator :: after) = some (before, after) := by
  have passes : ∀ c ∈ before, (c != separator) = true := by
    intro c among
    simp only [bne_iff_ne]
    rintro rfl
    exact clean among
  unfold cut?
  rw [List.dropWhile_append_of_pos passes, List.takeWhile_append_of_pos passes]
  simp

/-- A text without the separator is not cut, and only such a text is not. -/
theorem cut?_eq_none_iff : cut? separator cs = none ↔ separator ∉ cs := by
  unfold cut?
  cases rest : cs.dropWhile (· != separator) with
  | nil =>
    simp only [List.dropWhile_eq_nil_iff, bne_iff_ne] at rest
    exact iff_of_true rfl fun here => rest separator here rfl
  | cons c rest =>
    simp only [reduceCtorEq, false_iff, not_not]
    have stops := List.head?_dropWhile_not (· != separator) cs
    simp only [rest, List.head?_cons, bne_eq_false_iff_eq] at stops
    subst stops
    exact (List.dropWhile_suffix _).subset (by rw [rest]; exact List.mem_cons_self)

/-- What was cut is put together again with the separator. -/
theorem eq_append_of_cut? {before after : List Char}
    (cut : cut? separator cs = some (before, after)) : cs = before ++ separator :: after := by
  have here : separator ∈ cs := by
    by_contra absent
    rw [cut?_eq_none_iff.mpr absent] at cut
    cases cut
  obtain ⟨first, rest, rfl, clean⟩ := List.eq_append_cons_of_mem here
  rw [cut?_append first rest clean] at cut
  cases cut
  rfl

end Separator

/-! ### A given start

A text starts with another one or does not, and one equivalence says each. -/

section Front

variable {front cs rest : List Char}

/-- What is left behind a given start, if the text has it. -/
theorem dropPrefix?_eq_some_iff : dropPrefix? front cs = some rest ↔ cs = front ++ rest := by
  induction front generalizing cs with
  | nil => simp [dropPrefix?]
  | cons p front ih =>
    cases cs with
    | nil => simp [dropPrefix?]
    | cons c cs =>
      by_cases same : p = c
      · simp [dropPrefix?, same, ih]
      · simp [dropPrefix?, same, Ne.symm same]

theorem dropPrefix?_eq_none_iff : dropPrefix? front cs = none ↔ ¬ front <+: cs := by
  simp only [Option.eq_none_iff_forall_ne_some, ne_eq, dropPrefix?_eq_some_iff, List.IsPrefix,
    not_exists, @eq_comm _ cs]

end Front

theorem skipSpaces_of_head? {text : String} (unspaced : text.toList.head? ≠ some ' ') :
    skipSpaces text = text := by
  have kept : text.toList.dropWhile (· == ' ') = text.toList := by
    cases chars : text.toList with
    | nil => rfl
    | cons c rest =>
      have other : c ≠ ' ' := by
        rintro rfl
        simp [chars] at unspaced
      simp [other]
  unfold skipSpaces
  rw [kept, String.ofList_toList]

/-! ### A given end

Characters are cut off the end of a text as long as they are of one sort. What is left does not end
in one. -/

section Back

variable {text : List Char} {last : Char}

theorem dropEndWhile_congr {p q : Char → Bool} (same : ∀ c ∈ text, p c = q c) :
    dropEndWhile p text = dropEndWhile q text := by
  have drop : ∀ cs : List Char, (∀ c ∈ cs, p c = q c) → cs.dropWhile p = cs.dropWhile q := by
    intro cs same
    induction cs with
    | nil => rfl
    | cons c cs ih =>
      rw [List.dropWhile_cons, List.dropWhile_cons, same c List.mem_cons_self,
        ih fun d among => same d (List.mem_cons_of_mem c among)]
  unfold dropEndWhile
  rw [drop _ fun c among => same c (List.mem_reverse.mp among)]

/-- What is cut off the end of a text is one character, any number of times. -/
theorem exists_replicate_dropEndWhile (text : List Char) (last : Char) :
    ∃ count, text = dropEndWhile (· == last) text ++ List.replicate count last := by
  refine ⟨(text.rtakeWhile (· == last)).length, ?_⟩
  have only : ∀ c ∈ text.rtakeWhile (· == last), c = last := fun c among =>
    eq_of_beq (List.mem_rtakeWhile_imp (p := (· == last)) among)
  have left : dropEndWhile (· == last) text = text.rdropWhile (· == last) := rfl
  rw [left, ← List.eq_replicate_of_mem only, List.rdropWhile_append_rtakeWhile]

/-- A text that ends in another character keeps all of it. -/
theorem dropEndWhile_eq_self_iff :
    dropEndWhile (· == last) text = text ↔ text.getLast? ≠ some last := by
  have left : dropEndWhile (· == last) text = text.rdropWhile (· == last) := rfl
  rw [left, List.rdropWhile_eq_self_iff]
  constructor
  · intro kept ends
    obtain ⟨front, rfl⟩ := List.getLast?_eq_some_iff.mp ends
    exact kept (by simp) (by simp)
  · intro bare more ends
    exact bare (by rw [List.getLast?_eq_some_getLast more, eq_of_beq ends])

theorem dropEndWhile_append_replicate (bare : text.getLast? ≠ some last) (count : Nat) :
    dropEndWhile (· == last) (text ++ List.replicate count last) = text := by
  induction count with
  | zero => rw [List.replicate_zero, List.append_nil, dropEndWhile_eq_self_iff.mpr bare]
  | succ count ih =>
    rw [List.replicate_succ', ← List.append_assoc]
    exact (List.rdropWhile_concat_pos _ _ _ (by simp)).trans ih

end Back

/-! ### White space at the ends

Trimming takes white space off both ends. What was taken off can be put back, and that is how it is
described. -/

/-- A text is what trimming leaves of it, with white space put back. -/
theorem exists_trimmed (cs : List Char) :
    ∃ before after : List Char, (∀ c ∈ before, isBlank c = true) ∧ (∀ c ∈ after, isBlank c = true) ∧
      cs = before ++ trimChars cs ++ after := by
  refine ⟨cs.takeWhile isBlank, (cs.dropWhile isBlank).rtakeWhile isBlank, ?_, ?_, ?_⟩
  · intro c among
    exact List.mem_takeWhile_imp among
  · intro c among
    exact List.mem_rtakeWhile_imp among
  · have left : trimChars cs = (cs.dropWhile isBlank).rdropWhile isBlank := rfl
    rw [left, List.append_assoc, List.rdropWhile_append_rtakeWhile, List.takeWhile_append_dropWhile]

/-- Trimming leaves nothing of white space only. -/
theorem isBlankText_of_trim_eq_empty {s : String} (gone : trim s = "") : isBlankText s = true := by
  obtain ⟨before, after, blankBefore, blankAfter, parts⟩ := exists_trimmed s.toList
  have nothing : trimChars s.toList = [] := by
    rw [← String.toList_ofList (l := trimChars s.toList)]
    exact congrArg String.toList gone
  unfold isBlankText
  rw [parts, nothing, List.append_nil, List.all_append, Bool.and_eq_true, List.all_eq_true,
    List.all_eq_true]
  exact ⟨blankBefore, blankAfter⟩

/-- Trimming takes the white space off a text that has none of its own. -/
theorem trimChars_padded {before body after : List Char}
    (blankBefore : ∀ c ∈ before, isBlank c = true) (blankAfter : ∀ c ∈ after, isBlank c = true)
    (printed : ∀ c ∈ body, isBlank c = false) : trimChars (before ++ body ++ after) = body := by
  have fixed : ∀ text : List Char, (∀ c ∈ text, isBlank c = false) →
      text.dropWhile isBlank = text := by
    intro text printed
    cases text with
    | nil => rfl
    | cons c text => exact List.dropWhile_cons_of_neg (by simp [printed c List.mem_cons_self])
  unfold trimChars dropEndWhile
  rw [List.append_assoc, List.dropWhile_append_of_pos blankBefore]
  cases body with
  | nil =>
    have gone : after.dropWhile isBlank = [] := List.dropWhile_eq_nil_iff.mpr blankAfter
    rw [List.nil_append, gone]
    rfl
  | cons c body =>
    have head : isBlank c = false := printed c List.mem_cons_self
    rw [List.cons_append, List.dropWhile_cons_of_neg (by simp [head]), ← List.cons_append,
      List.reverse_append, List.dropWhile_append_of_pos (by simpa using blankAfter),
      fixed _ fun c among => printed c (List.mem_reverse.mp among), List.reverse_reverse]

end ExtractOptions.Text
