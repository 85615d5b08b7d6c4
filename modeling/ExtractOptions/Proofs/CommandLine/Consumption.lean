/-
Module: ExtractOptions.Proofs.CommandLine.Consumption
Purpose: what an option that is given by name reports to have used. It reports the value exactly if
  the usage text shows one for it, and the option that splits variations exactly if the value is a
  depth. What the report leaves out had no part in what the option did.
Main exports: NamedOption.Uses, NamedOption.consumed_iff_uses, performNamed_of_bare,
  performNamed_consumes
-/
import ExtractOptions.Proofs.CommandLine.Composition
import ExtractOptions.Proofs.Text.Numeral

namespace ExtractOptions

open Text ExtractOptions.Action

/-- The depth at which variations are split is a number of 32 bits, with white space around it and a
plus sign in front of it if one likes. -/
theorem Value.splitDepth?_isSome_iff {value : String} :
    (splitDepth? value).isSome = true ↔
      ∃ n ≤ Numeral.max32, Numeral.DenotesUnsigned (digitsOf value) n := by
  simp only [Option.isSome_iff_exists, splitDepth?, Numeral.unsigned?_eq_some_iff, and_comm]

namespace NamedOption

/-- The value that follows the name belongs to the option: the usage text shows one, which may be
left out only in front of something that is no depth. -/
def Uses (option : NamedOption) (value : String) : Prop :=
  if option.name = "splitvariants" then
    ∃ n ≤ Numeral.max32, Numeral.DenotesUnsigned (Value.digitsOf value) n
  else
    option.placeholder.isSome = true

/-- The option of that name is the one that splits variations. -/
theorem splitVariants_of_name {option : NamedOption} (listed : option ∈ all)
    (named : option.name = "splitvariants") : option.action = .adjust .splitVariants := by
  have every : ∀ option ∈ all, option.name = "splitvariants" →
      option.action = .adjust .splitVariants := by decide
  exact every option listed named

/-- The report of an option says whether the value belongs to it. -/
theorem consumed_iff_uses {option : NamedOption} (listed : option ∈ all) (value : String) :
    option.consumed value = .nameAndValue ↔ option.Uses value := by
  unfold Uses
  split
  · rename_i named
    rw [consumed_of_splitVariants (splitVariants_of_name listed named),
      ← Value.splitDepth?_isSome_iff]
    cases (Value.splitDepth? value).isSome <;> simp
  · rename_i other
    rw [consumed_eq listed fun splits => other (name_of_splitVariants listed splits), takesValue]
    cases option.placeholder.isSome <;> simp

/-- An option without a placeholder uses its name alone. -/
theorem consumed_of_bare {option : NamedOption} (listed : option ∈ all)
    (bare : option.placeholder = none) (value : String) : option.consumed value = .nameOnly := by
  have takes : option.takesValue = false := by simp [takesValue, bare]
  have other : option.action ≠ .adjust .splitVariants := by
    have every : ∀ option ∈ all, option.action = .adjust .splitVariants →
        option.placeholder.isSome = true := by decide
    intro splits
    simpa [bare] using every option listed splits
  simp [consumed_eq listed other, takes]

end NamedOption

section

variable {context : Context} {includeFile : String → Action Unit} {name : String}
  {option : NamedOption}

/-- Two values that an option leaves to the next token make no difference. -/
theorem performNamed_of_nameOnly (found : NamedOption.find? name = some option)
    {value other : String} (only : option.consumed value = .nameOnly)
    (also : option.consumed other = .nameOnly) :
    performNamed context includeFile name value = performNamed context includeFile name other := by
  have listed : option ∈ NamedOption.all := List.mem_of_find?_eq_some found
  rw [performNamed_eq found, performNamed_eq found, only, also,
    NamedOption.alone_of_nameOnly context listed only,
    NamedOption.alone_of_nameOnly context listed also]

/-- An option without a placeholder does the same, or fails the same, whatever follows it. -/
theorem performNamed_of_bare (found : NamedOption.find? name = some option)
    (bare : option.placeholder = none) (value other : String) :
    performNamed context includeFile name value = performNamed context includeFile name other := by
  have listed : option ∈ NamedOption.all := List.mem_of_find?_eq_some found
  exact performNamed_of_nameOnly found (NamedOption.consumed_of_bare listed bare value)
    (NamedOption.consumed_of_bare listed bare other)

/-- An option that succeeds reports the value exactly if it belongs to the option, which no empty
value does. Where the report is the name alone, two values leave the same session; and where the
usage text shows no value, they also fail alike. -/
theorem performNamed_consumes (found : NamedOption.find? name = some option) (session : Session) :
    (∀ value consumed left,
      performNamed context includeFile name value session = .ok consumed left →
        (consumed = .nameAndValue ↔ option.Uses value) ∧ (value = "" → consumed = .nameOnly)) ∧
    (∀ value other left after,
      performNamed context includeFile name value session = .ok .nameOnly left →
      performNamed context includeFile name other session = .ok .nameOnly after →
        left = after) ∧
    (option.placeholder = none → ∀ value other,
      performNamed context includeFile name value session =
        performNamed context includeFile name other session) := by
  have listed : option ∈ NamedOption.all := List.mem_of_find?_eq_some found
  have reported {value : String} {consumed : Consumed} {left : Session}
      (run : performNamed context includeFile name value session = .ok consumed left) :
      option.consumed value = consumed := by
    obtain ⟨used, again, uses, -⟩ := performNamed_eq_ok run
    cases found.symm.trans again
    exact uses
  refine ⟨fun value consumed left run => ⟨?_, ?_⟩, fun value other left after run again => ?_,
    fun bare value other => congrFun (performNamed_of_bare found bare value other) session⟩
  · rw [← reported run]
    exact NamedOption.consumed_iff_uses listed value
  · rintro rfl
    exact performNamed_missing run
  · have same := @performNamed_of_nameOnly context includeFile _ _ found _ _ (reported run)
      (reported again)
    rw [same, again] at run
    cases run
    rfl

/-- Splitting variations uses a depth, and reports its name alone in front of a file. -/
theorem performNamed_consumes_depth :
    let splitting : NamedOption :=
      ⟨"splitvariants", some "[depth]", "output variations as separate games",
        .adjust .splitVariants⟩
    let start : Session := { disk := ⟨[], []⟩ }
    let given (value : String) :=
      performNamed {} (readArgumentFile {}) "SplitVariants" value start
    NamedOption.find? "SplitVariants" = some splitting ∧
      (∃ left, given " +7" = .ok .nameAndValue left) ∧ splitting.Uses " +7" ∧
      (∃ left, given "7.pgn" = .ok .nameOnly left) ∧ ¬ splitting.Uses "7.pgn" := by
  intro splitting start given
  have found : NamedOption.find? "SplitVariants" = some splitting := by decide +kernel
  have consumes := @performNamed_consumes {} (readArgumentFile {}) _ _ found start
  have does (value : String) :
      ∃ left, given value = .ok (splitting.consumed value) left := by
    have alone := @NamedOption.alone_of_adjust {} splitting .splitVariants rfl value start
    simp only [given, performNamed_eq found, map_apply, alone, Adjustment.apply]
    cases Value.splitDepth? value <;> exact ⟨_, rfl⟩
  have deep : splitting.consumed " +7" = .nameAndValue := by decide +kernel
  have file : splitting.consumed "7.pgn" = .nameOnly := by decide +kernel
  obtain ⟨afterDepth, depth⟩ := does " +7"
  obtain ⟨afterFile, bare⟩ := does "7.pgn"
  rw [deep] at depth
  rw [file] at bare
  refine ⟨found, ⟨_, depth⟩, (consumes.1 _ _ _ depth).1.mp rfl, ⟨_, bare⟩, fun uses => ?_⟩
  exact absurd ((consumes.1 _ _ _ bare).1.mpr uses) (by decide)

end

end ExtractOptions
