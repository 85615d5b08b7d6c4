/-
Module: ExtractOptions.Proofs.DataLine
Purpose: what becomes of one line of data. A line of an option that takes data lines is counted and
  handed to the rest of the tool with the request of its kind. A line of any other option is
  counted and then fails for a defect of the program.
Main exports: DataKind.option, DataKind.request, LetterOption.persists_iff, deliver_option,
  deliver_of_not_persists
-/
import ExtractOptions.DataLine
import ExtractOptions.Proofs.Action

namespace ExtractOptions

open Text

/-! ### The options that take data lines

Six options take data lines, one for each kind. Whether an option is one of them is asked where the
option in force is chosen; what the kind asks of the rest of the tool is asked where a line is handed
on. -/

/-- The option that a kind of data lines belongs to. -/
def DataKind.option : DataKind → LetterOption
  | tagCriteria => .tagCriteria
  | tagRoster => .tagRoster
  | textualVariations => .textualVariations
  | positionalVariations => .positionalVariations
  | colouredEndings => .colouredEndings
  | endings => .endings

/-- An option has a kind of data lines exactly if the kind belongs to it. -/
theorem LetterOption.dataKind?_eq_some_iff {option : LetterOption} {kind : DataKind} :
    option.dataKind? = some kind ↔ kind.option = option := by
  cases option <;> cases kind <;> decide

/-- The request that a data line of a kind makes; `origin` is the file it stands in. -/
def DataKind.request (kind : DataKind) (origin line : String) : Request :=
  match kind with
  | tagCriteria => .tagCriterion ⟨line, origin⟩
  | tagRoster => .rosterLine line
  | textualVariations => .textualVariation line
  | positionalVariations => .positionalVariation line
  | colouredEndings => .material line false
  | endings => .material line true

/-- The options that stay in force after their line are those of the kinds of data lines. -/
theorem LetterOption.persists_iff {option : LetterOption} :
    option.persists = true ↔ ∃ kind : DataKind, kind.option = option := by
  simp only [persists, Option.isSome_iff_exists, dataKind?_eq_some_iff]

/-- An option has a kind of data lines, or it takes none. -/
theorem LetterOption.exists_kind_or (option : LetterOption) :
    (∃ kind : DataKind, kind.option = option) ∨ option.persists = false := by
  rw [← persists_iff, ← Bool.not_eq_true]
  exact Classical.em _

@[simp] theorem DataKind.persists_option (kind : DataKind) : kind.option.persists = true :=
  LetterOption.persists_iff.mpr ⟨kind, rfl⟩

/-! ### One line

The router has an arm for every option with data lines and one for all the others. The two equations
say what comes of each of them, so that nothing below looks into the router again. -/

section

variable {context : Context} {origin line : String}

/-- A line of an option with data lines is counted and handed on with the request of its kind. -/
theorem deliver_option (context : Context) (kind : DataKind) (origin line : String) :
    deliver context kind.option origin line = (do
      Action.count fun counters => { counters with dataLines := counters.dataLines + 1 }
      if kind = .positionalVariations then
        Action.modifyConfig fun config => config.set .positionalVariations true
      Action.request context (kind.option.text ++ " line \"" ++ line ++ "\" from " ++ origin)
        (kind.request origin line)) := by
  cases kind <;> rfl

/-- A line of any other option is counted and is a defect. -/
theorem deliver_of_not_persists {option : LetterOption} (takes : option.persists = false) :
    deliver context option origin line = (do
      Action.count fun counters => { counters with dataLines := counters.dataLines + 1 }
      throw (.internal (.noDataLines option))) := by
  cases option <;> first | rfl | cases takes

end

end ExtractOptions
