/-
Module: ExtractOptions.Proofs.Run.Flag
Purpose: options without a value that change the configuration alone. Such an option leaves one
  mark. In a configuration that only such options lead to, it fails exactly if the configuration refuses
  its mark, and then says that options contradict each other.
Main exports: Adjustment.mark?, Adjustment.apply_of_mark?
-/
import ExtractOptions.Proofs.Run.Mark

namespace ExtractOptions

/-! ### Adjustments that leave a mark

An adjustment without a value that succeeds leaves its mark, and one that fails met a mark that
opposes its own. The inversions for failures stand beside those for successes. -/

/-- The mark that an adjustment leaves, if it reads no value and leaves but one. -/
def Adjustment.mark? : Adjustment → Option Mark
  | turn switch position =>
    if switch.isBare ∧ position = !switch.initially then some (.turned switch) else none
  | verbosity level => if level = 0 then some .quiet else none
  | ending which => some (.turned (.onlyEnding which))
  | winner which => some (.turned (.onlyWinner which))
  | sideToMove side => some (.sideToMove side)
  | setupTags policy => some (.setupTags policy)
  | moveRule moves => some (.moveRule moves)
  | repetition count => some (.repetition count)
  | onlyCommented => some (.turned .onlyCommented)
  | dropComments => some (.turned .keepComments)
  | dropVariations => some (.turned .keepVariations)
  | dropDuplicates => some (.turned .suppressDuplicates)
  | sevenTagRoster => some (.tagOutput .sevenTagRoster)
  | noTags => some (.tagOutput .noTags)
  | onlyWantedTags => some (.turned .onlyWantedTags)
  | _ => none

section Refusal

variable {α : Type}

/-- A check fails on a contradiction, with the clash. -/
theorem clashIf_eq_error {contradicts : Prop} [Decidable contradicts] {clash : Clash}
    {failure : Failure} (refused : clashIf contradicts clash = .error failure) :
    contradicts ∧ failure = .conflict clash := by
  unfold clashIf at refused
  split at refused
  · rename_i holds
    cases refused
    exact ⟨holds, rfl⟩
  · cases refused

/-- What is done unless it contradicts something fails on a contradiction only. -/
theorem clashIf_bind_eq_error {contradicts : Prop} [Decidable contradicts] {clash : Clash}
    {next : α} {failure : Failure}
    (refused : (clashIf contradicts clash >>= fun _ => pure next) = .error failure) :
    contradicts ∧ failure = .conflict clash := by
  cases checked : clashIf contradicts clash with
  | ok =>
    rw [checked] at refused
    cases refused
  | error =>
    rw [checked] at refused
    cases refused
    exact clashIf_eq_error checked

/-- Tests of all items fail where one of them fails. -/
theorem forM_eq_error {items : List α} {test : α → Except Failure Unit} {failure : Failure}
    (failed : items.forM test = .error failure) : ∃ item ∈ items, test item = .error failure := by
  induction items with
  | nil => cases failed
  | cons item items ih =>
    cases first : test item with
    | error =>
      simp only [List.forM, first] at failed
      cases failed
      exact ⟨item, List.mem_cons_self, first⟩
    | ok =>
      simp only [List.forM, first] at failed
      obtain ⟨later, among, fails⟩ := ih failed
      exact ⟨later, List.mem_cons_of_mem _ among, fails⟩

/-- A choice that cannot be confirmed was made in another way. -/
theorem confirm_eq_error {chosen : Option Nat} {wanted : Nat} {same made : Config}
    {refusal : Nat → Failure} {failure : Failure}
    (run : (match chosen with
        | some other => if other = wanted then .ok same else .error (refusal other)
        | none => .ok made : Except Failure Config) = .error failure) :
    ∃ other ∈ chosen, other ≠ wanted ∧ failure = refusal other := by
  cases chosen with
  | none => cases run
  | some other =>
    simp only at run
    split at run
    · cases run
    · rename_i different
      cases run
      exact ⟨other, rfl, different, rfl⟩

/-- Another policy is in force only if one was chosen that is not the same. -/
theorem otherSetupTags?_eq_some {config : Config} {policy : SetupTags} {other : OptionName}
    (some : config.otherSetupTags? policy = some other) :
    config.setupTags ≠ .allowed ∧ config.setupTags ≠ policy := by
  unfold Config.otherSetupTags? at some
  split at some
  · cases some
  · rename_i others
    exact not_or.mp others

/-- A policy is refused while another one is in force. -/
theorem setupTags_eq_error {policy : SetupTags} {name : OptionName} {value : String}
    {config : Config} {failure : Failure}
    (refused : (Adjustment.setupTags policy).apply name value config = .error failure) :
    (config.setupTags ≠ .allowed ∧ config.setupTags ≠ policy) ∧
      ∃ clash, failure = .conflict clash := by
  cases clash : config.otherSetupTags? policy with
  | none =>
    simp only [Adjustment.apply, clash] at refused
    cases refused
  | some other =>
    simp only [Adjustment.apply, clash] at refused
    cases refused
    exact ⟨otherSetupTags?_eq_some clash, _, rfl⟩

/-- An ending is refused while one that excludes it was asked for. -/
theorem ending_eq_error {which : Ending} {name : OptionName} {value : String} {config : Config}
    {failure : Failure}
    (refused : (Adjustment.ending which).apply name value config = .error failure) :
    (∃ rival ∈ which.rivals, config.on (.onlyEnding rival) = true) ∧
      ∃ clash, failure = .conflict clash := by
  cases checked : config.checkEnding name which with
  | ok =>
    simp only [Adjustment.apply, checked] at refused
    cases refused
  | error =>
    simp only [Adjustment.apply, checked] at refused
    cases refused
    obtain ⟨rival, rivals, clashes⟩ := forM_eq_error checked
    obtain ⟨asked, conflict⟩ := clashIf_eq_error clashes
    exact ⟨⟨rival, rivals, asked⟩, _, conflict⟩

end Refusal

/-- An adjustment that succeeds leaves its mark. -/
theorem Adjustment.eq_marked_of_apply {adjustment : Adjustment} {mark : Mark}
    (marks : adjustment.mark? = some mark) {name : OptionName} {value : String}
    {config changed : Config} (made : adjustment.apply name value config = .ok changed) :
    changed = config.marked mark := by
  cases adjustment with
  | turn switch position =>
    obtain ⟨⟨-, rfl⟩, ⟨⟩⟩ := Option.ite_none_right_eq_some.mp marks
    cases made
    rfl
  | verbosity level =>
    obtain ⟨rfl, ⟨⟩⟩ := Option.ite_none_right_eq_some.mp marks
    cases made
    rfl
  | ending which =>
    cases marks
    obtain ⟨_, -, rfl⟩ := bind_pure_eq_ok.mp made
    rfl
  | winner | sideToMove | onlyCommented | dropComments | dropVariations | dropDuplicates
  | sevenTagRoster | noTags | onlyWantedTags =>
    cases marks
    obtain ⟨-, rfl⟩ := clashIf_bind_eq_ok.mp made
    rfl
  | setupTags policy =>
    cases marks
    cases clash : config.otherSetupTags? policy <;> simp only [apply, clash] at made <;> cases made
    rfl
  | moveRule moves =>
    cases marks
    rcases confirm_eq_ok made with ⟨-, rfl⟩ | ⟨chosen, same⟩
    · rfl
    -- A rule that was asked for already is only confirmed.
    · have bears : config.bears (.moveRule moves) := chosen
      exact same.trans (Config.marked_of_bears bears).symm
  | repetition count =>
    cases marks
    rcases confirm_eq_ok made with ⟨-, rfl⟩ | ⟨chosen, same⟩
    · rfl
    · have bears : config.bears (.repetition count) := chosen
      exact same.trans (Config.marked_of_bears bears).symm
  | _ => cases marks

/-- A side that was chosen is one of two. -/
theorem SideToMove.eq_white_or_black {side : SideToMove} (chosen : side ≠ .either) :
    side = .white ∨ side = .black := by
  cases side with
  | either => exact absurd rfl chosen
  | white => exact .inl rfl
  | black => exact .inr rfl

/-- A policy that restricts games is one of two. -/
theorem SetupTags.eq_excluded_or_required {policy : SetupTags} (restricts : policy ≠ .allowed) :
    policy = .excluded ∨ policy = .required := by
  cases policy with
  | allowed => exact absurd rfl restricts
  | excluded => exact .inl rfl
  | required => exact .inr rfl

/-- An adjustment that takes a stance fails only while a rival stance is taken, and says so. -/
theorem Stance.rival_taken_of_error {stance : Stance} {adjustment : Adjustment} {mark : Mark}
    {name : OptionName} {value : String} {config : Config} {failure : Failure}
    (plain : config.IsPlain) (makes : stance.adjustment? = some adjustment)
    (marks : adjustment.mark? = some mark)
    (failed : adjustment.apply name value config = .error failure) :
    (∃ clash, failure = .conflict clash) ∧ ∃ rival ∈ stance.rivals, rival.isTaken config := by
  cases stance with
  | ending which =>
    cases makes
    obtain ⟨⟨rival, rivals, asked⟩, clash⟩ := ending_eq_error failed
    exact ⟨clash, .ending rival, List.mem_map_of_mem rivals, asked⟩
  | winner which =>
    cases makes
    obtain ⟨asked, rfl⟩ := clashIf_bind_eq_error failed
    exact ⟨⟨_, rfl⟩, .winner which.rival, List.mem_singleton_self _, asked⟩
  | fiftyMoves =>
    cases makes
    obtain ⟨other, chosen, different, rfl⟩ := confirm_eq_error failed
    obtain rfl := (plain.moveRule other chosen).resolve_left different
    exact ⟨⟨_, rfl⟩, .seventyFiveMoves, List.mem_singleton_self _, chosen⟩
  | seventyFiveMoves =>
    cases makes
    obtain ⟨other, chosen, different, rfl⟩ := confirm_eq_error failed
    obtain rfl := (plain.moveRule other chosen).resolve_right different
    exact ⟨⟨_, rfl⟩, .fiftyMoves, List.mem_singleton_self _, chosen⟩
  | threefold =>
    cases makes
    obtain ⟨other, chosen, different, rfl⟩ := confirm_eq_error failed
    obtain rfl := (plain.repetition other chosen).resolve_left different
    exact ⟨⟨_, rfl⟩, .fivefold, List.mem_singleton_self _, chosen⟩
  | fivefold =>
    cases makes
    obtain ⟨other, chosen, different, rfl⟩ := confirm_eq_error failed
    obtain rfl := (plain.repetition other chosen).resolve_right different
    exact ⟨⟨_, rfl⟩, .threefold, List.mem_singleton_self _, chosen⟩
  | whiteToMove =>
    cases makes
    obtain ⟨⟨chosen, different⟩, rfl⟩ := clashIf_bind_eq_error failed
    have taken := (SideToMove.eq_white_or_black chosen).resolve_left different
    exact ⟨⟨_, rfl⟩, .blackToMove, List.mem_singleton_self _, taken⟩
  | blackToMove =>
    cases makes
    obtain ⟨⟨chosen, different⟩, rfl⟩ := clashIf_bind_eq_error failed
    have taken := (SideToMove.eq_white_or_black chosen).resolve_right different
    exact ⟨⟨_, rfl⟩, .whiteToMove, List.mem_singleton_self _, taken⟩
  | setupExcluded =>
    cases makes
    obtain ⟨⟨restricts, different⟩, clash⟩ := setupTags_eq_error failed
    have taken := (SetupTags.eq_excluded_or_required restricts).resolve_left different
    exact ⟨clash, .setupRequired, List.mem_singleton_self _, taken⟩
  | setupRequired =>
    cases makes
    obtain ⟨⟨restricts, different⟩, clash⟩ := setupTags_eq_error failed
    have taken := (SetupTags.eq_excluded_or_required restricts).resolve_right different
    exact ⟨clash, .setupExcluded, List.mem_singleton_self _, taken⟩
  | sevenTags =>
    cases makes
    obtain ⟨taken | asked, rfl⟩ := clashIf_bind_eq_error failed
    · exact ⟨⟨_, rfl⟩, .noTags, by decide, taken⟩
    · exact ⟨⟨_, rfl⟩, .wantedTags, by decide, asked⟩
  | wantedTags | noTags =>
    cases makes
    obtain ⟨taken, rfl⟩ := clashIf_bind_eq_error failed
    exact ⟨⟨_, rfl⟩, .sevenTags, List.mem_singleton_self _, taken⟩
  | duplicatesFile => cases makes
  | noDuplicates =>
    cases makes
    obtain ⟨chosen, rfl⟩ := clashIf_bind_eq_error failed
    exact absurd plain.duplicates (Option.isSome_iff_ne_none.mp chosen)
  | noVariations | noComments =>
    cases makes
    obtain ⟨asked, rfl⟩ := clashIf_bind_eq_error failed
    exact ⟨⟨_, rfl⟩, _, List.mem_singleton_self _, asked⟩
  | splitVariants =>
    cases makes
    cases marks
  | onlyCommented =>
    cases makes
    obtain ⟨dropped, rfl⟩ := clashIf_bind_eq_error failed
    exact ⟨⟨_, rfl⟩, _, List.mem_singleton_self _, Bool.eq_false_iff.mpr dropped⟩

/-- An adjustment that leaves a mark takes the stance of the mark, or looks at nothing and leaves a
mark that nothing opposes. -/
theorem Adjustment.stance_of_mark? {adjustment : Adjustment} {mark : Mark}
    (marks : adjustment.mark? = some mark) (flag : mark.IsFlag) :
    (∃ stance : Stance, stance.adjustment? = some adjustment ∧ stance.mark? = some mark) ∨
      (∀ stance : Stance, stance.mark? ≠ some mark) ∧
        ∀ name value config, adjustment.apply name value config = .ok (config.marked mark) := by
  cases adjustment with
  | turn switch position =>
    obtain ⟨⟨bare, rfl⟩, ⟨⟩⟩ := Option.ite_none_right_eq_some.mp marks
    exact .inr ⟨Stance.mark?_ne_of_isBare bare, fun _ _ _ => rfl⟩
  | verbosity level =>
    obtain ⟨rfl, ⟨⟩⟩ := Option.ite_none_right_eq_some.mp marks
    have unmarked : ∀ stance : Stance, stance.mark? ≠ some .quiet := by
      rintro stance own
      cases stance <;> cases own
    exact .inr ⟨unmarked, fun _ _ _ => rfl⟩
  | ending which => exact .inl ⟨.ending which, rfl, marks⟩
  | winner which => exact .inl ⟨.winner which, rfl, marks⟩
  | sideToMove side =>
    cases marks
    rcases flag with rfl | rfl
    · exact .inl ⟨.whiteToMove, rfl, rfl⟩
    · exact .inl ⟨.blackToMove, rfl, rfl⟩
  | setupTags policy =>
    cases marks
    rcases flag with rfl | rfl
    · exact .inl ⟨.setupExcluded, rfl, rfl⟩
    · exact .inl ⟨.setupRequired, rfl, rfl⟩
  | moveRule moves =>
    cases marks
    rcases flag with rfl | rfl
    · exact .inl ⟨.fiftyMoves, rfl, rfl⟩
    · exact .inl ⟨.seventyFiveMoves, rfl, rfl⟩
  | repetition count =>
    cases marks
    rcases flag with rfl | rfl
    · exact .inl ⟨.threefold, rfl, rfl⟩
    · exact .inl ⟨.fivefold, rfl, rfl⟩
  | onlyCommented => exact .inl ⟨.onlyCommented, rfl, marks⟩
  | dropComments => exact .inl ⟨.noComments, rfl, marks⟩
  | dropVariations => exact .inl ⟨.noVariations, rfl, marks⟩
  | dropDuplicates => exact .inl ⟨.noDuplicates, rfl, marks⟩
  | sevenTagRoster => exact .inl ⟨.sevenTags, rfl, marks⟩
  | noTags => exact .inl ⟨.noTags, rfl, marks⟩
  | onlyWantedTags => exact .inl ⟨.wantedTags, rfl, marks⟩
  | _ => cases marks

/-- In a plain configuration, an adjustment leaves its mark, or is refused since a mark opposes
it. -/
theorem Adjustment.apply_of_mark? {adjustment : Adjustment} {mark : Mark}
    (marks : adjustment.mark? = some mark) (flag : mark.IsFlag) {config : Config}
    (plain : config.IsPlain) (name : OptionName) (value : String) :
    ¬ config.Refuses mark ∧ adjustment.apply name value config = .ok (config.marked mark) ∨
      config.Refuses mark ∧
        ∃ clash, adjustment.apply name value config = .error (.conflict clash) := by
  rcases stance_of_mark? marks flag with ⟨stance, makes, own⟩ | ⟨unmarked, made⟩
  · rw [stance.refuses_iff own plain]
    cases made : adjustment.apply name value config with
    | ok changed =>
      refine .inl ⟨?_, by rw [eq_marked_of_apply marks made]⟩
      rintro ⟨rival, rivals, taken⟩
      exact (Stance.isTaken_of_apply makes made).2 rival rivals taken
    | error failure =>
      obtain ⟨⟨clash, rfl⟩, refused⟩ := Stance.rival_taken_of_error plain makes marks made
      exact .inr ⟨refused, clash, rfl⟩
  · refine .inl ⟨?_, made name value config⟩
    rintro ⟨other, ⟨stance, _, own, -⟩, -⟩
    exact unmarked stance own

end ExtractOptions
