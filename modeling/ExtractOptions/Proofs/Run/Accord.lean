/-
Module: ExtractOptions.Proofs.Run.Accord
Purpose: the configuration and the registry agree. What the registry holds is announced in the
  configuration after every call, whatever was refused; and as long as no call fails, nothing is
  announced that the registry does not hold.
Main exports: Session.Agrees, Session.Steps.coherent, Calls.records_agree
-/
import ExtractOptions.Proofs.Run.Chronology
import ExtractOptions.Proofs.Session.Accord

namespace ExtractOptions

open Text ExtractOptions.Action

/-- What both records say of the line length and of comments where a position matches. -/
structure Session.Coherent (session : Session) : Prop where
  lineLength : session.registry.lineLength = none ∧ session.config.lineLength = 75 ∨
    session.registry.lineLength = some session.config.lineLength
  matchComment : session.config.on .markMatches = session.config.matchComment.isSome

/-- Nothing in the registry goes unannounced. -/
structure Session.Agrees (session : Session) : Prop extends session.Coherent where
  positions : session.IsPrepared

/-! ### What every step keeps

Two settings are kept twice, in the configuration and in the registry. The step relation is fine
enough to see that they are never written one without the other. -/

/-- A change of the configuration leaves the line length alone, and the comment for matches goes with
its flag. -/
theorem Config.Change.coherent {config changed : Config} (change : config.Change changed) :
    changed.lineLength = config.lineLength ∧
      (config.on .markMatches = config.matchComment.isSome →
        changed.on .markMatches = changed.matchComment.isSome) := by
  cases change with
  | turn switch bare =>
    refine ⟨rfl, fun same => ?_⟩
    have other : Switch.markMatches ≠ switch := by
      rintro rfl
      cases bare
    rw [on_set, if_neg other]
    exact same
  | matchComment comment => exact ⟨rfl, fun _ => by simp [on, set]⟩
  | ending | winner | onlyCommented | dropComments | dropVariations | dropDuplicates
  | onlyWantedTags | positional | finalFen =>
    exact ⟨rfl, fun same => by rw [on_set, if_neg (by simp)]; exact same⟩
  | fenComments free =>
    exact ⟨rfl, fun same => by
      rw [on_set, if_neg (by simp), on_set, if_neg (by simp)]; exact same⟩
  | splitVariants | fuzzyDepth | addEco | fenPattern =>
    exact ⟨rfl, fun same => by simpa [on, set] using same⟩
  | verbosity | sideToMove | setupTags | moveRule | repetition | sevenTagRoster | noTags
  | dropComment | dropPly | lineMarker | firstGame | gameLimit | searchDepth | pieceCount
  | plyLimit | quietPly | startPly | maximumMatches | selectOnly | skipMatching | plyBounds
  | ecoLevel | gamesPerFile | outputFormat | noNonMatching | nonMatchingOutput | noLog =>
    exact ⟨rfl, id⟩

section

variable {context : Context} {may : Deed → Prop} {first second : Session}

/-- Every step keeps the two records coherent. -/
theorem Session.Step.coherent (step : Session.Step context may first second)
    (coherent : first.Coherent) : second.Coherent := by
  cases step with
  | configure change =>
    obtain ⟨width, comment⟩ := change.coherent
    exact ⟨by rw [width]; exact coherent.lineLength, comment coherent.matchComment⟩
  | strip allowed =>
    have width : first.config.stripped.lineLength = first.config.lineLength := by
      rw [Config.stripped, Config.clear_eq]
    have comment : first.config.stripped.matchComment = first.config.matchComment := by
      rw [Config.stripped, Config.clear_eq]
    have marked : first.config.stripped.on .markMatches = first.config.on .markMatches := by
      simp [Config.stripped, Config.on_clear]
    exact ⟨by rw [width]; exact coherent.lineLength,
      by rw [marked, comment]; exact coherent.matchComment⟩
  | choose opened allowed choice =>
    cases choice <;> exact { coherent with }
  | setLineLength width => exact ⟨.inr rfl, coherent.matchComment⟩
  | record request passes =>
    cases request <;> exact { coherent with }
  | warn message =>
    obtain ⟨log, same⟩ := first.diagnose_config message
    exact ⟨by rw [same, first.diagnose_registry]; exact coherent.lineLength,
      by rw [same]; exact coherent.matchComment⟩
  | countLetter | countName | countFile | countDataLine | enter | leave | addSource
  | suppressTag | addHash => exact { coherent with }

theorem Session.Steps.coherent (steps : Session.Steps context may first second)
    (coherent : first.Coherent) : second.Coherent := by
  induction steps with
  | refl => exact coherent
  | tail _ step ih => exact step.coherent ih

end

/-! ### Runs

What options keep is carried through a run along its chronology. A session that is prepared may
announce more than the registry holds; only as long as nothing fails is it settled. -/

section

variable {context : Context}

/-- Every option that there is keeps a session in accord. -/
theorem Given.alone_accords {given : Given} (listed : given.option.isListed) :
    Accords (given.alone context) := by
  obtain ⟨option, value, session⟩ := given
  cases option with
  | letter option => exact option.alone_accords value
  | named option => exact NamedOption.alone_accords listed value

/-- The session is prepared, and settled as long as nothing fails. -/
def Session.Accords (clean : Prop) (session : Session) : Prop :=
  session.IsPrepared ∧ (clean → session.Settled)

/-- What keeps sessions in accord keeps them prepared in any case, and settled if it succeeds. -/
theorem Action.Accords.keeps {clean : Prop} {α : Type} {action : Action α} {session : Session}
    (accords : action.Accords) (success : clean → action.succeeds session = true)
    (begins : session.Accords clean) : (action.after session).Accords clean := by
  constructor
  · exact accords.prepared session begins.1
  · intro holds
    obtain ⟨_, run⟩ := exists_ok_of_succeeds (success holds)
    exact accords.settled run (begins.2 holds)

/-- What happens between options keeps sessions in accord. -/
theorem Interlude.accords {clean : Prop} {first second : Session}
    (interlude : Interlude context clean first second) (begins : first.Accords clean) :
    second.Accords clean := by
  cases interlude with
  | dataLine kind origin line success =>
    exact (Action.Accords.deliver kind origin line).keeps success begins
  | source path => exact (Action.Accords.addSource path .normal).keeps (fun _ => rfl) begins
  | enter place =>
    have same : first.SameAims (first.entering place) := ⟨.refl _, ⟨rfl, rfl, rfl, rfl⟩⟩
    exact ⟨same.prepared begins.1, fun holds => same.settled (begins.2 holds)⟩
  | leave =>
    have same : first.SameAims first.leaving := ⟨.refl _, ⟨rfl, rfl, rfl, rfl⟩⟩
    exact ⟨same.prepared begins.1, fun holds => same.settled (begins.2 holds)⟩

/-- The configuration and the registry agree after every run, whatever was refused in it, and where
no call failed the one announces exactly what the other holds. -/
theorem Calls.records_agree (context : Context) (disk : Disk) (calls : List Call) :
    (Calls.after context calls { disk }).Agrees ∧
      (Calls.succeed context calls { disk } = true →
        (Calls.after context calls { disk }).Settled) := by
  have chronology : Chronology context _ _ _ _ := Calls.chronology calls { disk }
  have settled := Session.settled_start disk
  -- Being prepared goes through failures, being settled does not: the invariant asks for it only
  -- as long as every call succeeds.
  have begins : ({ disk } : Session).Accords (Calls.succeed context calls { disk } = true) :=
    ⟨settled.positions.mpr, fun _ => settled⟩
  have ends := (chronology.keeps (Session.Accords _) (fun interlude => interlude.accords)
    (fun one _ listed success => (one.alone_accords listed).keeps success) begins).1
  have coherent : (Calls.after context calls { disk }).Coherent :=
    chronology.steps.coherent ⟨.inl ⟨rfl, rfl⟩, rfl⟩
  exact ⟨⟨coherent, ends.1⟩, ends.2⟩

/-- A hash, a pattern and an ECO file leave the two records in agreement. -/
theorem Calls.records_agree_hash :
    Calls.succeed {} [.letter .positionHash "0x1f", .commandLine ["-eopenings", "--fenpattern", "*/k"]]
        { disk := ⟨[], []⟩ } = true ∧
      (Calls.after {}
        [.letter .positionHash "0x1f", .commandLine ["-eopenings", "--fenpattern", "*/k"]]
        { disk := ⟨[], []⟩ }).Settled :=
  ⟨by decide +kernel, (Calls.records_agree {} ⟨[], []⟩ _).2 (by decide +kernel)⟩

end

end ExtractOptions
