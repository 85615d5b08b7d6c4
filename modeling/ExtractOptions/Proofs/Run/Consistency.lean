/-
Module: ExtractOptions.Proofs.Run.Consistency
Purpose: the configuration stays consistent through every run. Each step keeps it so, whether the
  option that takes the step succeeds in the end or fails halfway.
Main exports: Session.Step.consistent, Session.Steps.consistent, Calls.config_consistent
-/
import ExtractOptions.Proofs.Config.Consistency
import ExtractOptions.Proofs.Run.Chronology

namespace ExtractOptions

variable {context : Context} {may : Deed → Prop}

/-- One step keeps the configuration consistent. -/
theorem Session.Step.consistent {first second : Session} (consistent : first.config.Consistent)
    (step : Session.Step context may first second) : second.config.Consistent := by
  cases step with
  | configure change => exact consistent.change change
  | strip allowed => exact consistent.stripped
  | choose opened allowed choice => exact consistent.chooses choice
  | setLineLength width => exact { consistent with }
  | warn message =>
    obtain ⟨log, same⟩ := first.diagnose_config message
    have quiet : ({ first.config with log } : Config).Consistent := { consistent with }
    rw [← same] at quiet
    exact quiet
  | countLetter | countName | countFile | countDataLine | enter | leave | record | addSource
  | suppressTag | addHash => exact consistent

/-- So does any number of steps. -/
theorem Session.Steps.consistent {first last : Session} (consistent : first.config.Consistent)
    (steps : Session.Steps context may first last) : last.config.Consistent := by
  induction steps with
  | refl => exact consistent
  | tail _ step ih => exact step.consistent ih

/-- Whatever calls are made, on whatever disk and with whatever refused, the configuration is
consistent afterwards. -/
theorem Calls.config_consistent (context : Context) (disk : Disk) (calls : List Call) :
    (Calls.after context calls { disk }).config.Consistent :=
  (Calls.chronology calls { disk }).steps.consistent .initially

end ExtractOptions
