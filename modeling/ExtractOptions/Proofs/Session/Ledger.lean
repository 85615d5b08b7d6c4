/-
Module: ExtractOptions.Proofs.Session.Ledger
Purpose: what is counted against what is recorded. Lines of data are counted as they are handed on
  and recorded once they are accepted, so the two come out even but for a line that is refused,
  which ends everything. Sources are counted as they are recorded. What options are made of counts
  no options and records no source without a name.
Main exports: Session.Kept, Action.Assembled.kept, Session.Balances, Context.Rejects,
  Action.Balanced, Action.Assembled.balanced, Session.Steps.sources
-/
import ExtractOptions.Proofs.Session.Parts

namespace ExtractOptions

open Text ExtractOptions.Action

/-! ### What is left alone

Options are counted when they are given and nowhere else. So what an option does besides leaves the
count alone, and any source that it records has a name. -/

/-- As many options are counted in the second session as in the first one, and the sources that are
new in it have names. -/
structure Session.Kept (first second : Session) : Prop where
  options : second.counters.options = first.counters.options
  sources : ∃ added, second.registry.sources = first.registry.sources ++ added ∧
    ∀ source ∈ added, source.1 ≠ ""

namespace Session.Kept

variable {first second third : Session}

/-- Neither counters nor sources change. -/
theorem of_eq (counters : second.counters = first.counters)
    (sources : second.registry.sources = first.registry.sources) : first.Kept second where
  options := by rw [counters]
  sources := ⟨[], by rw [sources, List.append_nil], fun _ among => nomatch among⟩

protected theorem refl (session : Session) : session.Kept session :=
  of_eq rfl rfl

/-- What is left alone in two parts is left alone in both. -/
theorem trans (head : first.Kept second) (tail : second.Kept third) : first.Kept third where
  options := tail.options.trans head.options
  sources := by
    obtain ⟨added, grown, named⟩ := head.sources
    obtain ⟨later, grownLater, namedLater⟩ := tail.sources
    refine ⟨added ++ later, by rw [grownLater, grown, List.append_assoc], fun source among => ?_⟩
    exact (List.mem_append.mp among).elim (named source) (namedLater source)

end Session.Kept

section Kept

variable {context : Context} {hands records : Prop} (session : Session)

/-- A request records no source. -/
theorem request_kept (origin : String) (request : Request) :
    session.Kept ((Action.request context origin request).after session) := by
  cases verdict : context.gate session.registry request with
  | some reason =>
    rw [after_of_error (by rw [request_apply, verdict])]
    exact .refl session
  | none =>
    rw [after_of_ok (by rw [request_apply, verdict])]
    exact .of_eq rfl (session.registry.sources_record request)

/-- A data line is neither an option nor a source. -/
theorem deliver_kept (kind : DataKind) (origin line : String) :
    session.Kept ((deliver context kind.option origin line).after session) := by
  have counted : session.Kept (session.delivering kind) :=
    ⟨rfl, [], (List.append_nil _).symm, fun _ among => nomatch among⟩
  cases verdict : context.gate session.registry (kind.request origin line) with
  | some reason =>
    rw [after_of_error (by rw [deliver_apply, verdict])]
    exact counted
  | none =>
    rw [after_of_ok (by rw [deliver_apply, verdict])]
    exact counted.trans (.of_eq rfl (session.registry.sources_record _))

/-- A source that is recorded here has a name. -/
theorem addSource_kept {path : String} (named : path ≠ "") (kind : SourceKind) :
    session.Kept ((addSource path kind).after session) where
  options := rfl
  sources := ⟨[(path, kind)], rfl, fun _ among => List.mem_singleton.mp among ▸ named⟩

theorem warn_kept (message : String) : session.Kept ((warn message).after session) where
  options := by
    change (session.diagnose message).counters.options = _
    rw [session.counters_diagnose]
  sources := by
    refine ⟨[], ?_, fun _ among => nomatch among⟩
    change (session.diagnose message).registry.sources = _
    rw [session.diagnose_registry, List.append_nil]

/-- What options are made of. -/
theorem Action.Assembled.kept {α : Type} {action : Action α}
    (assembled : Assembled context hands records action) :
    session.Kept (action.after session) := by
  induction assembled generalizing session with
  | pure | throw | get => exact .refl session
  | bind _ _ ih later =>
    rename_i action next _ _
    have head := ih session
    cases run : action session with
    | ok answer between =>
      rw [after_of_ok run] at head
      rw [after_bind_of_ok run]
      exact head.trans (later answer between)
    | error failure between =>
      rw [after_of_error run] at head
      rw [after_bind_of_error run]
      exact head
  | modifyConfig change => exact .of_eq rfl rfl
  | modifyRegistry _ sources => exact .of_eq rfl (sources session.registry)
  | tryOpen path mode =>
    cases made : session.disk.openTarget path mode with
    | error cause => rw [after_of_ok (by rw [tryOpen_apply, made])]; exact .refl session
    | ok opened => rw [after_of_ok (by rw [tryOpen_apply, made])]; exact .of_eq rfl rfl
  | addSource named kind => exact addSource_kept session named kind
  | deliver kind origin line _ => exact deliver_kept session kind origin line
  | request | record => exact request_kept session _ _
  | warn message => exact warn_kept session message

end Kept

/-! ### Lines of data

A line is counted before the gate is asked about it, and recorded after. The balance of the two is
uneven by the line that is refused, and then nothing follows. -/

/-- A request by itself counts no line of data. -/
theorem request_dataLines {context : Context} (origin : String) (request : Request)
    (session : Session) :
    ((Action.request context origin request).after session).counters.dataLines =
      session.counters.dataLines := by
  cases verdict : context.gate session.registry request with
  | some reason => rw [after_of_error (by rw [request_apply, verdict])]
  | none => rw [after_of_ok (by rw [request_apply, verdict])]

/-- What may not hand on the lines of a data file counts no line of data. -/
theorem Action.Assembled.dataLines_eq {α : Type} {context : Context} {hands records : Prop}
    {action : Action α} (assembled : Assembled context hands records action) (withheld : ¬ hands)
    (session : Session) :
    (action.after session).counters.dataLines = session.counters.dataLines := by
  induction assembled generalizing session with
  | pure | throw | get | modifyConfig | modifyRegistry | addSource => rfl
  | bind _ _ ih later =>
    rename_i action next _ _
    have head := ih session
    cases run : action session with
    | ok answer between =>
      rw [after_of_ok run] at head
      rw [after_bind_of_ok run, later answer between, head]
    | error failure between =>
      rw [after_of_error run] at head
      rw [after_bind_of_error run, head]
  | tryOpen path mode =>
    cases made : session.disk.openTarget path mode with
    | error cause => rw [after_of_ok (by rw [tryOpen_apply, made])]
    | ok opened => rw [after_of_ok (by rw [tryOpen_apply, made])]
  | deliver _ _ _ allowed => exact absurd allowed withheld
  | request | record => exact request_dataLines _ _ session
  | warn message =>
    change (session.diagnose message).counters.dataLines = _
    rw [session.counters_diagnose]

/-- As many lines of data are counted between the sessions as are recorded, and `refused` more. -/
def Session.Balances (first : Session) (refused : Nat) (second : Session) : Prop :=
  second.counters.dataLines + first.registry.lineCount =
    first.counters.dataLines + second.registry.lineCount + refused

/-- A balance goes on from where lines and records came out even. -/
theorem Session.Balances.trans {first second third : Session} {refused : Nat}
    (head : first.Balances 0 second) (tail : second.Balances refused third) :
    first.Balances refused third := by
  unfold Session.Balances at *
  omega

/-- Nothing of what is counted or recorded changes. -/
theorem Session.Balances.of_eq {first second : Session}
    (counted : second.counters.dataLines = first.counters.dataLines)
    (recorded : second.registry.lineCount = first.registry.lineCount) :
    first.Balances 0 second := by
  unfold Session.Balances
  rw [counted, recorded, Nat.add_zero]

/-- The failure is that of a line of data which the rest of the tool refuses after what is recorded
in the registry. -/
def Context.Rejects (context : Context) (registry : Registry) (failure : Failure) : Prop :=
  ∃ kind origin line reason,
    context.gate registry (DataKind.request kind origin line) = some reason ∧
      failure = kind.refusal origin line reason

/-- Lines of data that are counted come out even with those that are recorded, but for a line that
is refused. -/
def Action.Balanced {α : Type} (context : Context) (action : Action α) : Prop :=
  ∀ session,
    match action session with
    | .ok _ left => session.Balances 0 left
    | .error failure left =>
      session.Balances failure.isLineRefusal.toNat left ∧
        (failure.isLineRefusal = true → context.Rejects left.registry failure)

namespace Action.Balanced

variable {α β : Type} {context : Context}

/-- Where nothing fails, counted and recorded lines come out even. -/
theorem of_ok {action : Action α} (balanced : Balanced context action) {session left : Session}
    {answer : α} (run : action session = .ok answer left) : session.Balances 0 left := by
  have whole := balanced session
  rwa [run] at whole

/-- Where a line is refused, one more was counted than is recorded. -/
theorem of_error {action : Action α} (balanced : Balanced context action) {session left : Session}
    {failure : Failure} (run : action session = .error failure left) :
    session.Balances failure.isLineRefusal.toNat left ∧
      (failure.isLineRefusal = true → context.Rejects left.registry failure) := by
  have whole := balanced session
  rwa [run] at whole

/-- Balance carries over a sequence, since only its last failure can be uneven. -/
protected theorem bind {action : Action α} {next : α → Action β}
    (first : Balanced context action) (later : ∀ answer, Balanced context (next answer)) :
    Balanced context (action >>= next) := by
  intro session
  rw [bind_apply]
  cases run : action session with
  | error failure left => exact first.of_error run
  | ok answer between =>
    have head := first.of_ok run
    cases rest : next answer between with
    | ok _ left =>
      simp only [rest]
      exact head.trans ((later answer).of_ok rest)
    | error failure left =>
      obtain ⟨tail, rejects⟩ := (later answer).of_error rest
      simp only [rest]
      exact ⟨head.trans tail, rejects⟩

/-- A line that is accepted is recorded, and one that is refused is counted all the same. -/
theorem deliver (kind : DataKind) (origin line : String) :
    Balanced context (deliver context kind.option origin line) := by
  intro session
  rw [deliver_apply]
  cases verdict : context.gate session.registry (kind.request origin line) with
  | none =>
    change _ + 1 + _ = _ + _ + 0
    rw [Registry.lineCount_record, kind.isLine_request, Bool.toNat_true]
    omega
  | some reason =>
    simp only [kind.isLineRefusal_refusal]
    refine ⟨?_, fun _ => ⟨kind, origin, line, reason, verdict, rfl⟩⟩
    exact Nat.add_right_comm session.counters.dataLines 1 session.registry.lineCount

/-- Other requests have nothing to do with lines. -/
theorem request {origin : String} {request : Request} (other : request.isLine = false)
    (elsewhere : isLineContext origin = false) :
    Balanced context (Action.request context origin request) := by
  intro session
  rw [request_apply]
  cases verdict : context.gate session.registry request with
  | none =>
    refine Session.Balances.of_eq rfl ?_
    change (session.registry.record request).lineCount = _
    rw [Registry.lineCount_record, other]
    rfl
  | some reason =>
    have own : (Failure.refused origin reason).isLineRefusal = false := elsewhere
    simp only [own]
    exact ⟨.of_eq rfl rfl, fun impossible => nomatch impossible⟩

end Action.Balanced

/-- What is assembled without handing on its own value is balanced. -/
theorem Action.Assembled.balanced {α : Type} {context : Context} {hands records : Prop}
    {action : Action α} (assembled : Assembled context hands records action)
    (fromFiles : ¬ records) : Balanced context action := by
  induction assembled with
  | pure | get | modifyConfig => exact fun _ => .of_eq rfl rfl
  | throw own =>
    intro session
    simp only [throw_apply, own]
    exact ⟨.of_eq rfl rfl, fun impossible => nomatch impossible⟩
  | bind _ _ first later => exact first.bind later
  | modifyRegistry lines => exact fun session => .of_eq rfl (lines session.registry)
  | tryOpen path mode =>
    intro session
    rw [tryOpen_apply]
    cases session.disk.openTarget path mode <;> exact .of_eq rfl rfl
  | addSource => exact fun _ => .of_eq rfl rfl
  | deliver kind origin line _ => exact .deliver kind origin line
  | request other elsewhere => exact .request other elsewhere
  | record _ _ allowed => exact absurd allowed fromFiles
  | warn message =>
    intro session
    refine .of_eq ?_ ?_
    · change (session.diagnose message).counters.dataLines = _
      rw [session.counters_diagnose]
    · change (session.diagnose message).registry.lineCount = _
      rw [session.diagnose_registry]

/-! ### Sources

A source is recorded and counted in one step, so the two never differ. -/

/-- Every source that is recorded is counted. -/
theorem Session.Step.sources {context : Context} {may : Deed → Prop} {first second : Session}
    (step : Session.Step context may first second) :
    second.counters.sourceFiles + first.registry.sources.length =
      first.counters.sourceFiles + second.registry.sources.length := by
  cases step with
  | countLetter | countName | countFile | countDataLine | enter | leave | configure | strip | choose
  | setLineLength | suppressTag | addHash => rfl
  | record request => simp only [Registry.sources_record]
  | addSource path kind =>
    simp only [Registry.addSource, List.length_append, List.length_singleton]
    omega
  | warn message =>
    simp only [Session.counters_diagnose, Session.diagnose_registry]

theorem Session.Steps.sources {context : Context} {may : Deed → Prop} {first last : Session}
    (steps : Session.Steps context may first last) :
    last.counters.sourceFiles + first.registry.sources.length =
      first.counters.sourceFiles + last.registry.sources.length := by
  induction steps with
  | refl => rfl
  | tail _ step ih =>
    have one := step.sources
    omega

end ExtractOptions
