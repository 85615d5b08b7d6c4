/-
Module: ExtractOptions.Proofs.Run.Routing
Purpose: where the data lines of an argument file go. Each of them belongs to the nearest directive
  before it in the same file and is handed on exactly once, at its place in the course of the
  reading. A data line whose nearest directive takes none ends the reading.
Main exports: IsPlain, requestAfter?, HandedOn, interpretFile_routes
-/
import ExtractOptions.Proofs.Run.Course

namespace ExtractOptions

open Text ExtractOptions.Action

/-- A line that is neither blank nor starts with a colon. -/
def IsPlain (line : String) : Prop :=
  isBlankText line = false ∧ line.toList.head? ≠ some ':'

instance (line : String) : Decidable (IsPlain line) :=
  inferInstanceAs (Decidable (_ ∧ _))

/-- What a plain line asks for after a directive with the given letter; `origin` is the file that
both stand in. Other letters take no such lines. -/
def requestAfter? (letter : Char) (origin line : String) : Option Request :=
  match letter with
  | 't' => some (.tagCriterion ⟨line, origin⟩)
  | 'R' => some (.rosterLine line)
  | 'v' => some (.textualVariation line)
  | 'x' => some (.positionalVariation line)
  | 'y' => some (.material line false)
  | 'z' => some (.material line true)
  | _ => none

/-- The session with the request of one data line recorded. A line after the letter `x` asks for
positional variations as well. -/
def Session.handedOn (session : Session) (letter : Char) (request : Request) : Session :=
  { session with
    config :=
      if letter = 'x' then session.config.set .positionalVariations true else session.config
    registry := session.registry.record request
    counters := { session.counters with dataLines := session.counters.dataLines + 1 } }

/-- A line is handed on at its place in the file: the reading comes to it, its request is not
refused, and with nothing but that request recorded the reading goes on behind it. -/
def HandedOn (context : Context) (includeFile : String → Action Unit) (path : String)
    (session : Session) (before : List String) (line : String) (letter : Char)
    (request : Request) : Prop :=
  ∃ met next, ComesTo context includeFile path session before line met ∧
    context.gate met.registry request = none ∧
    Course context includeFile path session (before ++ [line]) next
      (met.handedOn letter request)

/-- A plain line is data. -/
theorem LineForm.ofText_of_isPlain {line : String} (plain : IsPlain line) :
    LineForm.ofText line = .data := by
  obtain ⟨dark, uncoloned⟩ := plain
  have undirected : directiveLetter? line = none := by
    unfold directiveLetter?
    split
    · rename_i chars
      simp [chars] at uncoloned
    · rfl
  have unsourced : dropPrefix? [':'] line.toList = none := by
    rw [dropPrefix?_eq_none_iff]
    rintro ⟨rest, whole⟩
    exact uncoloned (by rw [← whole]; rfl)
  rw [LineForm.ofText_of_none undirected, dark, unsourced]
  rfl

/-- The letters that take data lines are those with a request for them. -/
theorem requestAfter?_eq (letter : Char) (origin line : String) :
    requestAfter? letter origin line =
      (DataKind.ofLetter? letter).map fun kind => kind.request origin line := by
  unfold DataKind.ofLetter?
  split
  case h_7 => simp_all [requestAfter?]
  all_goals rfl

/-- Only the letter `x` is that of positional variations. -/
theorem DataKind.ofLetter?_eq_positional {letter : Char} :
    DataKind.ofLetter? letter = some .positionalVariations ↔ letter = 'x' := by
  refine ⟨fun found => ?_, fun same => same ▸ rfl⟩
  unfold DataKind.ofLetter? at found
  split at found <;> first | rfl | cases found

section

variable {context : Context} {includeFile : String → Action Unit}

/-- A data line that is handed on leaves its request recorded, and nothing else. -/
theorem deliver_eq_ok {kind : DataKind} {letter : Char} {origin line : String}
    {session left : Session} (belongs : DataKind.ofLetter? letter = some kind)
    (run : deliver context kind.option origin line session = .ok () left) :
    context.gate session.registry (kind.request origin line) = none ∧
      left = session.handedOn letter (kind.request origin line) := by
  have positional : kind = .positionalVariations ↔ letter = 'x' := by
    rw [← DataKind.ofLetter?_eq_positional, belongs, Option.some.injEq]
  rw [deliver_option, bind_apply, count_apply] at run
  simp only [positional] at run
  by_cases switches : letter = 'x'
  all_goals
    simp only [switches, if_true, if_false, bind_apply, modifyConfig_apply, request_apply] at run
    cases verdict : context.gate session.registry (kind.request origin line) with
    | some reason => simp [verdict] at run
    | none =>
      simp only [verdict, EStateM.Result.ok.injEq, true_and] at run
      refine ⟨rfl, ?_⟩
      rw [← run]
      simp [Session.handedOn, switches]

/-- What a plain line does after the lines before it. -/
theorem lineAction_of_isPlain {line : String} (plain : IsPlain line) (origin : String)
    (before : List String) :
    lineAction context includeFile origin before line =
      match kindAfter? before with
      | some kind => deliver context kind.option origin line
      | none => throw (.usage (.strayLine line)) := by
  cases kind : kindAfter? before <;>
    simp only [lineAction, LineForm.ofText_of_isPlain plain, kind]

variable {path : String} {session left : Session} {before lines later : List String}
  {line : String} {reader : LineReader} {met : Session}

/-- A plain line that was read has a nearest directive that takes it, and was handed on. -/
theorem Course.handedOn (course : Course context includeFile path session lines reader left)
    (parts : lines = before ++ line :: later) (plain : IsPlain line) :
    ∃ letter request, nearestLetter? before = some letter ∧
      requestAfter? letter path line = some request ∧
      HandedOn context includeFile path session before line letter request := by
  obtain ⟨met, next, after, comes, does, goes⟩ := course.split parts
  rw [lineAction_of_isPlain plain] at does
  unfold kindAfter? at does
  cases nearest : nearestLetter? before with
  | none =>
    rw [nearest] at does
    cases does
  | some letter =>
    rw [nearest, Option.bind_some] at does
    cases belongs : DataKind.ofLetter? letter with
    | none =>
      rw [belongs] at does
      cases does
    | some kind =>
      rw [belongs] at does
      obtain ⟨passes, rfl⟩ := deliver_eq_ok belongs does
      refine ⟨letter, kind.request path line, rfl, ?_, met, next, comes, passes, goes⟩
      rw [requestAfter?_eq, belongs, Option.map_some]

/-- A plain line whose nearest directive takes none, or that has none, does nothing but fail. -/
theorem lineAction_stray (plain : IsPlain line)
    (stray : ∀ letter, nearestLetter? before = some letter →
      requestAfter? letter path line = none) :
    lineAction context includeFile path before line = throw (.usage (.strayLine line)) := by
  have unclaimed : kindAfter? before = none := by
    unfold kindAfter?
    cases nearest : nearestLetter? before with
    | none => rfl
    | some letter =>
      have refuses := stray letter nearest
      rwa [requestAfter?_eq, Option.map_eq_none_iff] at refuses
  rw [lineAction_of_isPlain plain, unclaimed]

/-- Reading an argument file routes its data lines. When it ends well, the file was read to its end,
and every plain line in it has a nearest directive, with a letter that takes data lines, and was
handed on once, where it stands, as that letter demands. When it comes to a plain line whose nearest
directive takes no data lines, or that has none, it fails there and leaves the session as it was. -/
theorem interpretFile_routes (context : Context) (includeFile : String → Action Unit)
    (path : String) (session : Session) :
    (∀ left, interpretFile context includeFile path session = .ok () left →
      ∃ lines reader, Course context includeFile path session lines reader left ∧
        reader.next left.disk = .ok none ∧
        (∀ bytes, (∀ before reader met,
            Course context includeFile path session before reader met →
              met.disk.node? reader.place = some (.file bytes)) →
          Lines.ofBytes bytes = ⟨lines, none⟩) ∧
        ∀ before line later, lines = before ++ line :: later → IsPlain line →
          ∃ letter request, nearestLetter? before = some letter ∧
            requestAfter? letter path line = some request ∧
            HandedOn context includeFile path session before line letter request) ∧
    ∀ before line met, ComesTo context includeFile path session before line met → IsPlain line →
      (∀ letter, nearestLetter? before = some letter →
        requestAfter? letter path line = none) →
      interpretFile context includeFile path session = .error (.usage (.strayLine line)) met := by
  constructor
  · intro left run
    have ends := interpretFile_ends context includeFile path session
    rw [run] at ends
    cases ends with
    | finished course done =>
      exact ⟨_, _, course, done, fun bytes kept => course.lines_of_done kept done,
        fun before line later parts plain => course.handedOn parts plain⟩
  · intro before line met comes plain stray
    refine comes.interpretFile_of_error ?_
    rw [lineAction_stray plain stray]
    rfl

end

end ExtractOptions
