/-
Module: ExtractOptions.Proofs.Inclusion.Mirror
Purpose: two sessions that run side by side, the first on a disk where one file includes another,
  the second on a disk where the inner file's lines stand in its place. They share the
  configuration; tag criteria of the inner file may bear the outer file's name in the second
  session; the second session has counted less and reads fewer files. An action matches itself if
  it comes to the same on both sessions, whether it succeeds or fails; an action follows another one
  if it succeeds wherever that one does. Either way the sessions still mirror each other.
Main exports: Relabelled, Gate.IgnoresOrigins, Inclusion, Stage, Mirror, Tallies, Matches,
  Matches.bind, Follows, Follows.bind
-/
import ExtractOptions.Proofs.Disk.Swap
import ExtractOptions.Proofs.Session.Effect

namespace ExtractOptions

open ExtractOptions.Action

/-! ### Tag criteria under two names

A tag criterion keeps the file it came from, and this is the one part of the registry in which the
two sessions differ. The inductive lists how the difference can grow, line by line. -/

/-- The same tag criteria twice, except that the listed lines, in their order, come from one file in
the first list and from another one in the second. -/
inductive Relabelled (inner outer : String) :
    List String → List TagCriterion → List TagCriterion → Prop where
  | done : Relabelled inner outer [] [] []
  | same {lines : List String} {first second : List TagCriterion} (criterion : TagCriterion)
      (rest : Relabelled inner outer lines first second) :
    Relabelled inner outer lines (criterion :: first) (criterion :: second)
  | moved {lines : List String} {first second : List TagCriterion} (line : String)
      (rest : Relabelled inner outer lines first second) :
    Relabelled inner outer (line :: lines) (⟨line, inner⟩ :: first) (⟨line, outer⟩ :: second)

namespace Relabelled

variable {inner outer : String} {lines : List String} {first second : List TagCriterion}

theorem refl (criteria : List TagCriterion) : Relabelled inner outer [] criteria criteria := by
  induction criteria with
  | nil => exact .done
  | cons criterion _ ih => exact .same criterion ih

/-- A criterion that both lists end in keeps them relabelled. -/
theorem append_same (relabelled : Relabelled inner outer lines first second)
    (criterion : TagCriterion) :
    Relabelled inner outer lines (first ++ [criterion]) (second ++ [criterion]) := by
  induction relabelled with
  | done => exact .same criterion .done
  | same other _ ih => exact .same other ih
  | moved line _ ih => exact .moved line ih

/-- A line of the inner file keeps them relabelled under its two origins. -/
theorem append_moved (relabelled : Relabelled inner outer lines first second) (line : String) :
    Relabelled inner outer (lines ++ [line]) (first ++ [⟨line, inner⟩])
      (second ++ [⟨line, outer⟩]) := by
  induction relabelled with
  | done => exact .moved line .done
  | same other _ ih => exact .same other ih
  | moved other _ ih => exact .moved other ih

/-- But for the origins the two lists are the same. -/
theorem map_eq (relabelled : Relabelled inner outer lines first second) :
    (second.map fun criterion => { criterion with origin := "" }) =
      first.map fun criterion => { criterion with origin := "" } := by
  induction relabelled with
  | done => rfl
  | same criterion _ ih => simp [ih]
  | moved line _ ih => simp [ih]

end Relabelled

/-- The registry with nothing said about where tag criteria came from. -/
def Registry.withoutOrigins (registry : Registry) : Registry :=
  { registry with
    tagCriteria := registry.tagCriteria.map fun criterion => { criterion with origin := "" } }

/-- The request with nothing said about where a tag criterion came from. -/
def Request.withoutOrigin : Request → Request
  | .tagCriterion criterion => .tagCriterion { criterion with origin := "" }
  | other => other

/-- A gate that does not look at where tag criteria come from. -/
def Gate.IgnoresOrigins (gate : Gate) : Prop :=
  ∀ registry request, gate registry request = gate registry.withoutOrigins request.withoutOrigin

theorem Gate.ignoresOrigins_everything : everything.IgnoresOrigins :=
  fun _ _ => rfl

/-! ### Mirrored sessions

The relation between the two sessions: where they are equal, where they differ, and by how much. How
far they have come apart is kept in a stage, so a run moves from one stage to another. -/

/-- The two files that mirrored sessions are about: the outer one, which is swapped, and the inner
one, which stays as it is. -/
structure Inclusion where
  swap : Swap
  outer : String
  inner : String
  /-- Where the inner file is. -/
  place : Location
  /-- What the inner file holds. -/
  bytes : List UInt8

/-- The places that must not be written. -/
def Inclusion.reserves (inclusion : Inclusion) (place : Location) : Prop :=
  place = inclusion.swap.place ∨ place = inclusion.place

/-- How far two mirrored sessions have come. Both are reading the outer file, and the second one
reads no other files than the first. -/
structure Stage extends Inclusion where
  /-- How many more options and files the first session has counted. -/
  extra : Nat
  /-- The tag criteria that have changed their origin. -/
  moved : List String
  first : List Location
  second : List Location
  fewer : second ⊆ first
  reading : swap.place ∈ second

/-- The second session mirrors the first. -/
structure Mirror (stage : Stage) (first second : Session) : Prop where
  config : second.config = first.config
  log : ∀ target, first.config.log = .file target → ¬ stage.reserves target.place
  registry : second.registry =
    { first.registry with tagCriteria := second.registry.tagCriteria }
  criteria : Relabelled stage.inner stage.outer stage.moved first.registry.tagCriteria
    second.registry.tagCriteria
  disk : Disk.Swapped stage.swap first.disk second.disk
  found : first.disk.find stage.inner = .ok (stage.place, .file stage.bytes)
  standardError : second.standardError = first.standardError
  counters : first.counters =
    { second.counters with
      letters := second.counters.letters + stage.extra
      argumentFiles := second.counters.argumentFiles + stage.extra }
  first_including : first.including = stage.first
  second_including : second.including = stage.second

namespace Mirror

variable {stage : Stage} {first second : Session}

/-- A gate that ignores origins treats mirrored sessions alike. -/
theorem gate_eq {gate : Gate} (mirror : Mirror stage first second)
    (blind : gate.IgnoresOrigins) (request : Request) :
    gate second.registry request = gate first.registry request := by
  have same : second.registry.withoutOrigins = first.registry.withoutOrigins := by
    unfold Registry.withoutOrigins
    rw [mirror.criteria.map_eq, mirror.registry]
  rw [blind, blind first.registry, same]

/-- The same configuration may be put into both sessions, if its diagnostics go elsewhere than to
the two files. -/
theorem configure (mirror : Mirror stage first second) {config : Config}
    (log : ∀ target, config.log = .file target → ¬ stage.reserves target.place) :
    Mirror stage { first with config } { second with config } :=
  { mirror with config := rfl, log }

/-- The same request may be recorded by both sessions. -/
theorem record (mirror : Mirror stage first second) (request : Request) :
    Mirror stage { first with registry := first.registry.record request }
      { second with registry := second.registry.record request } := by
  have whole := mirror.registry
  refine { mirror with registry := ?_, criteria := ?_ }
  · cases request <;> (rw [whole]; rfl)
  · cases request with
    | tagCriterion criterion => exact mirror.criteria.append_same criterion
    | textualVariation | positionalVariation | rosterLine | material | fenPattern | ecoTable =>
      exact mirror.criteria

/-- A tag criterion of the inner file is one of the outer file in the second session. -/
theorem record_moved (mirror : Mirror stage first second) (line : String) :
    Mirror { stage with moved := stage.moved ++ [line] }
      { first with
        registry := first.registry.record (.tagCriterion ⟨line, stage.inner⟩) }
      { second with
        registry := second.registry.record (.tagCriterion ⟨line, stage.outer⟩) } := by
  have whole := mirror.registry
  refine { mirror with registry := ?_, criteria := mirror.criteria.append_moved line }
  rw [whole]
  rfl

/-- What changes the rest of the registry alike keeps the sessions mirrored. -/
theorem alter (mirror : Mirror stage first second) {change : Registry → Registry}
    (keeps : ∀ registry criteria, change { registry with tagCriteria := criteria } =
      { change registry with tagCriteria := criteria }) :
    Mirror stage { first with registry := change first.registry }
      { second with registry := change second.registry } := by
  have whole := mirror.registry
  have kept : ∀ registry : Registry, (change registry).tagCriteria = registry.tagCriteria := by
    intro registry
    have same : change registry = { change registry with tagCriteria := registry.tagCriteria } :=
      keeps registry registry.tagCriteria
    rw [same]
  refine { mirror with registry := ?_, criteria := ?_ }
  · simp only [kept]
    rw [whole, keeps]
  · simpa only [kept] using mirror.criteria

/-- Both sessions may count the same, as long as counting does not look at the count. -/
theorem count (mirror : Mirror stage first second) {change : Counters → Counters}
    (keeps : ∀ counters more, change
        { counters with
          letters := counters.letters + more
          argumentFiles := counters.argumentFiles + more } =
      { change counters with
        letters := (change counters).letters + more
        argumentFiles := (change counters).argumentFiles + more }) :
    Mirror stage { first with counters := change first.counters }
      { second with counters := change second.counters } := by
  refine { mirror with counters := ?_ }
  rw [mirror.counters, keeps]

/-- A file that is opened for the first session is opened for the second one. -/
theorem openTarget (mirror : Mirror stage first second) {path : String} {mode : OpenMode}
    {target : Target} {disk : Disk}
    (made : first.disk.openTarget path mode = .ok (target, disk))
    (away : ¬ stage.reserves target.place) :
    ∃ opened, second.disk.openTarget path mode = .ok (target, opened) ∧
      Mirror stage { first with disk } { second with disk := opened } := by
  obtain ⟨opened, alike, swapped⟩ :=
    mirror.disk.openTarget made fun same => away (.inl same)
  obtain ⟨chosen, rfl⟩ := openTarget_eq_ok made
  have apart : stage.place ≠ target.place := fun same => away (.inr same.symm)
  exact ⟨opened, alike,
    { mirror with
      disk := swapped
      found := Disk.find_opened chosen mode mirror.found apart }⟩

/-- A message is written for both sessions or for neither. -/
theorem diagnose (mirror : Mirror stage first second) (message : String) :
    Mirror stage (first.diagnose message) (second.diagnose message) := by
  unfold Session.diagnose Session.writeLog
  rw [mirror.config]
  cases log : first.config.log with
  | standardError =>
    exact { mirror with config := rfl, standardError := by rw [mirror.standardError] }
  | file target =>
    have away := mirror.log target log
    have apart : stage.place ≠ target.place := fun same => away (.inr same.symm)
    rcases mirror.disk.write (fun same => away (.inl same))
        (Text.Utf8.encode (message ++ "\n")) with
      ⟨cause, fails, alike⟩ | ⟨later, here, there, made, alike, stays, swapped⟩
    · simp only [fails, alike]
      exact mirror
    · simp only [made, alike]
      refine
        { mirror with
          config := rfl
          disk := swapped
          found := Disk.find_write made mirror.found apart
          log := fun other same => ?_ }
      cases same
      rw [stays]
      exact away

end Mirror

/-! ### What comes of actions on mirrored sessions

Two ways to compare a run on the one session with a run on the other. `Matches` is symmetric and is
for what both sessions do; `Follows` is one-sided and may end in another stage, for what only the
second one does in another way. -/

/-- Both results are a success with the same answer, or both are the same failure, and the sessions
left are mirrored. -/
inductive Tallies {α : Type} (stage : Stage) :
    EStateM.Result Failure Session α → EStateM.Result Failure Session α → Prop where
  | ok (answer : α) {left after : Session} (mirror : Mirror stage left after) :
    Tallies stage (.ok answer left) (.ok answer after)
  | error (failure : Failure) {left after : Session} (mirror : Mirror stage left after) :
    Tallies stage (.error failure left) (.error failure after)

/-- The action comes to the same on mirrored sessions. -/
def Matches {α : Type} (stage : Stage) (action : Action α) (session : Session) : Prop :=
  ∀ mirrored, Mirror stage session mirrored → Tallies stage (action session) (action mirrored)

namespace Matches

variable {α β : Type} {stage : Stage} {session : Session}

protected theorem pure (answer : α) : Matches stage (pure answer) session :=
  fun _ mirror => .ok answer mirror

protected theorem throw (failure : Failure) : Matches stage (throw failure : Action α) session :=
  fun _ mirror => .error failure mirror

protected theorem bind {action : Action α} {next : α → Action β}
    (head : Matches stage action session)
    (tail : ∀ answer between, action session = .ok answer between →
      Matches stage (next answer) between) :
    Matches stage (action >>= next) session := by
  intro mirrored mirror
  have both := head mirrored mirror
  rw [bind_apply, bind_apply]
  generalize first : action session = one at both ⊢
  generalize action mirrored = other at both ⊢
  cases both with
  | ok answer still => exact tail answer _ first _ still
  | error failure still => exact .error failure still

protected theorem map {action : Action α} {f : α → β} (both : Matches stage action session) :
    Matches stage (f <$> action) session := by
  have bound : f <$> action = action >>= fun answer => pure (f answer) := by
    funext met
    rw [map_apply, bind_apply]
    cases action met <;> rfl
  rw [bound]
  exact both.bind fun answer _ _ => .pure (f answer)

/-- An action that looks at the session goes on alike if it looks at nothing in which mirrored
sessions differ. -/
protected theorem get {next : Session → Action β}
    (blind : ∀ mirrored, Mirror stage session mirrored → next mirrored = next session)
    (tail : Matches stage (next session) session) : Matches stage (get >>= next) session := by
  intro mirrored mirror
  rw [bind_apply, bind_apply, get_apply, get_apply]
  simp only [blind mirrored mirror]
  exact tail mirrored mirror

protected theorem forM {items : List α} {visit : α → Action Unit}
    (each : ∀ item session, Matches stage (visit item) session) :
    Matches stage (items.forM visit) session := by
  induction items generalizing session with
  | nil => exact .pure ()
  | cons item items ih => exact (each item session).bind fun _ _ _ => ih

end Matches

/-- The second action succeeds on mirrored sessions if the first one does, with the same answer, and
the sessions that they leave are mirrored as well. -/
def Follows {α : Type} (start finish : Stage) (action follower : Action α) (session : Session) :
    Prop :=
  ∀ mirrored, Mirror start session mirrored → ∀ answer left, action session = .ok answer left →
    ∃ after, follower mirrored = .ok answer after ∧ Mirror finish left after

namespace Follows

variable {α β : Type} {start middle finish : Stage} {session : Session}

/-- Whatever fails is followed by anything. -/
protected theorem throw (failure : Failure) (follower : Action α) :
    Follows start finish (throw failure) follower session := by
  intro _ _ _ _ run
  cases run

protected theorem bind {action follower : Action α} {next later : α → Action β}
    (head : Follows start middle action follower session)
    (tail : ∀ answer between, action session = .ok answer between →
      Follows middle finish (next answer) (later answer) between) :
    Follows start finish (action >>= next) (follower >>= later) session := by
  intro mirrored mirror answer left run
  obtain ⟨first, between, begun, ended⟩ := bind_ok run
  obtain ⟨opposite, follows, still⟩ := head mirrored mirror first between begun
  obtain ⟨after, finishes, finally_⟩ := tail first between begun opposite still answer left ended
  refine ⟨after, ?_, finally_⟩
  rw [bind_apply, follows]
  exact finishes

protected theorem map {action follower : Action α} {f : α → β}
    (head : Follows start finish action follower session) :
    Follows start finish (f <$> action) (f <$> follower) session := by
  intro mirrored mirror answer left run
  rw [map_apply] at run
  cases begun : action session with
  | error failure between =>
    rw [begun] at run
    cases run
  | ok first between =>
    rw [begun] at run
    cases run
    obtain ⟨after, follows, still⟩ := head mirrored mirror first _ begun
    refine ⟨after, ?_, still⟩
    rw [map_apply, follows]

/-- Each session may answer with something of its own afterwards. -/
theorem replies {action follower : Action α} (head : Follows start finish action follower session)
    {mirrored : Session} (mirror : Mirror start session mirrored) {own answer : β} {left : Session}
    (run : (action >>= fun _ => pure own) session = .ok answer left) (reply : β) :
    answer = own ∧ ∃ after, (follower >>= fun _ => pure reply) mirrored = .ok reply after ∧
      Mirror finish left after := by
  obtain ⟨first, between, begun, ended⟩ := bind_ok run
  cases ended
  obtain ⟨after, follows, still⟩ := head mirrored mirror first _ begun
  refine ⟨rfl, after, ?_, still⟩
  rw [bind_apply, follows]
  rfl

end Follows

/-- An action that comes to the same on mirrored sessions follows itself. -/
theorem Matches.follows {α : Type} {stage : Stage} {action : Action α} {session : Session}
    (both : Matches stage action session) : Follows stage stage action action session := by
  intro mirrored mirror answer left run
  have tallies := both mirrored mirror
  rw [run] at tallies
  generalize action mirrored = other at tallies ⊢
  cases tallies with
  | ok _ still => exact ⟨_, rfl, still⟩

end ExtractOptions
