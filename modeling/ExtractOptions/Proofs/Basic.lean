/-
Module: ExtractOptions.Proofs.Basic
Purpose: facts about lists and about steps that may fail. None of them is about options; they are what
  the rest of the development needs beyond the library.
Main exports: bind_eq_ok, bind_pure_eq_ok, mapM_eq_some_iff, mapM_id_eq_some_iff,
  eq_of_map_some_append, head?_drop_takeWhile, countP_single, exists_before_of_mem,
  replicate_of_latched
-/
import Mathlib.Data.List.Forall2

namespace ExtractOptions

/-! ### Steps that may fail

A computation that may fail is taken apart at its binds: it succeeds if each step does, and what the
later step meets is the answer of the earlier one. -/

section Steps

variable {ε α β : Type}

/-- Two steps that may fail succeed together if each of them does. -/
theorem bind_eq_ok {first : Except ε α} {next : α → Except ε β} {answer : β} :
    (first >>= next) = .ok answer ↔ ∃ value, first = .ok value ∧ next value = .ok answer := by
  cases first <;> simp [bind, Except.bind]

/-- A step that may fail, and an answer made from what it gives. -/
theorem bind_pure_eq_ok {first : Except ε α} {f : α → β} {answer : β} :
    (first >>= fun value => pure (f value)) = .ok answer ↔
      ∃ value, first = .ok value ∧ f value = answer := by
  cases first <;> simp [bind, Except.bind, pure, Except.pure]

end Steps

/-! ### Lists of answers

Some of the items of a list may have no answer. All of them have one exactly if the answers match the
items one by one; and if one has none, the answers before it are determined. -/

section Answers

variable {α β : Type}

/-- Every item has an answer exactly if all of them have one. -/
theorem mapM_eq_some_iff {f : α → Option β} {items : List α} {answers : List β} :
    items.mapM f = some answers ↔
      List.Forall₂ (fun item answer => f item = some answer) items answers := by
  induction items generalizing answers with
  | nil => simp [List.forall₂_nil_left_iff, eq_comm]
  | cons item items ih =>
    rw [List.mapM_cons, List.forall₂_cons_left_iff]
    simp only [Option.bind_eq_bind, Option.bind_eq_some_iff, Option.pure_def, Option.some.injEq, ih]
    constructor
    · rintro ⟨answer, first, later, rest, rfl⟩
      exact ⟨answer, later, first, rest, rfl⟩
    · rintro ⟨answer, later, first, rest, rfl⟩
      exact ⟨answer, first, later, rest, rfl⟩

/-- All parts are there if each of them is. -/
theorem mapM_id_eq_some_iff {parts : List (Option α)} {values : List α} :
    parts.mapM id = some values ↔ parts = values.map some := by
  rw [mapM_eq_some_iff, ← List.forall₂_eq_eq_eq, List.forall₂_map_right_iff]
  rfl

/-- The answers before the first that is missing are determined. -/
theorem eq_of_map_some_append {answers others : List α} {later beyond : List (Option α)}
    (same : answers.map some ++ none :: later = others.map some ++ none :: beyond) :
    answers = others := by
  induction answers generalizing others with
  | nil =>
    cases others with
    | nil => rfl
    | cons other others => simp at same
  | cons answer answers ih =>
    cases others with
    | nil => simp at same
    | cons other others =>
      simp only [List.map_cons, List.cons_append, List.cons.injEq, Option.some.injEq] at same
      rw [same.1, ih same.2]

end Answers

/-! ### Places in a list -/

section Places

variable {α : Type}

/-- What comes after the front of a list on which a test holds. -/
theorem head?_drop_takeWhile (test : α → Bool) (items : List α) :
    (items.drop (items.takeWhile test).length).head? = items.find? fun item => !test item := by
  induction items with
  | nil => rfl
  | cons item items ih => cases holds : test item <;> simp [holds, ih]

/-- One item counts for itself. -/
theorem countP_single (holds : α → Bool) (one : α) : [one].countP holds = (holds one).toNat :=
  List.countP_singleton.trans (Bool.cond_eq_ite ..).symm

/-- Of two members of a list that are not the same, one comes before the other. -/
theorem exists_before_of_mem {one other : α} {members : List α} (here : one ∈ members)
    (there : other ∈ members) (apart : one ≠ other) :
    ∃ before member after, members = before ++ member :: after ∧
      (member = one ∧ other ∈ before ∨ member = other ∧ one ∈ before) := by
  obtain ⟨before, after, rfl⟩ := List.append_of_mem here
  rcases List.mem_append.mp there with earlier | later
  · exact ⟨before, one, after, rfl, .inl ⟨rfl, earlier⟩⟩
  · rcases List.mem_cons.mp later with same | later
    · exact absurd same.symm apart
    · obtain ⟨between, rest, rfl⟩ := List.append_of_mem later
      exact ⟨before ++ one :: between, other, rest, by simp, .inr ⟨rfl, by simp⟩⟩

/-- What never returns to its start is there first, if ever, and then away from it. -/
theorem replicate_of_latched {start : Bool} {positions : List Bool}
    (latched : positions.Pairwise fun first second => (first = !start) → second = !start) :
    ∃ before after,
      positions = List.replicate before start ++ List.replicate after !start := by
  induction positions with
  | nil => exact ⟨0, 0, rfl⟩
  | cons position later ih =>
    obtain ⟨stays, rest⟩ := List.pairwise_cons.mp latched
    -- Once it has moved, all that comes after it has too.
    by_cases moved : position = !start
    · have away : later = List.replicate later.length !start :=
        List.eq_replicate_of_mem fun other among => stays other among moved
      refine ⟨0, later.length + 1, ?_⟩
      rw [moved, List.replicate_succ, ← away]
      rfl
    · obtain ⟨before, after, same⟩ := ih rest
      refine ⟨before + 1, after, ?_⟩
      rw [Bool.not_eq_not.mp moved, same]
      rfl

end Places

end ExtractOptions
