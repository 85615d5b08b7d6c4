/-
Module: ExtractOptions.Proofs.Yaml.Mapping
Purpose: a text with one entry on each line is read as the mapping of those entries. The reader
  takes one entry after the other, key and value in turn, and the mapping is made if no key comes
  twice.
Main exports: EntryLine.entry, Reader.blockParts_lines, mappingOf?_lines, readDocuments?_lines
-/
import ExtractOptions.Proofs.Yaml.Tokens
import ExtractOptions.Yaml.Document

namespace ExtractOptions.Yaml

/-! ### Steps of reading

The reader is a state machine over tokens. These equations run it step by step, so that the proofs
below follow the tokens of a line. -/

namespace Reader

variable {α β : Type} {rest : List Token} {anchors : Anchors} {handles : List (String × String)}

theorem bind_apply (first : Reader α) (next : α → Reader β) (source : Source) :
    (first >>= next) source = (first source).bind fun (a, later) => next a later := rfl

theorem pure_apply (a : α) (source : Source) : (pure a : Reader α) source = some (a, source) := rfl

theorem map_apply (f : α → β) (action : Reader α) (source : Source) :
    (f <$> action) source = (action source).map fun (a, later) => (f a, later) := by
  rw [map_eq_pure_bind, bind_apply]
  cases action source <;> rfl

theorem peek_apply (source : Source) : peek source = some (source.tokens.head?, source) := rfl

theorem skip_apply (source : Source) :
    skip source = some ((), { source with tokens := source.tokens.tail }) := rfl

theorem modify_apply (f : Source → Source) (source : Source) :
    (modify f : Reader Unit) source = some ((), f source) := rfl

theorem accept_apply (token : Token) (source : Source) :
    accept token source =
      if source.tokens.head? = some token then
        some (true, { source with tokens := source.tokens.tail })
      else some (false, source) := by
  unfold accept
  rw [bind_apply, peek_apply]
  by_cases next : source.tokens.head? = some token
  · simp only [next, Option.bind_some, if_true]
    rfl
  · simp only [next, Option.bind_some, if_false]
    rfl

theorem atAny_apply (tokens : List Token) (source : Source) :
    atAny tokens source = some (source.tokens.head?.any tokens.contains, source) := rfl

theorem define_none (value : Yaml) (source : Source) :
    define none value source = some (value, source) := rfl

/-- A scalar without properties is a value wherever one may stand. -/
theorem value_scalar (style : ScalarStyle) (text : String) (block indentless : Bool) (fuel : Nat) :
    value block indentless (fuel + 1) ⟨.scalar style text :: rest, anchors, handles⟩ =
      some (ofScalar none style text, ⟨rest, anchors, handles⟩) := by
  cases block <;> cases indentless <;>
    simp [value, properties, bind_apply, pure_apply, peek_apply, skip_apply, define_none]

theorem valueUnless_scalar {ends : List Token} {style : ScalarStyle} {text : String}
    (starts : ends.contains (.scalar style text) = false) (block indentless : Bool) (fuel : Nat) :
    valueUnless ends block indentless (fuel + 2) ⟨.scalar style text :: rest, anchors, handles⟩ =
      some (ofScalar none style text, ⟨rest, anchors, handles⟩) := by
  rw [valueUnless, bind_apply, atAny_apply]
  simp only [List.head?_cons, Option.any_some, starts, Option.bind_some]
  exact value_scalar style text block indentless fuel

end Reader

/-! ### Entries

The tokens of one line are read as a key and a value, and the rest is left. -/

namespace EntryLine

/-- What the key of a line stands for. -/
def keyNode (line : EntryLine) : Yaml :=
  Reader.ofScalar none .plain (String.ofList line.key)

/-- What the value of a line stands for. -/
def valueNode (line : EntryLine) : Yaml :=
  Reader.ofScalar none line.style (String.ofList line.text)

/-- The key and the value of a line. -/
def nodes (line : EntryLine) : List Yaml :=
  [line.keyNode, line.valueNode]

/-- The entry that a line stands for. -/
def entry (line : EntryLine) : Yaml × Yaml :=
  (line.keyNode, line.valueNode)

end EntryLine

namespace Reader

variable {rest : List Token} {anchors : Anchors} {handles : List (String × String)}

/-- One entry is read, and what follows it is left. -/
theorem blockParts_line (line : EntryLine) (fuel : Nat) :
    blockParts (fuel + 3) ⟨line.tokens ++ rest, anchors, handles⟩ =
      (blockParts (fuel + 2) ⟨rest, anchors, handles⟩).map fun (parts, later) =>
        (line.nodes ++ parts, later) := by
  have starts (style : ScalarStyle) (text : List Char) :
      [Token.key, .value, .blockEnd].contains (.scalar style (String.ofList text)) = false := by
    simp
  rw [blockParts]
  simp only [EntryLine.tokens, List.cons_append, List.nil_append, bind_apply, accept_apply,
    atAny_apply, valueUnless_scalar (starts _ _), List.head?_cons, List.tail_cons, Option.bind_some,
    Option.some.injEq, reduceCtorEq, if_true, if_false]
  cases blockParts (fuel + 2) ⟨rest, anchors, handles⟩ <;> rfl

/-- The keys and values of the lines are read in turn, up to the end of the block. -/
theorem blockParts_lines (lines : List EntryLine) (fuel : Nat) :
    blockParts (lines.length + fuel + 3)
        ⟨lines.flatMap EntryLine.tokens ++ .blockEnd :: rest, anchors, handles⟩ =
      some (lines.flatMap EntryLine.nodes, ⟨rest, anchors, handles⟩) := by
  induction lines with
  | nil =>
    rw [blockParts]
    simp [bind_apply, accept_apply, pure_apply]
  | cons line lines ih =>
    rw [List.flatMap_cons, List.append_assoc, List.length_cons,
      show lines.length + 1 + fuel + 3 = lines.length + fuel + 1 + 3 by omega, blockParts_line, ih]
    rfl

end Reader

/-! ### Mappings

Keys and values in turn are put together to a mapping, which fails only if a key comes twice. -/

/-- A key that has not come before makes an entry with its value. -/
theorem mappingOf?_line {entries : List (Yaml × Yaml)} {line : EntryLine}
    (absent : ∀ entry ∈ entries, entry.1 ≠ line.keyNode) (parts : List Yaml) :
    mappingOf? entries none (line.nodes ++ parts) =
      mappingOf? (entries ++ [line.entry]) none parts := by
  have unused : ¬ (entries.any fun entry => same entry.1 line.keyNode) = true := by
    rw [List.any_eq_true]
    rintro ⟨entry, among, found⟩
    exact absent entry among ((same_iff ..).mp found)
  -- The key is a scalar, and so it is not passed over.
  change mappingOf? entries none (.scalar _ :: line.valueNode :: parts) = _
  rw [mappingOf?, mappingOf?]
  · exact if_neg unused
  · exact nofun

/-- Keys and values in turn make a mapping if no key comes twice. -/
theorem mappingOf?_lines {entries : List (Yaml × Yaml)} {lines : List EntryLine}
    (distinct : ((entries ++ lines.map EntryLine.entry).map Prod.fst).Nodup) :
    mappingOf? entries none (lines.flatMap EntryLine.nodes) =
      some (.mapping (entries ++ lines.map EntryLine.entry)) := by
  induction lines generalizing entries with
  | nil => simp [mappingOf?]
  | cons line lines ih =>
    have absent : ∀ entry ∈ entries, entry.1 ≠ line.keyNode := by
      rw [List.map_append] at distinct
      intro entry among
      exact (List.nodup_append.mp distinct).2.2 _ (List.mem_map_of_mem among) _ List.mem_cons_self
    rw [List.map_cons, List.append_cons] at distinct ⊢
    rw [List.flatMap_cons, mappingOf?_line absent, ih distinct]

namespace Reader

variable {lines : List EntryLine} {rest : List Token} {handles : List (String × String)}

/-- A block of entries is a value. -/
theorem value_lines (distinct : (lines.map EntryLine.keyNode).Nodup) (anchors : Anchors)
    (fuel : Nat) :
    value true false (lines.length + fuel + 4)
        ⟨.blockMappingStart :: (lines.flatMap EntryLine.tokens ++ .blockEnd :: rest), anchors,
          handles⟩ =
      some (.mapping (lines.map EntryLine.entry), ⟨rest, anchors, handles⟩) := by
  have made : mappingOf? [] none (lines.flatMap EntryLine.nodes) =
      some (.mapping (lines.map EntryLine.entry)) := by
    refine mappingOf?_lines ?_
    rwa [List.nil_append, List.map_map]
  have keyed : mappingOf (lines.flatMap EntryLine.nodes) ⟨rest, anchors, handles⟩ =
      some (.mapping (lines.map EntryLine.entry), ⟨rest, anchors, handles⟩) := by
    rw [mappingOf, made]
    rfl
  rw [value]
  simp [bind_apply, peek_apply, properties, pure_apply, skip_apply, blockParts_lines, keyed,
    define_none]

/-- A block of entries is the only document of its tokens. -/
theorem documents_lines (distinct : (lines.map EntryLine.keyNode).Nodup) (anchors : Anchors)
    (fuel : Nat) :
    documents (lines.length + fuel + 5) false
        ⟨.blockMappingStart :: (lines.flatMap EntryLine.tokens ++ [.blockEnd]), anchors, handles⟩ =
      some ([.mapping (lines.map EntryLine.entry)], ⟨[], {}, []⟩) := by
  have ended : documents (lines.length + fuel + 4) true ⟨[], {}, []⟩ = some ([], ⟨[], {}, []⟩) := by
    rw [documents]
    simp [bind_apply, accept_apply, peek_apply, pure_apply]
  rw [documents]
  simp [bind_apply, accept_apply, peek_apply, modify_apply, atDocument, pure_apply,
    value_lines distinct, map_apply, ended]

end Reader

theorem length_tokens (lines : List EntryLine) :
    (lines.flatMap EntryLine.tokens).length = 4 * lines.length := by
  induction lines with
  | nil => rfl
  | cons line lines ih =>
    rw [List.flatMap_cons, List.length_append, ih, List.length_cons, Nat.mul_succ, Nat.add_comm]
    rfl

/-- A text with one entry on each line is one document, the mapping of those entries. -/
theorem readDocuments?_lines {lines : List EntryLine} (nonempty : lines ≠ [])
    (simple : ∀ line ∈ lines, line.IsSimple) (distinct : (lines.map EntryLine.keyNode).Nodup) :
    readDocuments? (String.ofList (lines.flatMap EntryLine.written)) =
      some [.mapping (lines.map EntryLine.entry)] := by
  have fuel : 3 * (Token.blockMappingStart :: lines.flatMap EntryLine.tokens ++
      [Token.blockEnd]).length + 3 = lines.length + (11 * lines.length + 4) + 5 := by
    simp only [List.length_append, List.length_cons, List.length_nil, length_tokens]
    omega
  rw [readDocuments?, tokens?_lines nonempty simple, Option.bind_eq_bind, Option.bind_some, fuel]
  change ((Reader.documents _ false ⟨_, {}, []⟩).map Prod.fst) = _
  rw [List.cons_append, Reader.documents_lines distinct]
  rfl

end ExtractOptions.Yaml
