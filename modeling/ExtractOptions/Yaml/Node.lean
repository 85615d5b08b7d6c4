/-
Module: ExtractOptions.Yaml.Node
Purpose: what a YAML document holds. A plain scalar stands for null, a truth value or a number if it
  is spelled like one; a quoted one is always a text.
Main exports: Yaml, Yaml.Scalar, Yaml.Scalar.ofPlain, Yaml.Scalar.ofTagged, Yaml.mappingOf?
-/
import ExtractOptions.Decimal.Binary64

namespace ExtractOptions

open Text

/-- A scalar and what it stands for. -/
inductive Yaml.Scalar where
  | null
  | boolean (value : Bool)
  | integer (value : Int)
  /-- A number that is no integer of 64 bits, by its spelling. Infinity and what is no number are
  numbers as well. -/
  | real (spelling : String)
  | text (value : String)
deriving DecidableEq, Repr

/-- What a YAML document holds. -/
inductive Yaml where
  | scalar (value : Yaml.Scalar)
  | list (items : List Yaml)
  | mapping (entries : List (Yaml × Yaml))
  /-- A value that stands for nothing: a scalar that does not fit its tag, or another mention of a
  value that is still being read. -/
  | undefined
deriving Repr

namespace Yaml.Scalar

/-- An integer in a base that is not ten: a mark, and digits of the base. -/
def radixInteger? (cs : List Char) : Option Int :=
  let ofDigits (base : Nat) (ds : List Char) : Option Int := do
    let (negative, ds) := match ds with
      | '-' :: ds => (true, ds)
      | '+' :: ds => (false, ds)
      | ds => (false, ds)
    let values ← ds.mapM Numeral.hexValue?
    if ds = [] ∨ values.any (base ≤ ·) then none
    else
      let n : Int := Numeral.ofValues base values
      let n := if negative then -n else n
      if -Nat.pow 2 63 ≤ n ∧ n < Nat.pow 2 63 then return n else none
  match cs with
  | '0' :: 'x' :: ds => ofDigits 16 ds
  | '0' :: 'o' :: ds => ofDigits 8 ds
  | _ => none

/-- The spellings of infinity and of no number, which begin with a point. -/
def isPointWord (cs : List Char) : Bool :=
  [".inf", ".Inf", ".INF", "+.inf", "+.Inf", "+.INF", "-.inf", "-.Inf", "-.INF", ".nan", ".NaN",
    ".NAN"].any fun word => word.toList == cs

/-- A truth value, capitalised or in capitals if need be. -/
def truthValue? (cs : List Char) : Option Bool :=
  if cs = "true".toList ∨ cs = "True".toList ∨ cs = "TRUE".toList then some true
  else if cs = "false".toList ∨ cs = "False".toList ∨ cs = "FALSE".toList then some false
  else none

/-- The spelling of a number: a word for infinity or for what is no number, or a decimal numeral,
which holds a digit. -/
def isReal (cs : List Char) : Bool :=
  isPointWord cs || (cs.any Char.isDigit && (Binary64.parse? cs).isSome)

/-- An integer, to which a plus sign may be added. -/
def integer? (cs : List Char) : Option Int :=
  let unmarked := match cs with
    | '+' :: ds => Numeral.signed64? ds
    | _ => none
  unmarked <|> Numeral.signed64? cs

/-- What a plain scalar stands for. -/
def ofPlain (cs : List Char) : Scalar :=
  match radixInteger? cs with
  | some n => integer n
  | none =>
    if cs = [] ∨ cs = ['~'] ∨ cs = "null".toList then null
    else
      match truthValue? cs, integer? cs with
      | some value, _ => boolean value
      | none, some n => integer n
      | none, none =>
        if isReal cs then real (String.ofList cs) else text (String.ofList cs)

/-- What a plain scalar stands for whose tag names one of the common kinds. One that does not fit
stands for nothing. -/
def ofTagged (kind : String) (cs : List Char) : Option Scalar :=
  match kind with
  | "bool" => (truthValue? cs).map boolean
  | "int" => (Numeral.signed64? cs).map integer
  | "float" => if isReal cs then some (real (String.ofList cs)) else none
  | "null" => if cs = ['~'] ∨ cs = "null".toList then some null else none
  | _ => some (text (String.ofList cs))

end Yaml.Scalar

namespace Yaml

mutual

/-- Two values are the same. The order of entries counts, and numbers are compared by their
spelling. -/
def same : Yaml → Yaml → Bool
  | scalar a, scalar b => decide (a = b)
  | list a, list b => sameItems a b
  | mapping a, mapping b => sameEntries a b
  | undefined, undefined => true
  | _, _ => false

/-- Two lists have the same items. -/
def sameItems : List Yaml → List Yaml → Bool
  | [], [] => true
  | a :: as, b :: bs => same a b && sameItems as bs
  | _, _ => false

/-- Two mappings have the same entries in the same order. -/
def sameEntries : List (Yaml × Yaml) → List (Yaml × Yaml) → Bool
  | [], [] => true
  | (key, value) :: as, (otherKey, other) :: bs =>
    same key otherKey && same value other && sameEntries as bs
  | _, _ => false

end

mutual

/-- What is found to be the same is equal. -/
theorem same_iff : (a b : Yaml) → (same a b = true ↔ a = b)
  | scalar a, scalar b => by simp [same]
  | list as, list bs => by rw [same, sameItems_iff as bs, list.injEq]
  | mapping as, mapping bs => by rw [same, sameEntries_iff as bs, mapping.injEq]
  | undefined, undefined => by simp [same]
  | scalar _, list _ | scalar _, mapping _ | scalar _, undefined
  | list _, scalar _ | list _, mapping _ | list _, undefined
  | mapping _, scalar _ | mapping _, list _ | mapping _, undefined
  | undefined, scalar _ | undefined, list _ | undefined, mapping _ => by simp [same]

theorem sameItems_iff : (as bs : List Yaml) → (sameItems as bs = true ↔ as = bs)
  | [], [] => by simp [sameItems]
  | a :: as, b :: bs => by
    rw [sameItems, Bool.and_eq_true, same_iff a b, sameItems_iff as bs, List.cons.injEq]
  | [], _ :: _ | _ :: _, [] => by simp [sameItems]

theorem sameEntries_iff :
    (as bs : List (Yaml × Yaml)) → (sameEntries as bs = true ↔ as = bs)
  | [], [] => by simp [sameEntries]
  | (key, value) :: as, (otherKey, other) :: bs => by
    rw [sameEntries, Bool.and_eq_true, Bool.and_eq_true, same_iff key otherKey,
      same_iff value other, sameEntries_iff as bs, List.cons.injEq, Prod.mk.injEq]
  | [], _ :: _ | _ :: _, [] => by simp [sameEntries]

end

instance : DecidableEq Yaml := fun a b => decidable_of_iff _ (same_iff a b)

/-- The mapping whose keys and values are given in turn, unless a key is repeated. A key that stands
for nothing is passed over, so that what follows it takes its place; a last key without a value is
left out. -/
def mappingOf? (entries : List (Yaml × Yaml)) : Option Yaml → List Yaml → Option Yaml
  | _, [] => some (mapping entries)
  | none, undefined :: parts => mappingOf? entries none parts
  | none, key :: parts => mappingOf? entries (some key) parts
  | some key, value :: parts =>
    if entries.any fun entry => same entry.1 key then none
    else mappingOf? (entries ++ [(key, value)]) none parts

end Yaml

end ExtractOptions
