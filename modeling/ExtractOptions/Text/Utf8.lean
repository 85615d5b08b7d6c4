/-
Module: ExtractOptions.Text.Utf8
Purpose: text as bytes. A reader takes the bytes of a character one at a time and knows, between
  two of them, how many are still owed and which values the next one may have; `units` runs it over
  a whole sequence and marks each longest ill-formed part by `none`. Reading a text strictly refuses
  any such part, reading it leniently puts the replacement character in its place.
Main exports: encode, units, decode?, decodeLossy
-/

namespace ExtractOptions.Text.Utf8

/-- The bytes of a text. -/
def encode (s : String) : List UInt8 :=
  s.toList.flatMap String.utf8EncodeChar

/-- A character of which some bytes have been read: how many are owed, the least and the greatest
value of the next one, and the number the bytes so far spell. -/
structure Partial where
  owed : Nat
  least : Nat
  greatest : Nat
  value : Nat
deriving DecidableEq, Repr

/-- What the first byte of a character says. -/
inductive Lead where
  | whole (c : Char)
  | partly (p : Partial)
  | illFormed
deriving DecidableEq, Repr

/-- The meaning of a first byte. The bounds on the second byte keep out overlong spellings, the
surrogates and everything above the last code point. -/
def Lead.ofByte (b : UInt8) : Lead :=
  let n := b.toNat
  if n < 0x80 then .whole (Char.ofNat n)
  else if n < 0xC2 then .illFormed
  else if n < 0xE0 then .partly ⟨1, 0x80, 0xBF, n - 0xC0⟩
  else if n = 0xE0 then .partly ⟨2, 0xA0, 0xBF, 0⟩
  else if n = 0xED then .partly ⟨2, 0x80, 0x9F, 0xD⟩
  else if n < 0xF0 then .partly ⟨2, 0x80, 0xBF, n - 0xE0⟩
  else if n = 0xF0 then .partly ⟨3, 0x90, 0xBF, 0⟩
  else if n < 0xF4 then .partly ⟨3, 0x80, 0xBF, n - 0xF0⟩
  else if n = 0xF4 then .partly ⟨3, 0x80, 0x8F, 4⟩
  else .illFormed

/-- The characters of a byte sequence from a point within or between characters, `none` standing
for an ill-formed part. A byte that does not continue the character before it ends an ill-formed
part and is read again as a first byte. -/
def unitsFrom : Option Partial → List UInt8 → List (Option Char)
  | none, [] => []
  | some _, [] => [none]
  | none, b :: bs =>
    match Lead.ofByte b with
    | .whole c => some c :: unitsFrom none bs
    | .partly p => unitsFrom (some p) bs
    | .illFormed => none :: unitsFrom none bs
  | some p, b :: bs =>
    if p.least ≤ b.toNat ∧ b.toNat ≤ p.greatest then
      let value := p.value * 64 + (b.toNat - 0x80)
      if p.owed ≤ 1 then some (Char.ofNat value) :: unitsFrom none bs
      else unitsFrom (some ⟨p.owed - 1, 0x80, 0xBF, value⟩) bs
    else
      match Lead.ofByte b with
      | .whole c => none :: some c :: unitsFrom none bs
      | .partly q => none :: unitsFrom (some q) bs
      | .illFormed => none :: none :: unitsFrom none bs

/-- The characters of a byte sequence, `none` standing for an ill-formed part. -/
def units (bytes : List UInt8) : List (Option Char) :=
  unitsFrom none bytes

/-- The text that the bytes spell, if they are well-formed throughout. -/
def decode? (bytes : List UInt8) : Option String :=
  ((units bytes).mapM id).map String.ofList

/-- The text that the bytes spell, with the replacement character for each ill-formed part. -/
def decodeLossy (bytes : List UInt8) : String :=
  String.ofList ((units bytes).map fun unit => unit.getD '\uFFFD')

end ExtractOptions.Text.Utf8
