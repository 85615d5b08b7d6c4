/-
Module: ExtractOptions.Text.Blank
Purpose: the white space of text, cutting it off at either end, and cutting text at a separator.
  Everything here works on lists of characters; `trim` and `isBlankText` lift two of the
  operations to strings.
Main exports: isBlank, trimChars, trim, isBlankText, cut?, pieces
-/

namespace ExtractOptions.Text

/-- The characters with the Unicode property White_Space: the ASCII controls from tab to carriage
return, the space, and the separators of the wider character set. A zero-width space and a byte
order mark do not have the property. -/
def isBlank (c : Char) : Bool :=
  let n := c.toNat
  (9 ≤ n && n ≤ 13) || n == 0x20 || n == 0x85 || n == 0xA0 || n == 0x1680 ||
    (0x2000 ≤ n && n ≤ 0x200A) || n == 0x2028 || n == 0x2029 || n == 0x202F ||
    n == 0x205F || n == 0x3000

/-- The text without its last characters as long as they satisfy `p`. -/
def dropEndWhile (p : Char → Bool) (cs : List Char) : List Char :=
  (cs.reverse.dropWhile p).reverse

/-- The text without the white space at its two ends. -/
def trimChars (cs : List Char) : List Char :=
  dropEndWhile isBlank (cs.dropWhile isBlank)

/-- `trimChars` on strings. -/
def trim (s : String) : String :=
  String.ofList (trimChars s.toList)

/-- A text that holds white space only. -/
def isBlankText (s : String) : Bool :=
  s.toList.all isBlank

/-- The text without the spaces it starts with. Only the space itself counts here: a tab that
follows an option's name belongs to its value. -/
def skipSpaces (s : String) : String :=
  String.ofList (s.toList.dropWhile (· == ' '))

/-- What stands before and what stands after the first `separator`, if there is one. -/
def cut? (separator : Char) (cs : List Char) : Option (List Char × List Char) :=
  match cs.dropWhile (· != separator) with
  | [] => none
  | _ :: rest => some (cs.takeWhile (· != separator), rest)

/-- The pieces between separators. There is one more of them than there are separators, and some
may be empty. -/
def pieces (separator : Char) : List Char → List (List Char)
  | [] => [[]]
  | c :: cs =>
    if c = separator then [] :: pieces separator cs
    else
      match pieces separator cs with
      | [] => [[c]]
      | piece :: later => (c :: piece) :: later

/-- The rest of the text when it starts with the given characters. -/
def dropPrefix? : List Char → List Char → Option (List Char)
  | [], cs => some cs
  | _ :: _, [] => none
  | p :: ps, c :: cs => if p = c then dropPrefix? ps cs else none

theorem pieces_ne_nil (separator : Char) (cs : List Char) : pieces separator cs ≠ [] := by
  cases cs with
  | nil => simp [pieces]
  | cons c cs =>
    unfold pieces
    split
    · simp
    · split <;> simp

end ExtractOptions.Text
