/-!
Blank characters and trimming.

A blank is a character of the Unicode `White_Space` property: the ASCII tab,
line feed, vertical tab, form feed, carriage return and space, next line, the
no-break spaces, the ogham space mark, the typographic spaces U+2000 to U+200A,
the line and paragraph separators, the medium mathematical space and the
ideographic space. Trimming removes blanks from both ends of a text.
-/
namespace Cadence.Text

/-- The `White_Space` characters of Unicode. -/
def isBlank (c : Char) : Bool :=
  let n := c.toNat
  (0x09 ≤ n && n ≤ 0x0D) || n == 0x20 || n == 0x85 || n == 0xA0 || n == 0x1680 ||
    (0x2000 ≤ n && n ≤ 0x200A) || n == 0x2028 || n == 0x2029 || n == 0x202F ||
    n == 0x205F || n == 0x3000

theorem isBlank_of_isWhitespace (c : Char) (h : c.isWhitespace = true) : isBlank c = true := by
  simp only [Char.isWhitespace, Bool.or_eq_true, decide_eq_true_eq] at h
  rcases h with ((h | h) | h) | h <;> subst h <;> decide

/-- Drops the blanks at the front of a character list. -/
def dropBlanks : List Char → List Char
  | [] => []
  | c :: cs => if isBlank c then dropBlanks cs else c :: cs

/-- Removes blanks from both ends. -/
def trim (s : String) : String :=
  String.ofList (dropBlanks (dropBlanks s.toList).reverse).reverse

/-- Only characters below 128. -/
def isAscii (s : String) : Bool :=
  s.toList.all fun c => c.toNat < 128

/-- ASCII letters in upper case; every other character is kept. -/
def asciiUpper (s : String) : String :=
  String.map (fun c => if 'a' ≤ c ∧ c ≤ 'z' then Char.ofNat (c.toNat - 32) else c) s

/-- ASCII letters in lower case; every other character is kept. -/
def asciiLower (s : String) : String :=
  String.map (fun c => if 'A' ≤ c ∧ c ≤ 'Z' then Char.ofNat (c.toNat + 32) else c) s

/-- Decimal digits `0` to `9`. -/
def isDigit (c : Char) : Bool := '0' ≤ c && c ≤ '9'

/-- The value of a nonempty run of decimal digits. -/
def digitsValue? (cs : List Char) : Option Nat :=
  if cs.isEmpty || !cs.all isDigit then none
  else some (cs.foldl (fun n c => 10 * n + (c.toNat - '0'.toNat)) 0)

/-- Zero-padded decimal text of at least `width` digits. -/
def padNat (width n : Nat) : String :=
  let s := toString n
  String.ofList (List.replicate (width - s.length) '0') ++ s

end Cadence.Text
