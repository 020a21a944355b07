import Cadence.Settings.Basic
/-!
Settings written as a TOML 1.0 document.

The whole document must be well formed: strings with their escapes, numbers,
booleans, dates and times, arrays, inline tables, comments, table headers and
arrays of tables. It must also define each key and each table once: a header
may name a table that an earlier header only passed through, and dotted keys
extend only the tables that dotted keys made. Inline tables and arrays are
closed once written.

The document is kept as the list of its defined paths, each with what it
holds. Settings read the four keys of the root table, each defaulting when
absent; a key of the wrong type fails the whole reading, and other keys and
tables are ignored.
-/
namespace Cadence.Toml

/-- One step of a path: a key, or an element of an array of tables. -/
inductive Seg where
  | key (k : String)
  | index (i : Nat)
  deriving DecidableEq, Repr

/-- A value that holds no other values, as far as settings look at it. -/
inductive Scalar where
  | str (s : String)
  | int (n : Int)
  /-- A float, boolean, date or time. -/
  | other
  deriving DecidableEq, Repr

/-- How a table came to be, which decides how it may be extended. -/
inductive TableKind where
  /-- Passed through by a header, not yet defined. -/
  | implicit
  /-- Defined by its own header. -/
  | explicit
  /-- Made by a dotted key. -/
  | dotted
  /-- Written inline, or inside an inline table: closed. -/
  | inline
  deriving DecidableEq, Repr

/-- What a path of a document holds. -/
inductive Entry where
  | table (kind : TableKind)
  /-- An array of tables with this many elements. -/
  | tables (count : Nat)
  /-- An array, and whether it is empty. -/
  | array (empty : Bool)
  | scalar (s : Scalar)
  deriving DecidableEq, Repr

/-- The defined paths of a document. -/
abbrev Doc := List (List Seg × Entry)

/-- What a path holds. -/
def Doc.get? (d : Doc) (p : List Seg) : Option Entry := List.lookup p d

/-- Sets what a path holds. A new path is the newest of its table; a path
already there keeps its place. -/
def Doc.set (d : Doc) (p : List Seg) (e : Entry) : Doc :=
  if (d.get? p).isSome then d.map fun x => if x.1 = p then (p, e) else x
  else (p, e) :: d

/-- Sets what a path holds and makes it the newest of its table, as a table
that a header takes up again is put back after the others. -/
def Doc.renew (d : Doc) (p : List Seg) (e : Entry) : Doc :=
  (p, e) :: d.filter fun x => x.1 ≠ p

/-- The keys directly inside a path with what they hold, newest first. -/
def Doc.children (d : Doc) (p : List Seg) : List (String × Entry) :=
  d.filterMap fun x =>
    if x.1.take p.length = p then
      match x.1.drop p.length with
      | [.key k] => some (k, x.2)
      | _ => none
    else none

/-- Nothing is inside a path. -/
def Doc.isEmptyAt (d : Doc) (p : List Seg) : Bool :=
  d.all fun x => !(decide (p.length < x.1.length) && decide (x.1.take p.length = p))

/-- Keys with this many parts, and arrays and inline tables nested this deep,
are refused. -/
def nestingLimit : Nat := 80

/-! ## Characters -/

def isWs (c : Char) : Bool := c = ' ' || c = '\t'

def isNonAscii (c : Char) : Bool := c.toNat ≥ 0x80

def isBareKey (c : Char) : Bool :=
  ('A' ≤ c && c ≤ 'Z') || ('a' ≤ c && c ≤ 'z') || ('0' ≤ c && c ≤ '9') || c = '_' || c = '-'

def isCommentChar (c : Char) : Bool :=
  c = '\t' || (0x20 ≤ c.toNat && c.toNat ≤ 0x7E) || isNonAscii c

def isBasicChar (c : Char) : Bool :=
  c = ' ' || c = '\t' || c = '!' || (0x23 ≤ c.toNat && c.toNat ≤ 0x5B) ||
    (0x5D ≤ c.toNat && c.toNat ≤ 0x7E) || isNonAscii c

def isLiteralChar (c : Char) : Bool :=
  c = '\t' || (0x20 ≤ c.toNat && c.toNat ≤ 0x26) || (0x28 ≤ c.toNat && c.toNat ≤ 0x7E) ||
    isNonAscii c

def isDigit (c : Char) : Bool := '0' ≤ c && c ≤ '9'

def hexValue? (c : Char) : Option Nat :=
  if '0' ≤ c && c ≤ '9' then some (c.toNat - '0'.toNat)
  else if 'a' ≤ c && c ≤ 'f' then some (c.toNat - 'a'.toNat + 10)
  else if 'A' ≤ c && c ≤ 'F' then some (c.toNat - 'A'.toNat + 10)
  else none

/-! ## Layout -/

/-- A reader of a prefix of the input. -/
abbrev Reader (α : Type) := List Char → Option (α × List Char)

def skipWs (cs : List Char) : List Char := cs.dropWhile isWs

/-- A line break: `LF` or `CR LF`. -/
def newline? : List Char → Option (List Char)
  | '\n' :: rest => some rest
  | '\r' :: '\n' :: rest => some rest
  | _ => none

/-- A comment from `#` to the end of its line, the break not included. -/
def comment? : List Char → Option (List Char)
  | '#' :: rest => some (rest.dropWhile isCommentChar)
  | _ => none

/-- The end of a line: blanks, perhaps a comment, then a break or the end. -/
def lineEnd? (cs : List Char) : Option (List Char) :=
  let cs := skipWs cs
  let cs := (comment? cs).getD cs
  match cs with
  | [] => some []
  | _ => newline? cs

/-- Blanks, comments and line breaks, as found inside arrays. -/
def skipLayout : Nat → List Char → Option (List Char)
  | 0, _ => none
  | fuel + 1, cs =>
    let cs := skipWs cs
    match comment? cs with
    | some rest =>
      match rest with
      | [] => some []
      | _ => (newline? rest).bind (skipLayout fuel)
    | none =>
      match newline? cs with
      | some rest => skipLayout fuel rest
      | none => some cs

/-! ## Strings -/

/-- The character of a code point, if it is a Unicode scalar value. -/
def scalarChar? (n : Nat) : Option Char :=
  if n < 0xD800 || (0xDFFF < n && n ≤ 0x10FFFF) then some (Char.ofNat n) else none

/-- Exactly `n` hexadecimal digits. -/
def hexDigits (n : Nat) (cs : List Char) : Option (Nat × List Char) :=
  let ds := cs.take n
  if ds.length = n then
    (ds.mapM hexValue?).map fun vs => (vs.foldl (fun acc v => acc * 16 + v) 0, cs.drop n)
  else none

/-- An escape after its backslash. -/
def escape : Reader Char
  | 'b' :: rest => some ('\x08', rest)
  | 't' :: rest => some ('\t', rest)
  | 'n' :: rest => some ('\n', rest)
  | 'f' :: rest => some ('\x0c', rest)
  | 'r' :: rest => some ('\r', rest)
  | '"' :: rest => some ('"', rest)
  | '\\' :: rest => some ('\\', rest)
  | 'u' :: rest => do
    let (n, rest) ← hexDigits 4 rest
    pure (← scalarChar? n, rest)
  | 'U' :: rest => do
    let (n, rest) ← hexDigits 8 rest
    pure (← scalarChar? n, rest)
  | _ => none

/-- The rest of a basic string after its opening quote. -/
def basicBody (acc : List Char) : List Char → Option (String × List Char)
  | '"' :: rest => some (String.ofList acc.reverse, rest)
  | '\\' :: rest => do
    let (c, rest') ← escape rest
    if _h : rest'.length < rest.length then basicBody (c :: acc) rest' else none
  | c :: rest => if isBasicChar c then basicBody (c :: acc) rest else none
  | [] => none
termination_by cs => cs.length

/-- The rest of a literal string after its opening quote. -/
def literalBody (acc : List Char) : List Char → Option (String × List Char)
  | '\'' :: rest => some (String.ofList acc.reverse, rest)
  | c :: rest => if isLiteralChar c then literalBody (c :: acc) rest else none
  | [] => none

/-- Skips blanks and line breaks after a line-ending backslash. -/
def skipBlankLines : List Char → List Char
  | c :: rest => if isWs c || c = '\n' then skipBlankLines rest
                 else if c = '\r' then (match rest with
                   | '\n' :: more => skipBlankLines more
                   | _ => c :: rest)
                 else c :: rest
  | [] => []

/-- A line-ending backslash: blanks, then a break. -/
def lineContinuation? (cs : List Char) : Option (List Char) :=
  (newline? (skipWs cs)).map skipBlankLines

/-- The rest of a multi-line basic string after its opening delimiter. -/
def mlBasicBody (acc : List Char) : List Char → Option (String × List Char)
  | '"' :: '"' :: '"' :: '"' :: '"' :: rest => some (String.ofList ('"' :: '"' :: acc).reverse, rest)
  | '"' :: '"' :: '"' :: '"' :: rest => some (String.ofList ('"' :: acc).reverse, rest)
  | '"' :: '"' :: '"' :: rest => some (String.ofList acc.reverse, rest)
  | '\\' :: rest =>
    match lineContinuation? rest with
    | some rest' => if _h : rest'.length < rest.length + 1 then mlBasicBody acc rest' else none
    | none => do
      let (c, rest') ← escape rest
      if _h : rest'.length < rest.length then mlBasicBody (c :: acc) rest' else none
  | '\r' :: '\n' :: rest => mlBasicBody ('\n' :: acc) rest
  | '\n' :: rest => mlBasicBody ('\n' :: acc) rest
  | c :: rest => if isBasicChar c || c = '"' then mlBasicBody (c :: acc) rest else none
  | [] => none
termination_by cs => cs.length

/-- The rest of a multi-line literal string after its opening delimiter. -/
def mlLiteralBody (acc : List Char) : List Char → Option (String × List Char)
  | '\'' :: '\'' :: '\'' :: '\'' :: '\'' :: rest =>
    some (String.ofList ('\'' :: '\'' :: acc).reverse, rest)
  | '\'' :: '\'' :: '\'' :: '\'' :: rest => some (String.ofList ('\'' :: acc).reverse, rest)
  | '\'' :: '\'' :: '\'' :: rest => some (String.ofList acc.reverse, rest)
  | '\r' :: '\n' :: rest => mlLiteralBody ('\n' :: acc) rest
  | '\n' :: rest => mlLiteralBody ('\n' :: acc) rest
  | c :: rest => if isLiteralChar c || c = '\'' then mlLiteralBody (c :: acc) rest else none
  | [] => none

/-- Drops the line break that may follow an opening delimiter. -/
def dropFirstNewline (cs : List Char) : List Char := (newline? cs).getD cs

/-- A string of any of the four kinds. -/
def string : Reader String
  | '"' :: '"' :: '"' :: rest => mlBasicBody [] (dropFirstNewline rest)
  | '"' :: rest => basicBody [] rest
  | '\'' :: '\'' :: '\'' :: rest => mlLiteralBody [] (dropFirstNewline rest)
  | '\'' :: rest => literalBody [] rest
  | _ => none

/-! ## Keys -/

/-- A bare or quoted key. -/
def simpleKey : Reader String
  | '"' :: rest => basicBody [] rest
  | '\'' :: rest => literalBody [] rest
  | cs =>
    let k := cs.takeWhile isBareKey
    if k.isEmpty then none else some (String.ofList k, cs.drop k.length)

/-- Further parts of a dotted key. -/
def dottedRest (acc : List String) : List Char → Option (List String × List Char)
  | cs =>
    match skipWs cs with
    | '.' :: rest => do
      let (k, rest') ← simpleKey (skipWs rest)
      if _h : rest'.length < cs.length then dottedRest (k :: acc) rest' else none
    | _ => some (acc.reverse, cs)
termination_by cs => cs.length

/-- A key, dotted or not, with fewer parts than the nesting limit. -/
def key (cs : List Char) : Option (List String × List Char) := do
  let (k, rest) ← simpleKey cs
  let (ks, rest) ← dottedRest [k] rest
  if ks.length < nestingLimit then some (ks, rest) else none

/-! ## Numbers, dates and times -/

/-- Digits of a radix, with single underscores between them. -/
def radixDigits (value : Char → Option Nat) (radix : Nat) (acc : Nat) :
    List Char → Option (Nat × List Char)
  | '_' :: c :: rest =>
    match value c with
    | some v => radixDigits value radix (acc * radix + v) rest
    | none => none
  | c :: rest =>
    match value c with
    | some v => radixDigits value radix (acc * radix + v) rest
    | none => some (acc, c :: rest)
  | [] => some (acc, [])

def decValue? (c : Char) : Option Nat := if isDigit c then some (c.toNat - '0'.toNat) else none
def octValue? (c : Char) : Option Nat := if '0' ≤ c && c ≤ '7' then some (c.toNat - '0'.toNat) else none
def binValue? (c : Char) : Option Nat := if c = '0' || c = '1' then some (c.toNat - '0'.toNat) else none

/-- A run of digits with single underscores between them, at least one digit. -/
def digitRun (cs : List Char) : Option (Nat × List Char) :=
  match cs with
  | c :: rest => (decValue? c).bind fun v => radixDigits decValue? 10 v rest
  | [] => none

/-- The largest integer. -/
def intMax : Int := 9223372036854775807

/-- The least magnitude that rounds to infinity as a double, `2 ^ 1024 - 2 ^ 970`, halfway
between the largest finite double and `2 ^ 1024`, with ties to even. -/
def doubleOverflow : Nat := Nat.pow 2 1024 - Nat.pow 2 970

/-- `m * 10 ^ e` rounds to infinity as a double; only values with 309 digits before the point
need the exact comparison. -/
def roundsToInfinity (m : Nat) (e : Int) : Bool :=
  if m = 0 then false
  else
    let d : Int := (Nat.toDigits 10 m).length
    if d + e ≤ 308 then false
    else if 310 ≤ d + e then true
    else if 0 ≤ e then decide (doubleOverflow ≤ m * Nat.pow 10 e.toNat)
    else decide (doubleOverflow * Nat.pow 10 (-e).toNat ≤ m)

/-- An integer or float after its sign. A float is refused when it rounds to
positive infinity; a negative one may round to negative infinity. -/
def unsignedNumber (negative : Bool) : Reader Scalar
  | 'i' :: 'n' :: 'f' :: rest => some (.other, rest)
  | 'n' :: 'a' :: 'n' :: rest => some (.other, rest)
  | cs => do
    let (n, rest) ← match cs with
      | '0' :: rest => some (0, rest)
      | _ => digitRun cs
    let (frac, rest) ← match rest with
      | '.' :: more => do
        let (f, after) ← digitRun more
        let count := ((more.take (more.length - after.length)).filter isDigit).length
        pure (some (f, count), after)
      | _ => pure (none, rest)
    let (exp, rest) ← match rest with
      | 'e' :: more | 'E' :: more => do
        let (below, more) := match more with
          | '+' :: m => (false, m)
          | '-' :: m => (true, m)
          | m => (false, m)
        let (x, after) ← digitRun more
        pure (some (if below then -(x : Int) else x), after)
      | _ => pure (none, rest)
    match frac, exp with
    | none, none =>
      let v : Int := if negative then -(n : Int) else n
      if -intMax - 1 ≤ v && v ≤ intMax then pure (.int v, rest) else none
    | _, _ =>
      let (f, k) := frac.getD (0, 0)
      if !negative && roundsToInfinity (n * Nat.pow 10 k + f) (exp.getD 0 - k) then none
      else pure (.other, rest)

/-- Exactly `n` decimal digits. -/
def fixed (n : Nat) (cs : List Char) : Option (Nat × List Char) :=
  let ds := cs.take n
  if ds.length = n && ds.all isDigit then
    some (ds.foldl (fun acc c => acc * 10 + (c.toNat - '0'.toNat)) 0, cs.drop n)
  else none

def expect (c : Char) : List Char → Option (List Char)
  | d :: rest => if c = d then some rest else none
  | [] => none

/-- `HH:MM:SS` with an optional fraction. -/
def localTime (cs : List Char) : Option (List Char) := do
  let (h, cs) ← fixed 2 cs
  let cs ← expect ':' cs
  let (m, cs) ← fixed 2 cs
  let cs ← expect ':' cs
  let (s, cs) ← fixed 2 cs
  if h > 23 || m > 59 || s > 60 then none
  match cs with
  | '.' :: rest =>
    let ds := rest.takeWhile isDigit
    if ds.isEmpty then none else some (rest.drop ds.length)
  | _ => some cs

/-- `YYYY-MM-DD`. -/
def localDate (cs : List Char) : Option (List Char) := do
  let (y, cs) ← fixed 4 cs
  let cs ← expect '-' cs
  let (m, cs) ← fixed 2 cs
  let cs ← expect '-' cs
  let (d, cs) ← fixed 2 cs
  if m < 1 || m > 12 || d < 1 || d > monthLength y m then none
  some cs

/-- An offset: `Z` or `±HH:MM`. -/
def offset? : List Char → Option (List Char)
  | 'Z' :: rest => some rest
  | 'z' :: rest => some rest
  | c :: rest =>
    if c = '+' || c = '-' then do
      let (h, rest) ← fixed 2 rest
      let rest ← expect ':' rest
      let (m, rest) ← fixed 2 rest
      if h > 23 || m > 59 then none else some rest
    else none
  | [] => none

/-- A date, a time, or a date and time with or without an offset. -/
def dateTime (cs : List Char) : Option (Scalar × List Char) :=
  match localDate cs with
  | some rest =>
    let time? := match rest with
      | 'T' :: more | 't' :: more => localTime more
      | ' ' :: more => localTime more
      | _ => none
    match time? with
    | some more => some (.other, (offset? more).getD more)
    | none => match rest with
      | 'T' :: _ | 't' :: _ => none
      | _ => some (.other, rest)
  | none => (localTime cs).map fun rest => (.other, rest)

/-- A number, date or time. -/
def numeric : Reader Scalar
  | '+' :: rest => unsignedNumber false rest
  | '-' :: rest => unsignedNumber true rest
  | '0' :: 'x' :: rest => do
    let (n, rest) ← match rest with
      | c :: more => (hexValue? c).bind fun v => radixDigits hexValue? 16 v more
      | [] => none
    if n ≤ intMax.toNat then pure (.int n, rest) else none
  | '0' :: 'o' :: rest => do
    let (n, rest) ← match rest with
      | c :: more => (octValue? c).bind fun v => radixDigits octValue? 8 v more
      | [] => none
    if n ≤ intMax.toNat then pure (.int n, rest) else none
  | '0' :: 'b' :: rest => do
    let (n, rest) ← match rest with
      | c :: more => (binValue? c).bind fun v => radixDigits binValue? 2 v more
      | [] => none
    if n ≤ intMax.toNat then pure (.int n, rest) else none
  | cs =>
    match dateTime cs with
    | some r => some r
    | none => unsignedNumber false cs

/-! ## Values -/

/-- A value as stored: its entry, and for an inline table its own paths. -/
structure Written where
  entry : Entry
  inner : Doc

/-- Puts a new key holding `w` in the table at `p`'s parent. -/
def placeNew (d : Doc) (p : List Seg) (w : Written) : Option Doc :=
  if (d.get? p).isSome then none
  else some ((w.inner.map fun x => (p ++ x.1, x.2)) ++ d.set p w.entry)

/-- Places a value at the last part of a dotted key, walking from the table at `base` through
tables no header defined and making dotted tables where there are none. -/
def placeDotted (d : Doc) (dotted : Bool) : List Seg → List String → Written → Option Doc
  | base, [k], w => if dotted then placeNew d (base ++ [.key k]) w else none
  | base, k :: ks, w =>
    let p := base ++ [.key k]
    match d.get? p with
    | none => placeDotted (d.set p (.table .dotted)) true p ks w
    | some (.table .dotted) => placeDotted d true p ks w
    | some (.table .implicit) => placeDotted d false p ks w
    | some (.tables n) => placeDotted d false (p ++ [.index (n - 1)]) ks w
    | some _ => none
  | _, [], _ => none

/-- Defines a key, dotted or not, in the table at `base`. -/
def defineKey (d : Doc) (base : List Seg) : List String → Written → Option Doc
  | [k], w => placeNew d (base ++ [.key k]) w
  | ks, w => placeDotted d false base ks w

mutual

/-- A value inside `depth` arrays and inline tables; `fuel` bounds the
nesting. -/
def value : Nat → Nat → Reader Written
  | 0, _, _ => none
  | fuel + 1, depth, cs =>
    match cs with
    | '"' :: _ | '\'' :: _ => (string cs).map fun (s, rest) => (⟨.scalar (.str s), []⟩, rest)
    | 't' :: 'r' :: 'u' :: 'e' :: rest => some (⟨.scalar .other, []⟩, rest)
    | 'f' :: 'a' :: 'l' :: 's' :: 'e' :: rest => some (⟨.scalar .other, []⟩, rest)
    | 'i' :: 'n' :: 'f' :: rest => some (⟨.scalar .other, []⟩, rest)
    | 'n' :: 'a' :: 'n' :: rest => some (⟨.scalar .other, []⟩, rest)
    | '[' :: rest => do
      if depth + 1 ≥ nestingLimit then none
      let rest ← skipLayout (rest.length + 1) rest
      let empty := match rest with
        | ']' :: _ => true
        | _ => false
      let rest ← arrayItems fuel (depth + 1) rest
      pure (⟨.array empty, []⟩, rest)
    | '{' :: rest => do
      if depth + 1 ≥ nestingLimit then none
      let (d, rest) ← inlineTable fuel (depth + 1) [] (skipWs rest)
      pure (⟨.table .inline, d⟩, rest)
    | c :: _ =>
      if isDigit c || c = '+' || c = '-' then
        (numeric cs).map fun (s, rest) => (⟨.scalar s, []⟩, rest)
      else none
    | [] => none

/-- The elements of an array after its opening bracket and layout, through the
closing bracket. -/
def arrayItems : Nat → Nat → List Char → Option (List Char)
  | 0, _, _ => none
  | _ + 1, _, ']' :: rest => some rest
  | fuel + 1, depth, cs => do
    let (_, rest) ← value fuel depth cs
    let rest ← skipLayout (rest.length + 1) rest
    match rest with
    | ']' :: more => some more
    | ',' :: more => arrayItems fuel depth (← skipLayout (more.length + 1) more)
    | _ => none

/-- The pairs of an inline table after its opening brace, through the closing
brace. -/
def inlineTable : Nat → Nat → Doc → List Char → Option (Doc × List Char)
  | 0, _, _, _ => none
  | _ + 1, _, d, '}' :: rest => if d.isEmpty then some (d, rest) else none
  | fuel + 1, depth, d, cs => do
    let (ks, rest) ← key cs
    let rest ← expect '=' (skipWs rest)
    let (w, rest) ← value fuel depth (skipWs rest)
    let w := match w.entry with
      | .table _ => { w with inner := w.inner.map fun x => (x.1, match x.2 with
          | .table _ => .table .inline
          | e => e) }
      | _ => w
    let d ← defineKey d [] ks w
    match skipWs rest with
    | '}' :: more => some (d, more)
    | ',' :: more => inlineTableNext fuel depth d (skipWs more)
    | _ => none

/-- The pairs of an inline table after a comma. -/
def inlineTableNext : Nat → Nat → Doc → List Char → Option (Doc × List Char)
  | 0, _, _, _ => none
  | fuel + 1, depth, d, cs =>
    match cs with
    | '}' :: _ => none
    | _ => inlineTable fuel depth d cs

end

/-! ## Documents -/

/-- Where key-value pairs go and what the document holds so far. -/
structure State where
  doc : Doc
  current : List Seg

/-- Walks a header's path to its last key, making the tables it passes. -/
def headerParent (d : Doc) : List Seg → List String → Option (Doc × List Seg)
  | base, [] => some (d, base)
  | base, k :: ks =>
    let p := base ++ [.key k]
    match d.get? p with
    | none => headerParent (d.set p (.table .implicit)) p ks
    | some (.table .inline) => none
    | some (.table _) => headerParent d p ks
    | some (.tables n) => headerParent d (p ++ [.index (n - 1)]) ks
    | some _ => none

/-- `[a.b]`: defines a table. -/
def openTable (d : Doc) (ks : List String) : Option State := do
  let last ← ks.getLast?
  let (d, base) ← headerParent d [] ks.dropLast
  let p := base ++ [.key last]
  match d.get? p with
  | none => some ⟨d.set p (.table .explicit), p⟩
  | some (.table .implicit) => some ⟨d.renew p (.table .explicit), p⟩
  | _ => none

/-- `[[a.b]]`: adds a table to an array of tables. -/
def openArrayTable (d : Doc) (ks : List String) : Option State := do
  let last ← ks.getLast?
  let (d, base) ← headerParent d [] ks.dropLast
  let p := base ++ [.key last]
  match d.get? p with
  | none =>
    let q := p ++ [.index 0]
    some ⟨(d.set p (.tables 1)).set q (.table .explicit), q⟩
  | some (.tables n) =>
    let q := p ++ [.index n]
    some ⟨(d.set p (.tables (n + 1))).set q (.table .explicit), q⟩
  | _ => none

/-- One line of a document. -/
def line (s : State) (cs : List Char) : Option (State × List Char) :=
  match cs with
  | '[' :: '[' :: rest => do
    let (ks, rest) ← key (skipWs rest)
    let rest ← match skipWs rest with
      | ']' :: ']' :: more => some more
      | _ => none
    let s ← openArrayTable s.doc ks
    pure (s, ← lineEnd? rest)
  | '[' :: rest => do
    let (ks, rest) ← key (skipWs rest)
    let rest ← expect ']' (skipWs rest)
    let s ← openTable s.doc ks
    pure (s, ← lineEnd? rest)
  | _ => do
    let (ks, rest) ← key cs
    let rest ← expect '=' (skipWs rest)
    let (w, rest) ← value (rest.length + 1) 0 (skipWs rest)
    let w := match w.entry with
      | .table _ => { w with inner := w.inner.map fun x => (x.1, match x.2 with
          | .table _ => .table .inline
          | e => e) }
      | _ => w
    let d ← defineKey s.doc s.current ks w
    pure (⟨d, s.current⟩, ← lineEnd? rest)

/-- The lines of a document. -/
def lines : Nat → State → List Char → Option State
  | 0, _, _ => none
  | fuel + 1, s, cs =>
    match skipWs cs with
    | [] => some s
    | rest =>
      match newline? rest with
      | some more => lines fuel s more
      | none =>
        match comment? rest with
        | some more =>
          match more with
          | [] => some s
          | _ => (newline? more).bind (lines fuel s)
        | none => do
          let (s, more) ← line s rest
          lines fuel s more

/-- The defined paths of a document, if it is well formed. -/
def parse (text : String) : Option Doc :=
  let cs := match text.toList with
    | '\uFEFF' :: rest => rest
    | cs => cs
  (lines (cs.length + 1) ⟨[], []⟩ cs).map (·.doc)

/-- The storage format a path holds: its name as a string, or a table with
exactly one key, which names it and holds an empty table or array. -/
def storageFormatAt (doc : Doc) (p : List Seg) : Option StorageFormat :=
  let named (s : String) : Option StorageFormat :=
    if s = "date" then some .date else if s = "datetime" then some .dateTime else none
  match doc.get? p with
  | some (.scalar (.str s)) => named s
  | some (.table _) =>
    match doc.children p with
    | [(k, e)] => do
      let f ← named k
      let vacant : Bool := match e with
        | .table _ => doc.isEmptyAt (p ++ [.key k])
        | .array none_inside => none_inside
        | _ => false
      if vacant then some f else none
    | _ => none
  | _ => none

end Cadence.Toml

namespace Cadence

/-- Settings from a TOML document, `none` when the document is malformed or a
setting has the wrong type. -/
def Settings.ofToml (text : String) : Option Settings := do
  let doc ← Toml.parse text
  let get (k : String) := doc.get? [.key k]
  let d := Settings.default
  let precreate ← match get "precreate" with
    | some (.scalar (.str s)) => some s
    | some _ => none
    | none => some d.precreate
  let storageFormat ← match get "storage_format" with
    | some _ => Toml.storageFormatAt doc [.key "storage_format"]
    | none => some d.storageFormat
  let defaultZone ← match get "default_timezone" with
    | some (.scalar (.str s)) => some s
    | some _ => none
    | none => some d.defaultZone
  let maxOccurrences ← match get "max_occurrences" with
    | some (.scalar (.int n)) => if n < 0 then none else some n.toNat
    | some _ => none
    | none => some d.maxOccurrences
  pure ⟨precreate, storageFormat, defaultZone, maxOccurrences⟩

end Cadence
