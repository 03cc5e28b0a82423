import DirectChat.Config.Value
import DirectChat.Text.Integer
/-!
# TOML

A document is read into its top-level table. A key is defined once; a table is opened by one header,
and dotted keys do not reach into tables that have a header of their own. Of the values only those
that are not lists or tables are kept, but all of them have to be well formed.
-/

namespace DirectChat

namespace Toml

/-! ## Blanks, line ends and comments -/

/-- The text after its leading spaces and tabs. -/
def skipSpace (cs : List Char) : List Char := cs.dropWhile fun c => c == ' ' || c == '\t'

/-- Whether a character may stand in a comment or in a text of one line. -/
def isPlain (c : Char) : Bool := c == '\t' || (32 ≤ c.toNat && c.toNat ≠ 127)

/-- The text after a line end. -/
def lineEnd? : List Char → Option (List Char)
  | '\n' :: rest => some rest
  | '\r' :: '\n' :: rest => some rest
  | _ => none

/-- The text after a comment, if there is one. -/
def skipComment : List Char → List Char
  | '#' :: rest => rest.dropWhile isPlain
  | cs => cs

/-- The text after blanks, comments and line ends; `fuel` bounds the number of lines. -/
def skipLines : Nat → List Char → List Char
  | 0, cs => cs
  | fuel + 1, cs =>
    match lineEnd? (skipComment (skipSpace cs)) with
    | some rest => skipLines fuel rest
    | none => skipComment (skipSpace cs)

/-! ## Texts -/

/-- The value of a run of hexadecimal digits. -/
def hexNumber? (ds : List Char) : Option Nat :=
  ds.foldlM (fun n d =>
    if '0' ≤ d ∧ d ≤ '9' then some (n * 16 + (d.toNat - 48))
    else if 'a' ≤ d ∧ d ≤ 'f' then some (n * 16 + (d.toNat - 87))
    else if 'A' ≤ d ∧ d ≤ 'F' then some (n * 16 + (d.toNat - 55))
    else none) 0

/-- The character of a code given in hexadecimal digits. -/
def codePoint? (ds : List Char) : Option Char :=
  (hexNumber? ds).bind fun n => if n.isValidChar then some (Char.ofNat n) else none

/-- The character of an escape, and the text after it. -/
def escape? : List Char → Option (Char × List Char)
  | 'b' :: rest => some ('\x08', rest)
  | 't' :: rest => some ('\t', rest)
  | 'n' :: rest => some ('\n', rest)
  | 'f' :: rest => some ('\x0c', rest)
  | 'r' :: rest => some ('\r', rest)
  | '"' :: rest => some ('"', rest)
  | '\\' :: rest => some ('\\', rest)
  | 'u' :: rest =>
    if 4 ≤ rest.length then (codePoint? (rest.take 4)).map fun c => (c, rest.drop 4) else none
  | 'U' :: rest =>
    if 8 ≤ rest.length then (codePoint? (rest.take 8)).map fun c => (c, rest.drop 8) else none
  | _ => none

/-- Reads a text of one line with escapes, after its opening quote; `fuel` bounds its length. -/
def basicText : Nat → List Char → List Char → Option (List Char × List Char)
  | 0, _, _ => none
  | fuel + 1, acc, cs =>
    match cs with
    | '"' :: rest => some (acc.reverse, rest)
    | '\\' :: rest =>
      match escape? rest with
      | some (c, rest) => basicText fuel (c :: acc) rest
      | none => none
    | c :: rest => if isPlain c then basicText fuel (c :: acc) rest else none
    | [] => none

/-- Reads a text of one line without escapes, after its opening quote. -/
def literalText (cs : List Char) : Option (List Char × List Char) :=
  match cs.span fun c => isPlain c && c ≠ '\'' with
  | (text, '\'' :: rest) => some (text, rest)
  | _ => none

/-- The end of a text of several lines: three quotes, before which up to two more belong to the
text. -/
def closing? (quote : Char) (cs : List Char) : Option (List Char × List Char) :=
  let n := (cs.takeWhile (· = quote)).length
  if 3 ≤ n ∧ n ≤ 5 then some (List.replicate (n - 3) quote, cs.drop n) else none

/-- The text after a backslash at the end of a line, up to the next character that is not blank. -/
def joinedLines? (cs : List Char) : Option (List Char) :=
  match lineEnd? (skipSpace cs) with
  | some rest => some <| rest.dropWhile fun c => c == ' ' || c == '\t' || c == '\n' || c == '\r'
  | none => none

/-- Reads a text of several lines, after its opening quotes; `fuel` bounds its length. -/
def linesText (quote : Char) : Nat → List Char → List Char → Option (List Char × List Char)
  | 0, _, _ => none
  | fuel + 1, acc, cs =>
    match closing? quote cs with
    | some (extra, rest) => some (acc.reverse ++ extra, rest)
    | none =>
      match lineEnd? cs with
      | some rest => linesText quote fuel ('\n' :: acc) rest
      | none =>
        match cs with
        | [] => none
        | '\\' :: rest =>
          if quote = '"' then
            match joinedLines? rest with
            | some rest => linesText quote fuel acc rest
            | none =>
              match escape? rest with
              | some (c, rest) => linesText quote fuel (c :: acc) rest
              | none => none
          else linesText quote fuel ('\\' :: acc) rest
        | c :: rest => if isPlain c then linesText quote fuel (c :: acc) rest else none

/-- Reads a text of several lines; a line end right after the opening quotes is not part of it. -/
def openedLines (quote : Char) (cs : List Char) : Option (List Char × List Char) :=
  let cs := (lineEnd? cs).getD cs
  linesText quote (cs.length + 1) [] cs

/-- Reads a text. -/
def text? : List Char → Option (List Char × List Char)
  | '"' :: '"' :: '"' :: rest => openedLines '"' rest
  | '\'' :: '\'' :: '\'' :: rest => openedLines '\'' rest
  | '"' :: rest => basicText (rest.length + 1) [] rest
  | '\'' :: rest => literalText rest
  | _ => none

/-! ## Keys -/

/-- Whether a character may stand in a bare key. -/
def isKeyChar (c : Char) : Bool := c.isAlphanum || c == '_' || c == '-'

/-- Reads one key. -/
def simpleKey? (cs : List Char) : Option (String × List Char) :=
  match cs with
  | '"' :: rest => (basicText (rest.length + 1) [] rest).map fun (k, rest) => (String.ofList k, rest)
  | '\'' :: rest => (literalText rest).map fun (k, rest) => (String.ofList k, rest)
  | _ =>
    match cs.span isKeyChar with
    | ([], _) => none
    | (k, rest) => some (String.ofList k, rest)

/-- Reads keys between dots; `fuel` bounds their number. -/
def keyPath? : Nat → List Char → Option (List String × List Char)
  | 0, _ => none
  | fuel + 1, cs => do
    let (k, rest) ← simpleKey? (skipSpace cs)
    match skipSpace rest with
    | '.' :: rest =>
      let (ks, rest) ← keyPath? fuel rest
      return (k :: ks, rest)
    | rest => return ([k], rest)

/-- How deep keys and values may be nested. -/
def depthLimit : Nat := 80

/-! ## Numbers and moments -/

/-- Reads digits of a class, single underscores between them allowed; gives the digits alone.
`fuel` bounds their number. -/
def digitRun (isDigit : Char → Bool) : Nat → List Char → Option (List Char × List Char)
  | 0, _ => none
  | fuel + 1, cs =>
    match cs with
    | d :: rest =>
      if isDigit d then
        match rest with
        | '_' :: more => (digitRun isDigit fuel more).map fun (ds, rest) => (d :: ds, rest)
        | e :: _ =>
          if isDigit e then (digitRun isDigit fuel rest).map fun (ds, rest) => (d :: ds, rest)
          else some ([d], rest)
        | [] => some ([d], [])
      else none
    | [] => none

/-- Reads a whole number without its sign: a zero alone, or digits that do not begin with one. -/
def wholeRun (cs : List Char) : Option (List Char × List Char) :=
  match cs with
  | '0' :: rest => some (['0'], rest)
  | _ => digitRun Char.isDigit (cs.length + 1) cs

/-- A sign and the text after it. -/
def sign (cs : List Char) : Bool × List Char :=
  match cs with
  | '-' :: rest => (true, rest)
  | '+' :: rest => (false, rest)
  | _ => (false, cs)

/-- Reads an exponent, if there is one. -/
def exponent? (cs : List Char) : Option (Option Int × List Char) :=
  match cs with
  | e :: rest =>
    if e = 'e' ∨ e = 'E' then
      let (negative, rest) := sign rest
      (digitRun Char.isDigit (rest.length + 1) rest).map fun (ds, rest) =>
        (some (if negative then -(natOfDigits ds : Int) else natOfDigits ds), rest)
    else some (none, cs)
  | [] => some (none, [])

/-- Reads a number in decimal, whole or not. One that is too large for a double is no number. -/
def decimal? (cs : List Char) : Option (ConfigValue × List Char) := do
  let (negative, rest) := sign cs
  let (whole, rest) ← wholeRun rest
  let (fraction, rest) ← match rest with
    | '.' :: more => (digitRun Char.isDigit (more.length + 1) more).map fun (ds, r) => (ds, r)
    | _ => some ([], rest)
  let (exponent, rest) ← exponent? rest
  if fraction = [] ∧ exponent = none then
    let n : Int := natOfDigits whole
    let i := if negative then -n else n
    if isInt64 i then some (.signed i, rest) else none
  else
    let x := Double.ofDecimal negative (natOfDigits (whole ++ fraction))
      (exponent.getD 0 - fraction.length)
    if x = .infinite false then none else some (.real x, rest)

/-- Reads a whole number in another base, after its mark. -/
def based? (base : Nat) (cs : List Char) : Option (ConfigValue × List Char) := do
  let isDigit (c : Char) : Bool := (hexNumber? [c]).any fun n => n < base
  let (ds, rest) ← digitRun isDigit (cs.length + 1) cs
  let n := ds.foldl (fun n d => n * base + (hexNumber? [d]).getD 0) 0
  if n < Nat.pow 2 63 then some (.signed n, rest) else none

/-- Reads a number of so many digits. -/
def fixed? (count : Nat) (cs : List Char) : Option (Nat × List Char) :=
  let ds := cs.take count
  if ds.length = count ∧ ds.all Char.isDigit then some (natOfDigits ds, cs.drop count) else none

/-- The number of days in a month. -/
def daysIn (year month : Nat) : Nat :=
  if month = 2 then
    if year % 4 = 0 ∧ (year % 100 ≠ 0 ∨ year % 400 = 0) then 29 else 28
  else if month = 4 ∨ month = 6 ∨ month = 9 ∨ month = 11 then 30
  else 31

/-- Reads the rest of a date after its year and the first hyphen. -/
def dateRest? (year : Nat) (cs : List Char) : Option (List Char) := do
  let (month, rest) ← fixed? 2 cs
  match rest with
  | '-' :: rest =>
    let (day, rest) ← fixed? 2 rest
    if 1 ≤ month ∧ month ≤ 12 ∧ 1 ≤ day ∧ day ≤ daysIn year month then some rest else none
  | _ => none

/-- Reads the rest of a time after its hour and the first colon. -/
def timeRest? (cs : List Char) : Option (List Char) := do
  let (minute, rest) ← fixed? 2 cs
  match rest with
  | ':' :: rest =>
    let (second, rest) ← fixed? 2 rest
    if minute ≤ 59 ∧ second ≤ 60 then
      match rest with
      | '.' :: d :: more => if d.isDigit then some (more.dropWhile Char.isDigit) else none
      | _ => some rest
    else none
  | _ => none

/-- The text after the offset of a time, if there is one. -/
def skipOffset (cs : List Char) : Option (List Char) :=
  match cs with
  | 'Z' :: rest | 'z' :: rest => some rest
  | s :: rest =>
    if s = '+' ∨ s = '-' then do
      let (hour, rest) ← fixed? 2 rest
      match rest with
      | ':' :: rest =>
        let (minute, rest) ← fixed? 2 rest
        if hour ≤ 23 ∧ minute ≤ 59 then some rest else none
      | _ => none
    else some cs
  | [] => some []

/-- Whether an hour and a colon come next; the text after them. -/
def hourAhead? (cs : List Char) : Option (List Char) :=
  match fixed? 2 cs with
  | some (hour, ':' :: rest) => if hour ≤ 23 then some rest else none
  | _ => none

/-- Reads a date, a time or both, if one of them begins here; the inner result is `none` when it is
not well formed. -/
def moment? (cs : List Char) : Option (Option (List Char)) :=
  match fixed? 4 cs with
  | some (year, '-' :: rest) =>
    some <| (dateRest? year rest).bind fun rest =>
      match rest with
      | t :: more =>
        if t = 'T' ∨ t = 't' ∨ t = ' ' then
          match hourAhead? more with
          | some more => (timeRest? more).bind skipOffset
          | none => some rest
        else some rest
      | [] => some []
  | _ => (hourAhead? cs).map timeRest?

/-- Reads a number or a moment. -/
def number? (cs : List Char) : Option (ConfigValue × List Char) :=
  match moment? cs with
  | some result => result.map fun rest => (.map, rest)
  | none =>
    match cs with
    | '0' :: 'x' :: rest => based? 16 rest
    | '0' :: 'o' :: rest => based? 8 rest
    | '0' :: 'b' :: rest => based? 2 rest
    | _ =>
      match sign cs with
      | (negative, 'i' :: 'n' :: 'f' :: rest) => some (.real (.infinite negative), rest)
      | (_, 'n' :: 'a' :: 'n' :: rest) => some (.real .nan, rest)
      | _ => decimal? cs

/-! ## Tables -/

/-- What a key of a document stands for. -/
inductive Item
  | leaf (v : ConfigValue)
  /-- A table: whether it has a header of its own, whether it was made by a dotted key, and its
  entries. -/
  | table (headed dotted : Bool) (entries : List (String × Item))
  /-- A list of tables. -/
  | tables (all : List (List (String × Item)))

/-- The entries of a table. -/
abbrev Entries := List (String × Item)

/-- Replaces or adds an entry. -/
def put (es : Entries) (k : String) (i : Item) : Entries :=
  if es.any (·.1 == k) then es.map fun e => if e.1 == k then (k, i) else e else es ++ [(k, i)]

/-- Adds a value under a path of dotted keys. `here` says that the table was made by a dotted key:
only keys with a path lead into such a table. -/
def addValue (v : ConfigValue) : List String → Entries → Option Entries
  | [], _ => none
  | [k], es => if es.any (·.1 == k) then none else some (es ++ [(k, .leaf v)])
  | k :: ks, es =>
    match es.lookup k with
    | none => (addValue v ks []).map fun inner => put es k (.table false true inner)
    | some (.table false dotted inner) =>
      if dotted ∨ 2 ≤ ks.length then
        (addValue v ks inner).map fun inner => put es k (.table false dotted inner)
      else none
    | some _ => none

/-- Changes the entries at a path; tables on the way that are missing are made, and a list of tables
leads into its last one. -/
def changeAt (f : Entries → Option Entries) : List String → Entries → Option Entries
  | [], es => f es
  | k :: ks, es =>
    match es.lookup k with
    | none => (changeAt f ks []).map fun inner => put es k (.table false false inner)
    | some (.table headed dotted inner) =>
      (changeAt f ks inner).map fun inner => put es k (.table headed dotted inner)
    | some (.tables all) =>
      match all.reverse with
      | last :: before =>
        (changeAt f ks last).map fun last => put es k (.tables (last :: before).reverse)
      | [] => none
    | some (.leaf _) => none

/-- Opens a table by its header. -/
def openTable (k : String) (es : Entries) : Option Entries :=
  match es.lookup k with
  | none => some (put es k (.table true false []))
  | some (.table false false inner) => some (put es k (.table true false inner))
  | some _ => none

/-- Opens a further table of a list by its header. -/
def openListed (k : String) (es : Entries) : Option Entries :=
  match es.lookup k with
  | none => some (put es k (.tables [[]]))
  | some (.tables all) => some (put es k (.tables (all ++ [[]])))
  | some _ => none

/-! ## Values -/

/-- Reads the items of a list after its opening bracket; `fuel` bounds their number. -/
def items (value : List Char → Option (ConfigValue × List Char)) :
    Nat → List Char → Option (List Char)
  | 0, _ => none
  | fuel + 1, cs =>
    let skip (cs : List Char) := skipLines (cs.length + 1) cs
    match skip cs with
    | ']' :: rest => some rest
    | cs => do
      let (_, rest) ← value cs
      match skip rest with
      | ',' :: rest => items value fuel rest
      | ']' :: rest => some rest
      | _ => none

/-- Reads a key with its value. -/
def pair? (value : List Char → Option (ConfigValue × List Char)) (cs : List Char) :
    Option ((List String × ConfigValue) × List Char) := do
  let (path, rest) ← keyPath? (cs.length + 1) cs
  if depthLimit < path.length then none
  match rest with
  | '=' :: rest =>
    let (v, rest) ← value (skipSpace rest)
    return ((path, v), rest)
  | _ => none

/-- Reads the pairs of a table in one line, after its opening brace; `fuel` bounds their number. -/
def pairs (value : List Char → Option (ConfigValue × List Char)) :
    Nat → Entries → List Char → Option (List Char)
  | 0, _, _ => none
  | fuel + 1, es, cs => do
    let ((path, v), rest) ← pair? value cs
    let es ← addValue v path es
    match skipSpace rest with
    | ',' :: rest => pairs value fuel es rest
    | '\x7d' :: rest => some rest
    | _ => none

/-- Reads a value; `depth` bounds its nesting. -/
def value? : Nat → List Char → Option (ConfigValue × List Char)
  | 0, _ => none
  | depth + 1, cs =>
    match cs with
    | '[' :: rest => (items (value? depth) (rest.length + 1) rest).map fun rest => (.sequence, rest)
    | '\x7b' :: rest =>
      match skipSpace rest with
      | '\x7d' :: rest => some (.map, rest)
      | rest => (pairs (value? depth) (rest.length + 1) [] rest).map fun rest => (.map, rest)
    | 't' :: 'r' :: 'u' :: 'e' :: rest => some (.bool true, rest)
    | 'f' :: 'a' :: 'l' :: 's' :: 'e' :: rest => some (.bool false, rest)
    | c :: _ =>
      if c = '"' ∨ c = '\'' then (text? cs).map fun (s, rest) => (.text (String.ofList s), rest)
      else number? cs
    | [] => none

/-! ## Documents -/

/-- The text after the end of a statement: blanks, a comment, and the line end. -/
def statementEnd? (cs : List Char) : Option (List Char) :=
  match skipComment (skipSpace cs) with
  | [] => some []
  | rest => lineEnd? rest

/-- Reads the header of a table. Gives the path, and whether the table is one of a list. -/
def header? (cs : List Char) : Option ((List String × Bool) × List Char) :=
  match cs with
  | '[' :: '[' :: rest => do
    let (path, rest) ← keyPath? (rest.length + 1) rest
    match rest with
    | ']' :: ']' :: rest => return ((path, true), rest)
    | _ => none
  | '[' :: rest => do
    let (path, rest) ← keyPath? (rest.length + 1) rest
    match rest with
    | ']' :: rest => return ((path, false), rest)
    | _ => none
  | _ => none

/-- Carries out a header. -/
def openAt (path : List String) (listed : Bool) (es : Entries) : Option Entries :=
  match path.getLast? with
  | some k =>
    if depthLimit < path.length then none
    else changeAt (if listed then openListed k else openTable k) path.dropLast es
  | none => none

/-- Reads the statements of a document; `here` is the path of the table that is open, and `fuel`
bounds their number. -/
def statements : Nat → List String → Entries → List Char → Option Entries
  | 0, _, es, _ => some es
  | fuel + 1, here, es, cs =>
    match skipLines (cs.length + 1) cs with
    | [] => some es
    | '[' :: rest => do
      let ((path, listed), rest) ← header? ('[' :: rest)
      let es ← openAt path listed es
      statements fuel path es (← statementEnd? rest)
    | cs => do
      let ((path, v), rest) ← pair? (value? (depthLimit + 1)) cs
      let es ← changeAt (addValue v path) here es
      statements fuel here es (← statementEnd? rest)

/-- The value that stands for an item. -/
def Item.value : Item → ConfigValue
  | .leaf v => v
  | .table .. => .map
  | .tables _ => .sequence

/-- Reads a document. A mark of the byte order in front of it is passed over. -/
def parse? (s : String) : Option (List (String × ConfigValue)) :=
  let cs := match s.toList with
    | c :: rest => if c.toNat = 0xFEFF then rest else c :: rest
    | [] => []
  (statements (cs.length + 1) [] [] cs).map fun es => es.map fun e => (e.1, e.2.value)

end Toml

end DirectChat
