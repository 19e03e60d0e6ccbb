import TaxLedger.Config.Setting
import TaxLedger.Power
import TaxLedger.Time.Basic

/-!
# TOML

Reading a TOML document of version 0.5 into a table of settings. Dates and times are kept as texts.
-/

namespace TaxLedger.Config.Toml

abbrev Rest := List Char

/-! ### Blanks and comments -/

def isBlank (c : Char) : Bool := c == ' ' || c == '\t'

def skipBlanks (cs : Rest) : Rest := cs.dropWhile isBlank

def isControl (c : Char) : Bool := (c.toNat < 0x20 && c != '\t') || c.toNat == 0x7f

/-- Skips blanks, line breaks and comments; `comment` tells whether one is open. -/
def skipVoid : (comment : Bool) → Rest → Option Rest
  | _, [] => some []
  | comment, c :: cs =>
    if c = '\n' then skipVoid false cs
    else if c = '\r' then
      match cs with
      | '\n' :: _ => skipVoid false cs
      | _ => none
    else if comment then if isControl c && c.toNat != 0x7f then none else skipVoid true cs
    else if c = '#' then skipVoid true cs
    else if isBlank c then skipVoid false cs
    else some (c :: cs)

/-- The end of a line: blanks, a comment, and then a line break or nothing. -/
def endOfLine? (cs : Rest) : Option Rest :=
  match skipBlanks cs with
  | [] => some []
  | '\n' :: rest => some rest
  | '\r' :: '\n' :: rest => some rest
  | '#' :: rest => skipVoid true rest
  | _ => none

/-! ### Texts -/

def codePoint? (count : Nat) (cs : Rest) : Option (Char × Rest) := do
  let digits := cs.take count
  if digits.length < count then none
  let values ← digits.mapM Text.hexValue?
  let n := values.foldl (fun n d => 16 * n + d) 0
  if h : n.isValidChar then some (Char.ofNatAux n h, cs.drop count) else none

def escape? : Rest → Option (Char × Rest)
  | 'b' :: cs => some ('\x08', cs)
  | 't' :: cs => some ('\t', cs)
  | 'n' :: cs => some ('\n', cs)
  | 'f' :: cs => some ('\x0c', cs)
  | 'r' :: cs => some ('\r', cs)
  | '"' :: cs => some ('"', cs)
  | '\\' :: cs => some ('\\', cs)
  | 'u' :: cs => codePoint? 4 cs
  | 'U' :: cs => codePoint? 8 cs
  | _ => none

/-- Blanks and line breaks behind a backslash at the end of a line. -/
def foldedLine? (cs : Rest) : Option Rest :=
  match skipBlanks cs with
  | '\n' :: rest => some (rest.dropWhile fun c => isBlank c || c == '\n' || c == '\r')
  | '\r' :: '\n' :: rest => some (rest.dropWhile fun c => isBlank c || c == '\n' || c == '\r')
  | _ => none

/-- The rest of a text up to its closing quotes. A literal one has no escapes, and only one of several
lines has line breaks. -/
def textBody? (literal lines : Bool) : (fuel : Nat) → (done : List Char) → Rest →
    Option (String × Rest)
  | 0, _, _ => none
  | _ + 1, _, [] => none
  | fuel + 1, done, c :: cs =>
    let quote := if literal then '\x27' else '"'
    if c = quote then
      if !lines then some (String.ofList done.reverse, cs)
      else
        match cs with
        | a :: b :: rest =>
          if a = quote && b = quote then some (String.ofList done.reverse, rest)
          else textBody? literal lines fuel (c :: done) cs
        | _ => none
    else if c = '\\' && !literal then
      match (if lines then foldedLine? cs else none) with
      | some rest => textBody? literal lines fuel done rest
      | none =>
        match escape? cs with
        | some (e, rest) => textBody? literal lines fuel (e :: done) rest
        | none => none
    else if c = '\n' then if lines then textBody? literal lines fuel (c :: done) cs else none
    else if c = '\r' then
      match cs with
      | '\n' :: _ => if lines then textBody? literal lines fuel done cs else none
      | _ => none
    else if isControl c then none
    else textBody? literal lines fuel (c :: done) cs

/-- A line break right behind the opening quotes counts for nothing. -/
def dropFirstBreak : Rest → Rest
  | '\n' :: cs => cs
  | '\r' :: '\n' :: cs => cs
  | cs => cs

def quoted? (cs : Rest) : Option (String × Rest) :=
  match cs with
  | '"' :: rest => textBody? false false (rest.length + 1) [] rest
  | '\x27' :: rest => textBody? true false (rest.length + 1) [] rest
  | _ => none

def text? (cs : Rest) : Option (String × Rest) :=
  match cs with
  | '"' :: '"' :: '"' :: rest => textBody? false true (rest.length + 1) [] (dropFirstBreak rest)
  | '\x27' :: '\x27' :: '\x27' :: rest =>
    textBody? true true (rest.length + 1) [] (dropFirstBreak rest)
  | cs => quoted? cs

/-! ### Keys -/

def isBareChar (c : Char) : Bool :=
  ('a' ≤ c && c ≤ 'z') || ('A' ≤ c && c ≤ 'Z') || Text.isDigit c || c == '_' || c == '-'

def name? (cs : Rest) : Option (String × Rest) :=
  match quoted? cs with
  | some r => some r
  | none =>
    let bare := cs.takeWhile isBareChar
    if bare.isEmpty then none else some (String.ofList bare, cs.dropWhile isBareChar)

def names? : (fuel : Nat) → Rest → Option (List String × Rest)
  | 0, _ => none
  | fuel + 1, cs => do
    let (first, rest) ← name? (skipBlanks cs)
    match skipBlanks rest with
    | '.' :: rest => (names? fuel rest).map fun (more, rest) => (first :: more, rest)
    | rest => some ([first], rest)

def key? (cs : Rest) : Option (List String × Rest) := names? (cs.length + 1) cs

/-! ### Numbers, dates and times -/

/-- The digits without the underscores, each of which has to stand between two digits. -/
def digits? (isDigit : Char → Bool) (cs : List Char) : Option (List Char) :=
  let parts := split cs
  if parts.all fun part => !part.isEmpty && part.all isDigit then some parts.flatten else none
where
  split : List Char → List (List Char)
    | [] => [[]]
    | '_' :: cs => [] :: split cs
    | c :: cs =>
      match split cs with
      | part :: parts => (c :: part) :: parts
      | [] => [[c]]

/-- A whole number in base ten without needless zeros at its front. -/
def wholeDigits? (cs : List Char) : Option (List Char) :=
  (digits? Text.isDigit cs).filter fun digits => digits.length == 1 || digits.head? != some '0'

def splitSign : List Char → Bool × List Char
  | '-' :: cs => (true, cs)
  | '+' :: cs => (false, cs)
  | cs => (false, cs)

/-- A number in the base that its first characters tell. -/
def basedInt? (base : Nat) (cs : List Char) : Option Int := do
  let isDigit (c : Char) : Bool := (Text.hexValue? c).any (· < base)
  let digits ← digits? isDigit cs
  let n := digits.foldl (fun n c => base * n + (Text.hexValue? c).getD 0) 0
  if isInt64 n then some (n : Int) else none

def int? (cs : List Char) : Option Int :=
  match cs with
  | '0' :: 'x' :: digits => basedInt? 16 digits
  | '0' :: 'o' :: digits => basedInt? 8 digits
  | '0' :: 'b' :: digits => basedInt? 2 digits
  | cs =>
    let (negative, magnitude) := splitSign cs
    match wholeDigits? magnitude with
    | none => none
    | some digits =>
      let n : Int := Text.ofDigitsFrom 0 digits
      let n := if negative then -n else n
      if isInt64 n then some n else none

/-- A float: a whole number with a fraction, an exponent or both, or one of the words for what is not
finite. -/
def float? (cs : List Char) : Option Binary64 :=
  let (negative, magnitude) := splitSign cs
  match String.ofList magnitude with
  | "inf" => some (.infinite negative)
  | "nan" => some .nan
  | _ =>
    let isMark (c : Char) : Bool := c == 'e' || c == 'E'
    let mantissa := magnitude.takeWhile fun c => !isMark c
    let whole := mantissa.takeWhile (· != '.')
    do
      let whole ← wholeDigits? whole
      let behind ← match mantissa.dropWhile (· != '.') with
        | [] => some []
        | _ :: digits => digits? Text.isDigit digits
      let exponent ← match magnitude.dropWhile fun c => !isMark c with
        | [] => some 0
        | _ :: rest =>
          let (down, digits) := splitSign rest
          (digits? Text.isDigit digits).map fun ds =>
            let n : Int := Text.ofDigitsFrom 0 ds
            if down then -n else n
      return Binary64.ofScientific negative (Text.ofDigitsFrom 0 (whole ++ behind))
        (exponent - behind.length)

def twoDigits? (lo hi : Nat) : Rest → Option (Nat × Rest)
  | a :: b :: cs =>
    if Text.isDigit a && Text.isDigit b then
      let n := 10 * Text.digitValue a + Text.digitValue b
      if lo ≤ n && n ≤ hi then some (n, cs) else none
    else none
  | _ => none

def date? (cs : Rest) : Option (String × Rest) := do
  let (_, r) ← twoDigits? 0 99 cs
  let (_, r) ← twoDigits? 0 99 r
  let r ← after? '-' r
  let (_, r) ← twoDigits? 1 12 r
  let r ← after? '-' r
  let (_, r) ← twoDigits? 1 31 r
  return (String.ofList (cs.take 10), r)
where
  after? (c : Char) : Rest → Option Rest
    | x :: cs => if x = c then some cs else none
    | [] => none

/-- A time of day: hours, minutes, seconds and an optional fraction, without zeros at its end. -/
def clock? (cs : Rest) : Option (String × Rest) := do
  let (_, r) ← twoDigits? 0 24 cs
  let r ← date?.after? ':' r
  let (_, r) ← twoDigits? 0 59 r
  let r ← date?.after? ':' r
  let (_, r) ← twoDigits? 0 60 r
  let whole := String.ofList (cs.take 8)
  match r with
  | '.' :: rest =>
    let digits := rest.takeWhile Text.isDigit
    if digits.isEmpty then none
    else
      let shown := ((digits.take 9).reverse.dropWhile (· == '0')).reverse
      some (if shown.isEmpty then whole else whole ++ "." ++ String.ofList shown,
        rest.dropWhile Text.isDigit)
  | r => some (whole, r)

def offset? (cs : Rest) : Option String :=
  match cs with
  | [] => some ""
  | [c] => if c = 'Z' || c = 'z' then some "Z" else none
  | sign :: rest =>
    if sign = '+' || sign = '-' then do
      let (_, r) ← twoDigits? 0 99 rest
      let r ← date?.after? ':' r
      let (_, r) ← twoDigits? 0 99 r
      if r.isEmpty then some (String.ofList cs) else none
    else none

/-- A date, a time of day, or a date and a time with an optional offset. -/
def moment? (cs : List Char) : Option String :=
  match date? cs with
  | none =>
    match clock? cs with
    | some (clock, []) => some clock
    | _ => none
  | some (day, []) => some day
  | some (day, mark :: rest) =>
    if mark = 'T' || mark = 't' || mark = ' ' then do
      let (clock, rest) ← clock? rest
      let offset ← offset? rest
      return day ++ "T" ++ clock ++ offset
    else none

def isScalarChar (c : Char) : Bool := isBareChar c || c == '+' || c == '.' || c == ':'

/-- The characters of a scalar without quotes. A blank between a date and a time belongs to it. -/
def scalarChars (cs : Rest) : List Char × Rest :=
  let token := cs.takeWhile isScalarChar
  match (date? token), cs.dropWhile isScalarChar with
  | some (_, []), ' ' :: d :: rest =>
    if Text.isDigit d then
      (token ++ ' ' :: (d :: rest).takeWhile isScalarChar, (d :: rest).dropWhile isScalarChar)
    else (token, ' ' :: d :: rest)
  | _, rest => (token, rest)

def scalar? (cs : Rest) : Option (Setting × Rest) :=
  let (token, rest) := scalarChars cs
  let value : Option Setting :=
    match String.ofList token with
    | "true" => some (.bool true)
    | "false" => some (.bool false)
    | _ =>
      match int? token with
      | some n => some (.int n)
      | none =>
        match float? token with
        | some x => some (.float x)
        | none => (moment? token).map .text
  value.map fun v => (v, rest)

/-! ### Tables -/

inductive Origin where
  /-- By the header of a table within it. -/
  | implied
  /-- By a header of its own. -/
  | header
  /-- By a key with several names. -/
  | dotted
  deriving DecidableEq, Repr, Inhabited

inductive Node where
  | value (v : Setting)
  | table (origin : Origin) (entries : List (String × Node))
  | tables (items : List (List (String × Node)))
  deriving Inhabited

def alter (name : String) (f : Option Node → Option Node) :
    List (String × Node) → Option (List (String × Node))
  | [] => (f none).map fun node => [(name, node)]
  | (k, node) :: rest =>
    if k = name then (f (some node)).map fun node => (k, node) :: rest
    else (alter name f rest).map fun rest => (k, node) :: rest

def alterLast (f : List (String × Node) → Option (List (String × Node))) :
    List (List (String × Node)) → Option (List (List (String × Node)))
  | [] => none
  | [last] => (f last).map fun last => [last]
  | item :: rest => (alterLast f rest).map fun rest => item :: rest

/-- Changes the entries of the table that the names of a header lead to; tables on the way are made
where they are missing. -/
def within (f : List (String × Node) → Option (List (String × Node))) :
    List String → List (String × Node) → Option (List (String × Node))
  | [], entries => f entries
  | name :: rest, entries =>
    alter name (fun
      | none => (within f rest []).map (.table .implied)
      | some (.table origin entries) => (within f rest entries).map (.table origin)
      | some (.tables items) => (alterLast (within f rest) items).map .tables
      | some (.value _) => none) entries

def openTable (name : String) (entries : List (String × Node)) : Option (List (String × Node)) :=
  alter name (fun
    | none => some (.table .header [])
    | some (.table .implied entries) => some (.table .header entries)
    | _ => none) entries

def appendTable (name : String) (entries : List (String × Node)) : Option (List (String × Node)) :=
  alter name (fun
    | none => some (.tables [[]])
    | some (.tables items) => some (.tables (items ++ [[]]))
    | _ => none) entries

def put (v : Setting) : List String → List (String × Node) → Option (List (String × Node))
  | [], _ => none
  | [name], entries =>
    alter name (fun
      | none => some (.value v)
      | some _ => none) entries
  | name :: rest, entries =>
    alter name (fun
      | none => (put v rest []).map (.table .dotted)
      | some (.table .dotted entries) => (put v rest entries).map (.table .dotted)
      | _ => none) entries

mutual

def Node.toSetting : Node → Setting
  | .value v => v
  | .table _ entries => .table (toEntries entries)
  | .tables items => .list (toTables items)

def toEntries : List (String × Node) → List (String × Setting)
  | [] => []
  | (k, node) :: rest => (k, node.toSetting) :: toEntries rest

def toTables : List (List (String × Node)) → List Setting
  | [] => []
  | entries :: rest => .table (toEntries entries) :: toTables rest

end

/-! ### Values -/

mutual

def value? : (fuel : Nat) → Rest → Option (Setting × Rest)
  | 0, _ => none
  | fuel + 1, cs =>
    match cs with
    | '[' :: rest => (items? fuel rest).map fun (items, rest) => (.list items, rest)
    | '\x7b' :: rest =>
      match skipBlanks rest with
      | '\x7d' :: rest => some (.table [], rest)
      | rest => (members? fuel [] rest).map fun (entries, rest) => (.table (toEntries entries), rest)
    | '"' :: _ => (text? cs).map fun (s, rest) => (.text s, rest)
    | '\x27' :: _ => (text? cs).map fun (s, rest) => (.text s, rest)
    | cs => scalar? cs

/-- The items of a list up to its closing bracket; a comma may stand behind the last one. -/
def items? : (fuel : Nat) → Rest → Option (List Setting × Rest)
  | 0, _ => none
  | fuel + 1, cs =>
    match skipVoid false cs with
    | none => none
    | some (']' :: rest) => some ([], rest)
    | some cs =>
      match value? fuel cs with
      | none => none
      | some (v, rest) =>
        match skipVoid false rest with
        | some (',' :: rest) => (items? fuel rest).map fun (vs, rest) => (v :: vs, rest)
        | some (']' :: rest) => some ([v], rest)
        | _ => none

/-- The members of a table in one line up to its closing brace; there is at least one. -/
def members? : (fuel : Nat) → List (String × Node) → Rest →
    Option (List (String × Node) × Rest)
  | 0, _, _ => none
  | fuel + 1, entries, cs =>
    match key? cs with
    | some (names, '=' :: rest) =>
      match value? fuel (skipBlanks rest) with
      | none => none
      | some (v, rest) =>
        match put v names entries with
        | none => none
        | some entries =>
          match skipBlanks rest with
          | ',' :: rest => members? fuel entries rest
          | '\x7d' :: rest => some (entries, rest)
          | _ => none
    | _ => none

end

/-! ### Documents -/

def splitLast : List String → Option (List String × String)
  | [] => none
  | [name] => some ([], name)
  | name :: rest => (splitLast rest).map fun (init, last) => (name :: init, last)

/-- The lines of a document from a header or a key on. `current` leads to the table that keys belong
to. -/
def lines? : (fuel : Nat) → (current : List String) → List (String × Node) → Rest →
    Option (List (String × Node))
  | 0, _, _, _ => none
  | fuel + 1, current, root, cs => do
    match ← skipVoid false cs with
    | [] => some root
    | '[' :: '[' :: rest =>
      let (names, rest) ← key? rest
      match rest with
      | ']' :: ']' :: rest =>
        let (init, last) ← splitLast names
        let root ← within (appendTable last) init root
        lines? fuel names root (← endOfLine? rest)
      | _ => none
    | '[' :: rest =>
      let (names, rest) ← key? rest
      match rest with
      | ']' :: rest =>
        let (init, last) ← splitLast names
        let root ← within (openTable last) init root
        lines? fuel names root (← endOfLine? rest)
      | _ => none
    | cs =>
      let (names, rest) ← key? cs
      match rest with
      | '=' :: rest =>
        let (v, rest) ← value? (rest.length + 1) (skipBlanks rest)
        let root ← within (put v names) current root
        lines? fuel current root (← endOfLine? rest)
      | _ => none

def parse? (s : String) : Option (List (String × Setting)) :=
  let cs := s.toList
  let cs := if cs.head? = some '\ufeff' then cs.tail else cs
  (lines? (cs.length + 1) [] [] cs).map toEntries

end TaxLedger.Config.Toml
