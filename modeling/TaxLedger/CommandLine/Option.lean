import TaxLedger.Time.Parse

/-!
# Options of a command

The words after the name of a command are read from left to right. An option that waits for its value
takes the next word, unless that looks like an option itself, and the value is checked when the next
option begins or the words end.
-/

namespace TaxLedger.CommandLine

inductive Topic where
  | program
  | index
  | history
  | help
  deriving DecidableEq, Repr, Inhabited

/-- Why words do not lead to a command that can be run. -/
inductive Halt where
  /-- Help was asked for. -/
  | help (topic : Topic)
  | version
  /-- Nothing was asked for. -/
  | nothing
  | missingCommand
  | missingOptions (names : List String)
  | unknownArgument (word : String)
  | unknownCommand (word : String)
  | missingValue (option : String)
  | badValue (option value : String)
  | repeated (option : String)
  /-- A value for something that takes none. -/
  | surplusValue (option value : String)
  deriving DecidableEq, Repr, Inhabited

inductive ValueKind where
  | text
  | path
  | time
  deriving DecidableEq, Repr, Inhabited

structure ValueOption where
  name : String
  short : Option Char := none
  kind : ValueKind
  isRequired : Bool := false
  about : String := ""
  deriving DecidableEq, Repr, Inhabited

/-- Whether a value is one that the option takes. A path is not empty, and a time can be read. -/
def ValueOption.check (o : ValueOption) (value : String) : Except Halt Unit :=
  match o.kind with
  | .text => .ok ()
  | .path => if value = "" then .error (.missingValue o.name) else .ok ()
  | .time =>
    if (Timestamp.parse? value).isSome then .ok () else .error (.badValue o.name value)

/-- What has been read so far: values that are settled, and the option last named with its value, if
that has come. -/
structure Given where
  settled : List (String × String) := []
  open? : Option (ValueOption × Option String) := none
  deriving Repr, Inhabited

namespace Given

/-- Settles the option last named. It must have a value, it must be named for the first time, and the
value must be one that it takes, in this order. -/
def settle (g : Given) : Except Halt Given :=
  match g.open? with
  | none => .ok g
  | some (o, none) => .error (.missingValue o.name)
  | some (o, some value) =>
    if (g.settled.lookup o.name).isSome then .error (.repeated o.name)
    else (o.check value).map fun () => ⟨g.settled ++ [(o.name, value)], none⟩

def waiting? (g : Given) : Option ValueOption :=
  match g.open? with
  | some (o, none) => some o
  | _ => none

def begin (g : Given) (o : ValueOption) (value : Option String) : Except Halt Given := do
  let g ← g.settle
  let g : Given := { g with open? := some (o, value) }
  if value.isSome then g.settle else .ok g

def value? (g : Given) (name : String) : Option String := g.settled.lookup name

end Given

inductive Word where
  /-- Two dashes: no option comes behind them. -/
  | divider
  | long (name : String) (value : Option String)
  | short (letter : Char) (rest : List Char)
  | plain
  deriving DecidableEq, Repr, Inhabited

/-- How a word looks. A single dash is a plain word. -/
def Word.ofString (word : String) : Word :=
  match word.toList with
  | ['-', '-'] => .divider
  | '-' :: '-' :: cs =>
    let value := match cs.dropWhile (· != '=') with
      | [] => none
      | _ :: value => some (String.ofList value)
    .long (String.ofList (cs.takeWhile (· != '='))) value
  | '-' :: c :: cs => .short c cs
  | _ => .plain

def attachedValue? : List Char → Option String
  | [] => none
  | '=' :: value => some (String.ofList value)
  | value => some (String.ofList value)

structure Grammar where
  topic : Topic
  options : List ValueOption := []
  /-- Whether one can ask for the version. -/
  hasVersion : Bool := false
  /-- The names of the commands below this one. -/
  commands : List String := []
  deriving Repr, Inhabited

namespace Grammar

variable (g : Grammar)

/-- What a name or a letter asks for instead of a run. -/
def question? (name : String) (letter : Option Char) : Option Halt :=
  if name = "help" || letter = some 'h' then some (.help g.topic)
  else if g.hasVersion && (name = "version" || letter = some 'V') then some .version
  else none

def readLong (name : String) (value : Option String) (given : Given) : Except Halt Given :=
  match g.options.find? (·.name == name), g.question? name none, value with
  | some o, _, _ => given.begin o value
  | none, some _, some value => .error (.surplusValue ("--" ++ name) value)
  | none, some halt, none => do
    let _ ← given.settle
    .error halt
  | none, none, _ => .error (.unknownArgument ("--" ++ name))

def readShort (letter : Char) (rest : List Char) (given : Given) : Except Halt Given :=
  match g.options.find? (·.short == some letter), g.question? "" (some letter) with
  | some o, _ => given.begin o (attachedValue? rest)
  | none, some halt => do
    let _ ← given.settle
    .error halt
  | none, none => .error (.unknownArgument (String.ofList ['-', letter]))

def stray (word : String) : Halt :=
  if g.commands.isEmpty then .unknownArgument word else .unknownCommand word

def readBehindDivider (given : Given) :
    List String → Except Halt (Given × Option (String × List String))
  | [] => .ok (given, none)
  | word :: _ => .error (if g.commands.contains word then .unknownArgument word else g.stray word)

/-- Reads words up to their end, or up to the name of a command with the words behind it. -/
def read (given : Given) : List String → Except Halt (Given × Option (String × List String))
  | [] => .ok (given, none)
  | word :: rest =>
    if given.waiting?.isNone && g.commands.contains word then .ok (given, some (word, rest))
    else
      match Word.ofString word with
      | .divider => g.readBehindDivider given rest
      | .long name value => do read (← g.readLong name value given) rest
      | .short letter letters => do read (← g.readShort letter letters given) rest
      | .plain =>
        match given.waiting? with
        | some o => read { given with open? := some (o, some word) } rest
        | none => .error (g.stray word)

def readAll (words : List String) : Except Halt Given := do
  let (given, _) ← g.read {} words
  given.settle

end Grammar

end TaxLedger.CommandLine
