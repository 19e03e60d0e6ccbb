/-!
# The log

Lines that tell a person what the indexer does.
-/

namespace TaxLedger

inductive LogLevel where
  | info
  | warn
  | error
  deriving DecidableEq, Repr, Inhabited

def LogLevel.word : LogLevel → String
  | .info => "INFO"
  | .warn => "WARN"
  | .error => "ERROR"

structure LogLine where
  level : LogLevel
  text : String
  deriving DecidableEq, Repr, Inhabited

def LogLine.render (l : LogLine) : String := l.level.word ++ " " ++ l.text

end TaxLedger
