import OwnershipRegistry.Failure
import OwnershipRegistry.Text.Uppercase

/-! # Log levels -/

namespace OwnershipRegistry

/-- The severity of a log record, or the threshold of a logger. -/
inductive Level where
  | unset
  | debug
  | info
  | warning
  | error
  | critical
deriving DecidableEq

namespace Level

/-- The rank of a level. -/
def rank : Level → Nat
  | .unset => 0
  | .debug => 10
  | .info => 20
  | .warning => 30
  | .error => 40
  | .critical => 50

/-- The word of a level. -/
def word : Level → String
  | .unset => "NOTSET"
  | .debug => "DEBUG"
  | .info => "INFO"
  | .warning => "WARNING"
  | .error => "ERROR"
  | .critical => "CRITICAL"

/-- All names of levels; two levels have an older second name. -/
def names : List (String × Level) :=
  [("CRITICAL", .critical), ("FATAL", .critical), ("ERROR", .error), ("WARN", .warning),
    ("WARNING", .warning), ("INFO", .info), ("DEBUG", .debug), ("NOTSET", .unset)]

/-- The level that a name in uppercase stands for. -/
def ofName? (name : String) : Option Level := names.lookup name

/-- The level that a setting names, in any case. -/
def ofSetting (text : String) : Except Failure Level :=
  let name := Text.upper text
  match ofName? name with
  | some level => .ok level
  | none => .error (.unknownLevel name)

/-- The level after several settings, each of which has to name one; the last one holds. -/
def ofSettings : List String → Except Failure Level
  | [] => .ok .unset
  | [text] => ofSetting text
  | text :: rest => do
    discard (ofSetting text)
    ofSettings rest

/-- The rank that a logger with this threshold lets through: without one, that of warnings. -/
def threshold : Level → Nat
  | .unset => Level.warning.rank
  | level => level.rank

end Level

end OwnershipRegistry
