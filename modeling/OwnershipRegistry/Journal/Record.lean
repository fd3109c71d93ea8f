import OwnershipRegistry.Journal.Context
import OwnershipRegistry.Journal.Filling
import OwnershipRegistry.Journal.Level
import OwnershipRegistry.Json

/-! # Log records and log lines

A record carries a message, which is a text or a mapping, and the context and request of the
moment it was logged. Its line is one JSON object: base fields, then the context, then the
mapping's own entries, each overriding what came before; then the message and the account of a
failure. The message, its arguments and all fields are given as text of characters: a record that
holds any other text has no line. -/

namespace OwnershipRegistry

/-- One logged event. -/
structure LogRecord where
  level : Level
  logger : String
  message : Value
  arguments : List Value := []
  /-- The account of a failure that is logged along. -/
  trouble : Option String := none
  context : Context := .empty
  requestId : Value := .null

namespace LogRecord

/-- The text of the message with its arguments filled in. -/
def text (r : LogRecord) : Except Failure String := do
  Filling.fill (← r.message.written) r.arguments

/-- The fields that every line has. -/
def baseFields (r : LogRecord) (time : String) : List (Value × Value) :=
  [(.str "timestamp", .str time), (.str "level", .str r.level.word),
    (.str "logger", .str r.logger), (.str "request_id", r.requestId)]

/-- The context as entries. -/
def contextEntries (r : LogRecord) : List (Value × Value) :=
  r.context.entries.map fun e => (.str e.1, e.2)

/-- Entries with the text of the message. -/
def withText (r : LogRecord) (entries : List (Value × Value)) : Except Failure (List (Value × Value)) :=
  r.text.map fun text => Value.put entries (.str "message") (.str text)

/-- Entries with a message: the one they have, unless it counts as absent, or else the text. -/
def withMessage (r : LogRecord) (entries : List (Value × Value)) : Except Failure (List (Value × Value)) :=
  match Value.lookup (.str "message") entries with
  | some given => if given.isFalsy then r.withText entries else .ok entries
  | none => r.withText entries

/-- Entries with the account of a failure, if there is one. -/
def withAccount (r : LogRecord) (entries : List (Value × Value)) : List (Value × Value) :=
  match r.trouble with
  | some account => Value.put entries (.str "exc_info") (.str account)
  | none => entries

/-- The entries of a line, in order. -/
def payload (r : LogRecord) (time : String) : Except Failure (List (Value × Value)) :=
  let ambient := Value.putAll (r.baseFields time) r.contextEntries
  let entries := match r.message.followed with
    | .dict own => r.withMessage (Value.putAll ambient own)
    | _ => r.withText ambient
  entries.map r.withAccount

/-- The line of a record. -/
def line (r : LogRecord) (time : String) : Except Failure String := do
  Json.compact (.dict (← r.payload time))

/-- The logger above all others whose records are written out. -/
def root : String := "world_registry"

/-- Whether a record is written out at a threshold: it comes from the root logger or from one
below it, and its level reaches the threshold. -/
def isWritten (threshold : Level) (r : LogRecord) : Bool :=
  (r.logger = root || r.logger.startsWith (root ++ ".")) && threshold.threshold ≤ r.level.rank

/-- What a record says: its mapping, or its text. -/
def said (r : LogRecord) : Except Failure Value :=
  match r.message with
  | .dict own => .ok (.dict own)
  | _ => r.text.map .str

end LogRecord

end OwnershipRegistry
