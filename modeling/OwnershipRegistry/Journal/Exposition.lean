import OwnershipRegistry.Journal.Metrics

/-! # The monitoring text

The mirror's series in the text format of a monitoring server. The format is assumed as it is
documented: a heading for each family, also for one without series, then one line for each
series, in the order of first use; backslashes, line breaks and double quotes are escaped in the
values of labels; counts are written as floating point numbers, and lines bear no times. -/

namespace OwnershipRegistry.Exposition

/-- A character of a label's value. -/
def labelChar (c : Char) : List Char :=
  if c == '\\' then ['\\', '\\']
  else if c == '\n' then ['\\', 'n']
  else if c == '"' then ['\\', '"']
  else [c]

/-- A label and its value. -/
def label (name value : String) : String :=
  name ++ "=\"" ++ String.ofList (value.toList.flatMap labelChar) ++ "\""

/-- One series: its labels and its count, written as a decimal fraction. -/
def series (family : String) (labels : List (String × String)) (count : Nat) : String :=
  family ++ "\x7b" ++ ",".intercalate (labels.map fun l => label l.1 l.2) ++ "\x7d "
    ++ Decimal.text (Binary64.ofInt count) ++ "\n"

/-- The heading of a family of counters. -/
def heading (family help : String) : String :=
  "# HELP " ++ family ++ " " ++ help ++ "\n# TYPE " ++ family ++ " counter\n"

/-- The family of decision counters. -/
def decisionsFamily : String := "world_registry_decisions_total"

/-- The family of denial counters. -/
def denialsFamily : String := "world_registry_denials_total"

/-- The whole text. -/
def text (m : Mirror) : String :=
  heading decisionsFamily "Count of access control decisions"
    ++ String.join (m.decisions.entries.map fun e =>
      series decisionsFamily [("flow", e.1.1), ("outcome", e.1.2)] e.2)
    ++ heading denialsFamily "Count of access control denials by error kind"
    ++ String.join (m.denials.entries.map fun e => series denialsFamily [("kind", e.1)] e.2)

end OwnershipRegistry.Exposition
