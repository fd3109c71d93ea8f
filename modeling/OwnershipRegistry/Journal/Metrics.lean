import OwnershipRegistry.Table
import OwnershipRegistry.Value

/-! # Decision counters

How often each flow was allowed or denied, for which kind of reason, and how many changes were
committed. A mirror counts decisions and denials a second time for monitoring.

The mirror stands for the counters of a monitoring library, of which this is assumed: a counter
has one series for each choice of values for its labels; a series is there from its first count
on and starts at zero; to count is to add one to the series of the given labels and to change no
other; and nothing that the registry does takes a count away. -/

namespace OwnershipRegistry

/-- The decisions of one flow. -/
structure Tally where
  allow : Nat := 0
  deny : Nat := 0
deriving DecidableEq

/-- Whether a flow was let through. -/
inductive Verdict where
  | allow
  | deny
deriving DecidableEq

/-- The word of a verdict. -/
def Verdict.word : Verdict → String
  | .allow => "allow"
  | .deny => "deny"

/-- One decision more. -/
def Tally.add (t : Tally) : Verdict → Tally
  | .allow => { t with allow := t.allow + 1 }
  | .deny => { t with deny := t.deny + 1 }

/-- The series of the monitoring mirror, in the order of their first count. -/
structure Mirror where
  decisions : Table (String × String) Nat
  denials : Table String Nat

/-- A mirror that has counted nothing. -/
def Mirror.empty : Mirror := ⟨.empty, .empty⟩

/-- The counters. -/
structure Metrics where
  mirrored : Bool
  decisions : Table String Tally
  denials : Table String Nat
  commits : Nat
  mirror : Mirror

namespace Metrics

/-- Fresh counters. -/
def fresh (mirrored : Bool) : Metrics := ⟨mirrored, .empty, .empty, 0, .empty⟩

/-- One count more under a key. -/
def increment {κ : Type} [DecidableEq κ] (t : Table κ Nat) (key : κ) : Table κ Nat :=
  t.put key ((t.get? key).getD 0 + 1)

/-- Count a denial kind, if one is given and not empty. -/
def countKind (t : Table String Nat) : Option String → Table String Nat
  | some kind => if kind = "" then t else increment t kind
  | none => t

/-- Count a decision. -/
def decide (m : Metrics) (flow : String) (verdict : Verdict) (kind : Option String) : Metrics :=
  { m with
    decisions := m.decisions.put flow (((m.decisions.get? flow).getD {}).add verdict)
    denials := countKind m.denials kind
    mirror :=
      if m.mirrored then
        ⟨increment m.mirror.decisions (flow, verdict.word), countKind m.mirror.denials kind⟩
      else m.mirror }

/-- Count `n` commits. -/
def commit (m : Metrics) (n : Nat) : Metrics := { m with commits := m.commits + n }

/-- Forget all counts but those of the mirror. -/
def reset (m : Metrics) : Metrics := { m with decisions := .empty, denials := .empty, commits := 0 }

/-- The number of allowed decisions. -/
def allowed (m : Metrics) : Nat := (m.decisions.values.map (·.allow)).foldl (· + ·) 0

/-- The number of denied decisions. -/
def denied (m : Metrics) : Nat := (m.decisions.values.map (·.deny)).foldl (· + ·) 0

/-- A table of counts as a mapping. -/
def countsValue (t : Table String Nat) : Value :=
  .ofFields (t.entries.map fun e => (e.1, .int e.2))

/-- The counters as a record. -/
def snapshot (m : Metrics) : Fields :=
  [("total_decisions", .int (m.allowed + m.denied)),
    ("allowed", .int m.allowed),
    ("denied", .int m.denied),
    ("commits", .int m.commits),
    ("decisions", .ofFields (m.decisions.entries.map fun e =>
      (e.1, .ofFields [("allow", .int e.2.allow), ("deny", .int e.2.deny)]))),
    ("denials", countsValue m.denials)]

end Metrics

end OwnershipRegistry
