import OwnershipRegistry.World.Application

/-! # The audit

A report on what applying the manifest would change, and on the known callers. Nothing is
applied. What is logged on the way is kept from the level up that the settings name. -/

namespace OwnershipRegistry

/-- The report of an audit. -/
structure AuditReport where
  project : String
  version : String
  manifestPath : String
  findings : List String
  plan : Plan

namespace AuditReport

/-- The fields of a report, made at a time if one is given. -/
def fields (r : AuditReport) (time : Option String) : Fields :=
  [("project", .str r.project), ("version", .str r.version)]
    ++ (match time with | some t => [("timestamp", .str t)] | none => [])
    ++ [("manifest", .str r.manifestPath),
      ("caller_findings", .list (r.findings.map .str)),
      ("plan", .ofFields r.plan.print.fields)]

end AuditReport

/-- Where an audit reads its documents, if not where the settings say. -/
structure AuditPaths where
  manifest : Option String
  security : Option String

/-- Run an audit: its report, and the records that were logged. -/
def audit (settings : Except Failure Settings) (documents : Documents) (paths : AuditPaths) :
    Except Failure (AuditReport × List LogRecord) := do
  let s ← settings
  let level ← Level.ofSetting s.logLevel
  let manifestPath := paths.manifest.getD s.manifestPath
  let w ← World.create (.fresh false) settings s.defaultNamespace (paths.security.getD s.securityPath) documents
  let m ← Manifest.load settings documents (some manifestPath)
  let (plan, after) := World.plan m w
  let plan ← plan
  pure (⟨s.projectName, s.version, Path.tidy manifestPath, w.core.policy.directory.findings, plan⟩,
    after.journal.log.filter (·.isWritten level))

end OwnershipRegistry
