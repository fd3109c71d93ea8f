import Std.Time.Format
import OwnershipRegistry.Audit
import OwnershipRegistry.Yaml.Document

/-! # The audit program

Reads the settings from the environment and the documents from files, prints the report of an
audit, and writes what was logged to the standard error. -/

namespace OwnershipRegistry

/-- The directory of the documents that are read when nothing is said. -/
def standardDirectory : String := "config"

/-- What the program is called with. -/
structure Options where
  manifest : Option String := none
  security : Option String := none

/-- Read the options. -/
def Options.parse (options : Options) : List String → Except String Options
  | [] => .ok options
  | "--manifest" :: path :: rest => Options.parse { options with manifest := some path } rest
  | "--security-config" :: path :: rest => Options.parse { options with security := some path } rest
  | word :: _ => .error ("unrecognized arguments: " ++ word)

/-- The variables that decide the settings. -/
def settingNames : List String :=
  ["WORLD_PROJECT_NAME", "WORLD_VERSION", "WORLD_SECURITY_CONFIG", "WORLD_MANIFEST",
    "WORLD_DEFAULT_NAMESPACE", "WORLD_LOG_LEVEL", "WORLD_PROMETHEUS_ENABLED", "WORLD_ERROR_BUFFER_SIZE"]

/-- The variables that are set. -/
def readEnvironment : IO (List (String × String)) :=
  settingNames.filterMapM fun name => do
    return (← IO.getEnv name).map fun text => (name, text)

/-- What is read at a path, if there is anything. -/
def readDocument (path : String) : IO (Option Contents) := do
  try
    return some (Yaml.load (← IO.FS.readFile path))
  catch
    | .noFileOrDirectory .. => return none
    | .inappropriateType .. => return some (.error (.directory (Path.tidy path)))
    | error => throw error

/-- The time now, in universal time. -/
def readClock : IO String := do
  let now ← Std.Time.Timestamp.now
  return (Std.Time.DateTime.ofTimestampWithZone now Std.Time.TimeZone.UTC).format
    "uuuu-MM-dd'T'HH:mm:ss.SSSSSSxxx"

/-- The documents at some paths, over those that need no file. -/
def readDocuments (paths : List String) : IO Documents :=
  paths.foldlM (fun documents path => do
    match ← readDocument path with
    | some contents => return documents.write path (some contents)
    | none => return documents) (Documents.standard standardDirectory [])

/-- Run an audit and print its outcome. -/
def report (options : Options) : IO UInt32 := do
  let settings := Settings.ofEnvironment standardDirectory (← readEnvironment)
  let named := match settings with
    | .ok s => [s.manifestPath, s.securityPath]
    | .error _ => []
  let documents ← readDocuments (named ++ options.manifest.toList ++ options.security.toList)
  match audit settings documents ⟨options.manifest, options.security⟩ with
  | .error failure =>
    IO.eprintln failure.message
    return 1
  | .ok (report, records) =>
    let time ← readClock
    for record in records do
      match record.line time with
      | .ok line => IO.eprintln line
      | .error failure => IO.eprintln failure.message
    match Json.indented 0 (.ofFields (report.fields (some time))) with
    | .ok text =>
      IO.println text
      return 0
    | .error failure =>
      IO.eprintln failure.message
      return 1

end OwnershipRegistry

/-- The program. -/
def main (arguments : List String) : IO UInt32 :=
  match OwnershipRegistry.Options.parse {} arguments with
  | .ok options => OwnershipRegistry.report options
  | .error message => do
    IO.eprintln message
    return 2
