import OwnershipRegistry.Schema.Reading

/-! # Settings

What the environment of a process decides: where its documents are, which namespace bare tags
belong to, how much is logged and counted. -/

namespace OwnershipRegistry

/-- The settings of a process. -/
structure Settings where
  projectName : String := "World Registry"
  version : String := "0.1.0"
  securityPath : String
  manifestPath : String
  defaultNamespace : String := "dojo"
  logLevel : String := "INFO"
  mirrored : Bool := false
  bufferSize : Int := 200
deriving DecidableEq

namespace Settings

open Schema

/-- The settings when nothing is said, with the default documents in a directory. -/
def standard (directory : String) : Settings :=
  { securityPath := directory ++ "/security.yaml", manifestPath := directory ++ "/world.yaml" }

/-- Read settings out of a record. -/
def read (directory : String) (entries : List (Value × Value)) : Reading Settings :=
  let s := standard directory
  Settings.mk <$> defaulted entries "project_name" s.projectName text
    <*> defaulted entries "version" s.version text
    <*> defaulted entries "security_config_path" s.securityPath text
    <*> defaulted entries "manifest_path" s.manifestPath text
    <*> defaulted entries "default_namespace" s.defaultNamespace text
    <*> defaulted entries "log_level" s.logLevel text
    <*> defaulted entries "prometheus_enabled" s.mirrored truth
    <*> defaulted entries "error_buffer_size" s.bufferSize positive

/-- The settings as a record. -/
def toValue (s : Settings) : Value :=
  .ofFields [("project_name", .str s.projectName), ("version", .str s.version),
    ("security_config_path", .str s.securityPath), ("manifest_path", .str s.manifestPath),
    ("default_namespace", .str s.defaultNamespace), ("log_level", .str s.logLevel),
    ("prometheus_enabled", .bool s.mirrored), ("error_buffer_size", .int s.bufferSize)]

/-- A switch in the environment: on for four words in any case, off for all others. -/
def switch (value : Option String) (fallback : Bool) : Bool :=
  match value with
  | some s => ["1", "true", "yes", "on"].contains (Text.asciiLower s)
  | none => fallback

/-- An integer in the environment; an empty one counts as unset. -/
def count (value : Option String) (fallback : Int) : Except Failure Int :=
  match value with
  | none => .ok fallback
  | some s =>
    if s = "" then .ok fallback
    else match Numeral.read .decimal s with
      | .ok n => .ok n
      | .error e => .error (.badNumeral e)

/-- The settings that an environment makes, with the default documents in a directory. -/
def ofEnvironment (directory : String) (environment : List (String × String)) : Except Failure Settings := do
  let s := standard directory
  let get (name fallback : String) : String := (environment.lookup name).getD fallback
  let size ← count (environment.lookup "WORLD_ERROR_BUFFER_SIZE") s.bufferSize
  if size ≤ 0 then throw (.invalidDocument [⟨[.field "error_buffer_size"], .tooSmall⟩])
  pure {
    projectName := get "WORLD_PROJECT_NAME" s.projectName
    version := get "WORLD_VERSION" s.version
    securityPath := get "WORLD_SECURITY_CONFIG" s.securityPath
    manifestPath := get "WORLD_MANIFEST" s.manifestPath
    defaultNamespace := get "WORLD_DEFAULT_NAMESPACE" s.defaultNamespace
    logLevel := get "WORLD_LOG_LEVEL" s.logLevel
    mirrored := switch (environment.lookup "WORLD_PROMETHEUS_ENABLED") s.mirrored
    bufferSize := size }

end Settings

end OwnershipRegistry
