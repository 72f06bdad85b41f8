import ThrowawayServer.Run.Config
import ThrowawayServer.Text.Utf8
import ThrowawayServer.Yaml.Shape

/-!
# Configuration files

A configuration file is a YAML mapping with the settings by name. Names that are not settings are
passed over; a setting may stand once.
-/

set_option autoImplicit false

namespace ThrowawayServer.RunConfig

open Yaml (Fault Node Document)

/-- A value read from a text, or the reason why it is refused. -/
def refine {α ε : Type} (message : ε → String) (read : String → Except ε α) (text : String) :
    Except Fault α :=
  (read text).mapError fun error => .refused (message error)

def readVersion (document : Document) (node : Node) : Except Fault Version := do
  refine VersionError.message Version.parse (← document.text node)

/-- A program by its exact name. -/
def readProgram (document : Document) (node : Node) : Except Fault Program := do
  let name ← document.name node
  match Program.ofName? name with
  | some program => return program
  | none => throw (.refused (Program.unknownMessage name))

def readIp (document : Document) (node : Node) : Except Fault IpAddress := do
  match IpAddress.parse? (← document.text node) with
  | some ip => return ip
  | none => throw (.refused "invalid IP address syntax")

/-- The parts of a platform that are replaced. -/
def readOverride (document : Document) (node : Node) : Except Fault PlatformOverride := do
  let fields ← document.entries node
  let part (name : String) : Except Fault (Option String) :=
    Document.field fields name (document.optional document.text) none
  return {
    os := ← part "os"
    arch := ← part "arch"
    bits := ← part "bits"
    osVersion := ← part "os_version" }

/-- Variables by name; the last value of a name counts. -/
def readVariables (document : Document) (node : Node) : Except Fault Variables := do
  let entries ← document.entries node
  let bindings ← entries.mapM fun (name, value) => do return (name, ← document.text value)
  return Variables.putAll [] bindings

/-- A configuration that need not be fit to run. -/
def ofDocument (document : Document) : Except Fault RunConfig := do
  let fields ← document.entries document.root
  let plain : RunConfig :=
    { version := ← Document.required fields "version" (readVersion document) }
  let setting {α : Type} (name : String) (read : Node → Except Fault α) (default : α) :=
    Document.field fields name read default
  let text? := document.optional document.text
  let milliseconds (node : Node) : Except Fault UInt64 :=
    (document.number (UInt64.size - 1) node).map UInt64.ofNat
  return { plain with
    platform := ← setting "platform" (document.optional (readOverride document)) none
    program := ← setting "command" (readProgram document) plain.program
    bindIp := ← setting "bind_ip" (readIp document) plain.bindIp
    port := ← setting "port"
      (fun node => (document.number (UInt16.size - 1) node).map UInt16.ofNat) plain.port
    dbPath := ← setting "db_path" text? none
    extraArgs := ← setting "extra_args"
      (fun node => do (← document.items node).mapM document.text) []
    env := ← setting "env" (readVariables document) []
    startupTimeoutMs := ← setting "startup_timeout_ms" milliseconds plain.startupTimeoutMs
    stepTimeoutMs := ← setting "shutdown_step_timeout_ms" milliseconds plain.stepTimeoutMs
    baseUrl := ← setting "download_base_url" document.text plain.baseUrl
    artifactDir := ← setting "artifact_dir" text? none }

/-- The configuration that a YAML text holds, if it can be run. -/
def parse (text : String) : Except ConfigError RunConfig := do
  let config ← ((Document.parse text).bind ofDocument).mapError .unparsed
  config.validated

/-- The configuration in a file; `content` is what reading the file gave. -/
def ofFile (path : String) (content : Except OsError (List UInt8)) : Except ConfigError RunConfig :=
  match content with
  | .error error => .error (.unreadable path error)
  | .ok bytes =>
    match Text.decodeUtf8? bytes with
    | none => .error (.unreadable path .invalidUtf8)
    | some text => parse (String.ofList text)

end ThrowawayServer.RunConfig
