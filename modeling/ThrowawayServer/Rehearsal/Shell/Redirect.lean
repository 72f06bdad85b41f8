import ThrowawayServer.Rehearsal.Shell.State

/-!
# Redirections

Opening the files that a command writes to or reads from. A fault is the text of a complaint.
-/

set_option autoImplicit false

namespace ThrowawayServer.Shell

/-- A shell and the files that it works on. -/
structure Setting where
  shell : State
  files : FileTree

/-- Where writing to a path leads, and the files with an empty one there unless it is kept. -/
def openSink (setting : Setting) (path : String) (appends : Bool) :
    Except String (Option Sink × FileTree) :=
  let { shell, files } := setting
  match path with
  | "/dev/stdout" => .ok (shell.sinks.lookup 1, files)
  | "/dev/stderr" => .ok (shell.sinks.lookup 2, files)
  | _ =>
    match files.locate shell.directory path with
    | .error .notADirectory => .error s!"cannot create {path}: Not a directory"
    | .error _ => .error s!"cannot create {path}: Directory nonexistent"
    | .ok names =>
      match files.entryAt names with
      | some .directory => .error s!"cannot create {path}: Is a directory"
      | some .sink => .ok (some .nowhere, files)
      | some (.file content isExecutable) =>
        let content := if appends then content else []
        .ok (some (.file names), files.replace names (.file content isExecutable))
      | some (.utility _) | some (.link _) => .error s!"cannot create {path}: Permission denied"
      | none => .ok (some (.file names), files.replace names (.file [] false))

/-- The bytes that reading a path gives. -/
def openInput (setting : Setting) (path : String) : Except String (List UInt8) :=
  match setting.files.read setting.shell.directory path with
  | .ok content => .ok content
  | .error .isADirectory => .ok []
  | .error .notADirectory => .error s!"cannot open {path}: Not a directory"
  | .error _ => .error s!"cannot open {path}: No such file"

/-- The text of a word, and the setting after it has been expanded. -/
def Setting.expand {α : Type} (setting : Setting) (expansion : Expansion α) :
    Except String (α × Setting) :=
  match expansion.run setting.shell.scope with
  | .error fault => .error fault.text
  | .ok (result, scope) => .ok (result, { setting with shell := { setting.shell with scope } })

def redirect (setting : Setting) : Redirection → Except String Setting
  | .mk descriptor kind target => do
    let (text, setting) ← setting.expand (expandText target)
    let shell := setting.shell
    let path := String.ofList text
    let withSink (sink : Option Sink) (files : FileTree) : Setting :=
      { shell := { shell with sinks := shell.sinks.lead descriptor sink }, files }
    match kind with
    | .write | .append =>
      let (sink, files) ← openSink setting path (kind = .append)
      return withSink sink files
    | .read =>
      let input ← openInput setting path
      return if descriptor = 0 then { setting with shell := { shell with input } } else setting
    | .document =>
      return { setting with shell := { shell with input := Text.encodeUtf8 text } }
    | .duplicate =>
      if path = "-" then
        if descriptor = 0 then return { setting with shell := { shell with input := [] } }
        else return withSink none setting.files
      else
        match path.toNat? with
        | none => throw s!"Syntax error: Bad fd number"
        | some 0 => return setting
        | some source =>
          match shell.sinks.lookup source with
          | some sink => return withSink (some sink) setting.files
          | none => throw s!"{source}: Bad file descriptor"

/-- The setting with redirections in their order. -/
def redirectAll (setting : Setting) (targets : List Redirection) : Except String Setting :=
  targets.foldlM redirect setting

def replacesInput (targets : List Redirection) : Bool :=
  targets.any fun
    | .mk descriptor _ _ => descriptor = 0

/-- The task that takes redirections back. -/
def restoreTask (shell : State) (targets : List Redirection) : Task :=
  .restore shell.sinks (if replacesInput targets then some shell.input else none)

end ThrowawayServer.Shell
