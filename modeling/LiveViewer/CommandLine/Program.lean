import LiveViewer.CommandLine.Parse
import LiveViewer.CommandLine.Report
import LiveViewer.CommandLine.Watch
import LiveViewer.Config.Toml

/-!
# The viewer program

A run of `streamview`: read the command line, load the configuration file, let `--server`
replace the configured endpoint, and run the command.

* The configuration file is `viewer.toml` unless `--config` names another; a file that does not
  exist leaves every setting at its default, one that does not read as a configuration ends the
  run.
* `streams` lists the streams of the server: each stream's state, key, viewer count and title,
  or `No streams`.
* `watch` takes the stream key and transport from the command line when given; a key that is
  still blank must be typed at a prompt, which fails when the input is not a terminal.

A run ends with status 0, with 1 after a failure reported on the error stream
(`LiveViewer.CommandLine.Report`), or with 2 when the command line is refused.
-/

namespace LiveViewer.CommandLine

/-- What a run of the program has around it besides its arguments. -/
structure Setting where
  /-- The files of the working directory, by name, with their text. -/
  files : List (String × String) := []
  /-- Milliseconds after which a running viewer is interrupted. -/
  interruptAfterMs : Nat := 400
  /-- The time of day printed on log lines. -/
  clock : String := "00:00:00"

/-- What a run of the program did. -/
structure Outcome where
  /-- The exit status. -/
  exitCode : Nat
  /-- The lines printed on the output stream. -/
  stdout : List String := []
  /-- The lines printed on the error stream. -/
  stderr : List String := []
  deriving DecidableEq, Repr, Inhabited

/-- A run that failed after printing `stdout`. -/
def Outcome.failed (r : Report) (stdout : List String := []) : Outcome :=
  { exitCode := 1, stdout, stderr := r.lines }

/-- The file a path names in the working directory: `none` for a missing file, or the file's
name when the path is relative and names a file there; a path that names the working
directory itself is `some ""`. -/
def fileName (path : String) : Option String :=
  if path.startsWith "/" || path.isEmpty then none
  else
    match (path.splitOn "/").filter fun p => p != "" && p != "." with
    | [] => some ""
    | [name] => if path.endsWith "/" then none else some name
    | _ => none

/-- Loads the configuration file at `path`: the defaults when it does not exist. -/
def loadConfig (files : List (String × String)) (path : String) : Except Report ViewerConfig :=
  match fileName path with
  | some "" => throw { summary := "Failed to read " ++ path, causes := ["Is a directory (os error 21)"] }
  | some name =>
    match files.find? (·.1 == name) with
    | some (_, text) =>
      (ViewerConfig.readToml text).mapError fun e =>
        { summary := "Invalid configuration in " ++ path, causes := [e.display text] }
    | none => pure {}
  | none => pure {}

/-- `s` padded with spaces on the right to `width` characters. -/
def leftAligned (s : String) (width : Nat) : String :=
  s ++ String.ofList (List.replicate (width - s.length) ' ')

/-- `s` padded with spaces on the left to `width` characters. -/
def rightAlignedIn (s : String) (width : Nat) : String :=
  String.ofList (List.replicate (width - s.length) ' ') ++ s

/-- The line listing a stream. -/
def streamLine (s : StreamSummary) : String :=
  leftAligned (if s.isLive then "LIVE" else "offline") 8 ++ " " ++ leftAligned s.streamKey 24 ++
    " " ++ rightAlignedIn (toString s.viewerCount) 5 ++ " viewers  " ++ s.title.getD ""

/-- Lists the streams of the configured server. -/
def listStreams (config : ViewerConfig) : Outcome :=
  match Network.listStreams config.serverEndpoint with
  | .error e =>
    .failed { summary := "Failed to list streams on " ++ config.serverEndpoint,
              causes := e.message :: Network.causes e }
  | .ok [] => { exitCode := 0, stdout := ["No streams"] }
  | .ok streams => { exitCode := 0, stdout := streams.map streamLine }

/-- Watches the stream configured, with the key and transport given on the command line. -/
def watch (setting : Setting) (config : ViewerConfig) (key transport : Option String) : Outcome :=
  let config := match key with
    | some k => { config with streamKey := k }
    | none => config
  let config := match transport.map TransportKind.ofText with
    | some (.ok t) => { config with transport := t }
    | _ => config
  if (Text.trim config.streamKey).isEmpty then
    .failed { summary := "Failed to read stream key", causes := ["IO error: not a terminal"] }
  else
    match watchStream config setting.interruptAfterMs setting.clock with
    | (lines, some e) => .failed { summary := e.message } lines
    | (lines, none) => { exitCode := 0, stdout := lines }

/-- The configuration file a run with `args` reads. -/
def configPath (args : List String) : String :=
  match viewerInterface.read args with
  | .ok inv => (inv.top.get? "config").getD "viewer.toml"
  | .error _ => "viewer.toml"

/-- Runs the program with `args`. -/
def run (setting : Setting) (args : List String) : Outcome :=
  match viewerInterface.read args with
  | .error (.help page) => { exitCode := 0, stdout := page }
  | .error (.refused lines) => { exitCode := 2, stderr := lines }
  | .error (.bare page) => { exitCode := 2, stderr := page }
  | .ok inv =>
    match loadConfig setting.files ((inv.top.get? "config").getD "viewer.toml") with
    | .error r => .failed r
    | .ok config =>
      let config := match inv.get? "server" with
        | some s => { config with serverEndpoint := s }
        | none => config
      if inv.command.name == "watch" then
        watch setting config (inv.below.get? "stream-key") (inv.below.get? "transport")
      else listStreams config

end LiveViewer.CommandLine
