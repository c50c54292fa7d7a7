import LiveViewer.Session.Transport

/-!
# The viewer's command line

The viewer is run as `streamview [OPTIONS] <COMMAND>`. The commands are `watch`, which
connects to a stream and reports playback until interrupted, `streams`, which lists the streams
a server knows about, and `help`, which prints the help of the program or of a command.

Options are written long (`--server URL`, `--server=URL`) or, where they have one, short
(`-k KEY`, `-kKEY`, `-k=KEY`, and flags clustered as `-vk KEY`). A *global* option may also be
written after the command. Each option may be given once per command.

This module holds the description of the command line (`viewerInterface`) and the texts drawn
from it: the usage line, the help pages and the names of options in messages.
-/

namespace LiveViewer.CommandLine

/-- An option of a command: a flag, or an option that takes one value. -/
structure Opt where
  /-- Its long name, also the key its value is collected under. -/
  long : String
  /-- Its short name, if it has one. -/
  short : Option Char := none
  /-- The placeholder of its value, for an option that takes one. -/
  valueName : Option String := none
  /-- What it does, as the help page says. -/
  help : String
  /-- Whether the commands below accept it too. -/
  global : Bool := false
  /-- The value taken when it is not given. -/
  default : Option String := none
  /-- Checks a value: the reason it is refused, if it is. -/
  check : String → Option String := fun _ => none
  /-- Whether giving it asks for the help page. -/
  asksHelp : Bool := false
  /-- Its place among the options of the command that declares it; the help option comes
  after all others. -/
  order : Nat := 0

namespace Opt

/-- Whether the option takes a value. -/
def takesValue (o : Opt) : Bool := o.valueName.isSome

/-- The option as messages name it: `--server <SERVER>`, `--verbose`. -/
def display (o : Opt) : String :=
  "--" ++ o.long ++ (o.valueName.map (" <" ++ · ++ ">")).getD ""

/-- The option as the help page lists it: `-c, --config <CONFIG>`, `    --server <SERVER>`. -/
def spec (o : Opt) : String :=
  (match o.short with | some c => "-" ++ c.toString ++ ", " | none => "    ") ++ o.display

/-- The key that orders options of the same place on the help page: the short name in lower
case, its capital after it, or else the long name. -/
def sortKey (o : Opt) : String :=
  match o.short with
  | some ch => ch.toLower.toString ++ (if ch.isUpper then "1" else "0")
  | none => o.long

/-- Whether `a` is listed before `b` on the help page, or at the same place. -/
def listedBefore (a b : Opt) : Bool :=
  a.order < b.order || (a.order == b.order && decide (a.sortKey ≤ b.sortKey))

/-- The option's description on the help page, with its default. -/
def description (o : Opt) : String :=
  o.help ++ (o.default.map (" [default: " ++ · ++ "]")).getD ""

end Opt

/-- A command: its name as typed and as shown, what it does, its options, and the values it
takes. -/
structure Cmd where
  /-- The name typed to run it. -/
  name : String
  /-- The name shown in its usage line, with the program's name before it. -/
  path : String
  /-- What it does. -/
  about : String
  /-- Its options, globals given to it from above included. -/
  opts : List Opt := []
  /-- Its values, as placeholder and description. -/
  values : List (String × String) := []
  /-- Whether it must be followed by a command. -/
  takesCommand : Bool := false

namespace Cmd

/-- The option with long name `name`. -/
def findLong (c : Cmd) (name : String) : Option Opt := c.opts.find? (·.long == name)

/-- The option with short name `ch`. -/
def findShort (c : Cmd) (ch : Char) : Option Opt := c.opts.find? (·.short == some ch)

/-- The usage line of the command, without its heading. -/
def usage (c : Cmd) : String :=
  c.path ++ (if c.opts.any (!·.asksHelp) then " [OPTIONS]" else "") ++
    String.join (c.values.map (" " ++ ·.1)) ++ (if c.takesCommand then " <COMMAND>" else "")

/-- The usage line naming the options given, as messages show it after a mistake. -/
def usageWith (c : Cmd) (given : List Opt) : String :=
  if given.isEmpty then c.usage
  else
    let names := given.foldl (fun acc o => if acc.contains o.display then acc else acc ++ [o.display]) []
    c.path ++ String.join (names.map (" " ++ ·)) ++ (if c.takesCommand then " <COMMAND>" else "")

end Cmd

/-- `s` followed by spaces up to `width` characters. -/
def padRight (s : String) (width : Nat) : String :=
  s ++ String.ofList (List.replicate (width - s.length) ' ')

/-- A section of a help page: its heading, then each entry with its description, the
descriptions aligned two spaces after the longest entry. -/
def helpSection (heading : String) (entries : List (String × String)) : List String :=
  if entries.isEmpty then []
  else
    let width := entries.foldl (fun w e => max w e.1.length) 0
    ["", heading] ++ entries.map fun (e, d) => "  " ++ padRight e width ++ "  " ++ d

/-- The help page of command `c`, listing the commands `commands` below it. -/
def helpPage (c : Cmd) (commands : List Cmd) : List String :=
  [c.about, "", "Usage: " ++ c.usage] ++
    helpSection "Commands:" (commands.map fun s => (s.name, s.about)) ++
    helpSection "Arguments:" c.values ++
    helpSection "Options:" ((c.opts.mergeSort Opt.listedBefore).map fun o => (o.spec, o.description))

/-- The program's command line: the top command and the commands below it, in the order the
help page lists them. -/
structure Interface where
  /-- The program itself. -/
  top : Cmd
  /-- Its commands. -/
  commands : List Cmd

namespace Interface

/-- The command below `c` named `name`: only the program has commands. -/
def below (ui : Interface) (c : Cmd) (name : String) : Option Cmd :=
  if c.takesCommand then ui.commands.find? (·.name == name) else none

/-- The names of the commands below `c`. -/
def namesBelow (ui : Interface) (c : Cmd) : List String :=
  if c.takesCommand then ui.commands.map (·.name) else []

/-- The help page of `c`. -/
def helpOf (ui : Interface) (c : Cmd) : List String :=
  helpPage c (if c.takesCommand then ui.commands else [])

end Interface

/-- The option that prints the help page. -/
def helpOpt : Opt :=
  { long := "help", short := some 'h', help := "Print help", asksHelp := true, order := 1000 }

/-- The server option, accepted by every command. -/
def serverOpt : Opt :=
  { long := "server", valueName := some "SERVER",
    help := "Server endpoint, e.g. http://localhost:8080", global := true, order := 1 }

/-- The verbosity flag, accepted by every command. -/
def verboseOpt : Opt :=
  { long := "verbose", short := some 'v', help := "Enable verbose logging", global := true,
    order := 2 }

/-- The viewer's command line. -/
def viewerInterface : Interface where
  top :=
    { name := "streamview", path := "streamview", about := "Terminal viewer for live game streams",
      opts := [{ long := "config", short := some 'c', valueName := some "CONFIG",
                 help := "Configuration file path", default := some "viewer.toml" },
               serverOpt, verboseOpt, helpOpt],
      takesCommand := true }
  commands :=
    [{ name := "watch", path := "streamview watch",
       about := "Connect to a stream and report playback until Ctrl+C",
       opts := [{ long := "stream-key", short := some 'k', valueName := some "STREAM_KEY",
                  help := "Stream key; prompted for when neither given nor configured" },
                { long := "transport", short := some 't', valueName := some "TRANSPORT",
                  help := "webrtc or hls", order := 1,
                  check := fun s => match TransportKind.ofText s with
                    | .ok _ => none
                    | .error e => some e.message },
                serverOpt, verboseOpt, helpOpt] },
     { name := "streams", path := "streamview streams",
       about := "List the streams the server knows about",
       opts := [serverOpt, verboseOpt, helpOpt] },
     { name := "help", path := "streamview help",
       about := "Print this message or the help of the given subcommand(s)",
       values := [("[COMMAND]...", "Print help for the subcommand(s)")] }]

end LiveViewer.CommandLine
