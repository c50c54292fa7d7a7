import LiveViewer.CommandLine.Grammar
import LiveViewer.CommandLine.Similar

/-!
# Reading the command line

The arguments are read left to right, one command at a time. The first argument that names a
command below the current one ends the current command's arguments; `help` instead names the
command whose help page is printed. `--` makes every later argument a plain value. Each option
is checked as soon as it is complete: an option that takes a value and has none when the next
option, a command or the end comes is refused, as is an option given twice or a value its
check refuses.

A refused command line is answered with a message on the error stream and exit status 2:
`error:`, the fault, tips naming similar known names, the usage line, and how to get help.
A request for help is answered with the help page on the output stream and status 0, except
that a program run without any argument prints its help page on the error stream with status 2.
-/

namespace LiveViewer.CommandLine

/-- Why reading stopped before the end. -/
inductive Stop where
  /-- Help was asked for: the help page of the command. -/
  | help (page : List String)
  /-- The command line is refused; the lines of the message. -/
  | refused (lines : List String)
  /-- Nothing was given where a command was needed; the lines of the help page. -/
  | bare (page : List String)

/-- The lines of a refusal: the fault, the tips, the usage line and the pointer to help. -/
def refusal (fault : String) (tips : List String) (usage : Option String) : List String :=
  let text := "error: " ++ fault ++
    (if tips.isEmpty then "" else "\n" ++ String.join (tips.map ("\n  tip: " ++ ·))) ++
    (usage.map ("\n\nUsage: " ++ ·)).getD "" ++
    "\n\nFor more information, try '--help'."
  text.splitOn "\n"

/-- The tip naming similar known names. -/
def similarTip (kind : String) : List String → List String
  | [] => []
  | [n] => ["a similar " ++ kind ++ " exists: '" ++ n ++ "'"]
  | ns => ["some similar " ++ kind ++ "s exist: " ++ ", ".intercalate (ns.map ("'" ++ · ++ "'"))]

/-- What was read of one command's arguments. -/
structure Reading where
  /-- The options given, in the order they were given, with their values. -/
  given : List (Opt × String) := []
  /-- An option still waiting for its value. -/
  pending : Option Opt := none
  /-- Whether `--` was read: every later argument is a plain value. -/
  plain : Bool := false

namespace Reading

/-- The value given for the option with long name `name`. -/
def get? (r : Reading) (name : String) : Option String :=
  (r.given.find? (·.1.long == name)).map (·.2)

/-- Whether the flag with long name `name` was given. -/
def has (r : Reading) (name : String) : Bool := (r.get? name).isSome

end Reading

section

variable (ui : Interface) (c : Cmd)

/-- Refuses an option that still waits for its value. -/
def settle (r : Reading) : Except Stop Reading :=
  match r.pending with
  | some o =>
    throw (.refused (refusal ("a value is required for '" ++ o.display ++ "' but none was supplied")
      [] none))
  | none => pure r

/-- Takes option `o` with `value`, after settling the option before it. -/
def take (r : Reading) (o : Opt) (value : String) : Except Stop Reading := do
  let r ← settle r
  if o.asksHelp then throw (.help (ui.helpOf c))
  if r.given.any (·.1.long == o.long) then
    throw (.refused (refusal ("the argument '" ++ o.display ++ "' cannot be used multiple times")
      [] (some c.usage)))
  match o.check value with
  | some reason =>
    throw (.refused (refusal ("invalid value '" ++ value ++ "' for '" ++ o.display ++ "': " ++
      reason) [] none))
  | none => return { r with given := r.given ++ [(o, value)] }

/-- The refusal of an unknown long option `--name`; `rest` are the arguments after it. -/
def unknownLong (r : Reading) (name : String) (rest : List String) : Stop :=
  let given := r.given.map (·.1)
  match (similarNames name (c.opts.map (·.long))).getLast? with
  | some near =>
    let used := given ++ (c.findLong near).toList
    .refused (refusal ("unexpected argument '--" ++ name ++ "' found")
      (similarTip "argument" ["--" ++ near]) (some (c.usageWith used)))
  | none =>
    let elsewhere := (ui.namesBelow c).filterMap fun sub =>
      match ui.below c sub, rest.idxOf? sub with
      | some cmd, some place =>
        (similarNames name (cmd.opts.map (·.long))).getLast?.map fun near => (sub, near, place)
      | _, _ => none
    let best := elsewhere.foldl (fun acc e => match acc with
      | some b => if e.2.2 ≥ b.2.2 then some e else acc
      | none => some e) none
    let tips := best.toList.map fun (sub, near, _) => "'" ++ sub ++ " --" ++ near ++ "' exists"
    .refused (refusal ("unexpected argument '--" ++ name ++ "' found") tips
      (some (c.usageWith given)))

/-- The refusal of a value where none was expected. -/
def unexpectedValue (r : Reading) (arg : String) : Stop :=
  if r.plain && (ui.below c arg).isSome then
    .refused (refusal ("unexpected argument '" ++ arg ++ "' found")
      ["subcommand '" ++ arg ++ "' exists; to use it, remove the '--' before it"] (some c.usage))
  else
    let near := similarNames arg (ui.namesBelow c)
    if !near.isEmpty || c.takesCommand then
      .refused (refusal ("unrecognized subcommand '" ++ arg ++ "'") (similarTip "subcommand" near)
        (some c.usage))
    else .refused (refusal ("unexpected argument '" ++ arg ++ "' found") [] (some c.usage))

/-- Reads a cluster of short options, the characters after `-`. -/
def readShorts (r : Reading) : List Char → Except Stop Reading
  | [] => pure r
  | ch :: more =>
    match c.findShort ch with
    | none =>
      throw (.refused (refusal ("unexpected argument '-" ++ ch.toString ++ "' found") []
        (some c.usage)))
    | some o =>
      if !o.takesValue then do
        let r ← take ui c r o "true"
        readShorts r more
      else
        match more with
        | [] => do
          let r ← settle r
          return { r with pending := some o }
        | '=' :: value => take ui c r o (String.ofList value)
        | value => take ui c r o (String.ofList value)

/-- The command whose help page `help` followed by `names` asks for. -/
def helpTarget (cmd : Cmd) : List String → Except Stop Cmd
  | [] => pure cmd
  | name :: more =>
    match ui.below cmd name with
    | some sub => helpTarget sub more
    | none => throw (.refused (refusal ("unrecognized subcommand '" ++ name ++ "'") []
        (some cmd.usage)))

/-- Reads the arguments of command `c`: what was read, and the command named next with the
arguments after its name. -/
def readCommand : List String → Reading → Except Stop (Reading × Option (Cmd × List String))
  | [], r => do return (← settle r, none)
  | arg :: rest, r =>
    let plainValue : Except Stop (Reading × Option (Cmd × List String)) :=
      match r.pending with
      | some o => do
        let r ← take ui c { r with pending := none } o arg
        readCommand rest r
      | none => throw (unexpectedValue ui c r arg)
    if r.plain then
      throw (unexpectedValue ui c r arg)
    else
      match ui.below c arg with
      | some sub =>
        if sub.name == "help" then do
          let target ← helpTarget ui ui.top rest
          throw (.help (ui.helpOf target))
        else do return (← settle r, some (sub, rest))
      | none =>
        if arg == "--" then readCommand rest { r with plain := true }
        else if arg.startsWith "--" then
          let body := (arg.drop 2).toString
          let (name, value) := match body.splitOn "=" with
            | [n] => (n, none)
            | n :: vs => (n, some ("=".intercalate vs))
            | [] => (body, none)
          match c.findLong name with
          | none => throw (unknownLong ui c r name rest)
          | some o =>
            if o.takesValue then
              match value with
              | some v => do
                let r ← take ui c r o v
                readCommand rest r
              | none => do
                let r ← settle r
                readCommand rest { r with pending := some o }
            else
              match value with
              | some v =>
                throw (.refused (refusal ("unexpected value '" ++ v ++ "' for '" ++ o.display ++
                  "' found; no more were expected") [] (some (c.usageWith (r.given.map (·.1) ++ [o])))))
              | none => do
                let r ← take ui c r o "true"
                readCommand rest r
        else if arg.startsWith "-" && arg != "-" then do
          let r ← readShorts ui c r (arg.toList.drop 1)
          readCommand rest r
        else plainValue

end

/-- A command line read: the program's options, the command and its options. -/
structure Invocation where
  /-- The options given before the command. -/
  top : Reading
  /-- The command. -/
  command : Cmd
  /-- The options given after it. -/
  below : Reading

namespace Invocation

/-- The value of option `name`: given after the command, or else before it. -/
def get? (i : Invocation) (name : String) : Option String :=
  i.below.get? name <|> i.top.get? name

end Invocation

/-- Reads a whole command line. -/
def Interface.read (ui : Interface) (args : List String) : Except Stop Invocation := do
  let (top, next) ← readCommand ui ui.top args {}
  match next with
  | none =>
    if top.given.isEmpty then throw (.bare (ui.helpOf ui.top))
    else
      throw (.refused (refusal ("'" ++ ui.top.name ++
        "' requires a subcommand but one was not provided\n  [subcommands: " ++
        ", ".intercalate (ui.commands.map (·.name)) ++ "]") [] (some ui.top.usage)))
  | some (cmd, rest) =>
    let (below, _) ← readCommand ui cmd rest {}
    return { top, command := cmd, below }

end LiveViewer.CommandLine
