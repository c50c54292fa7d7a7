import LiveViewer.CommandLine.Program

/-!
# The `streamview` executable

Reads the configuration file the command line names, when it is a file of the working
directory, runs the viewer, and prints what it printed on the output and error streams.
-/

open LiveViewer.CommandLine

/-- Runs the viewer with the command line `args`. -/
def main (args : List String) : IO UInt32 := do
  let path := configPath args
  let files ← match fileName path with
    | some name =>
      if name.isEmpty then pure []
      else try pure [(name, ← IO.FS.readFile path)] catch _ => pure []
    | none => pure []
  let out := run { files } args
  let stdout ← IO.getStdout
  let stderr ← IO.getStderr
  for l in out.stdout do stdout.putStrLn l
  for l in out.stderr do stderr.putStrLn l
  stdout.flush
  return out.exitCode.toUInt32
