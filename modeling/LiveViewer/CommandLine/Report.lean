/-!
# Reporting a failure

A failed run prints `Error:` and what the program was doing, then, when the failure has causes,
`Caused by:` and the causes, outermost first. A single cause is indented by four spaces; several
are numbered from zero, each number right-aligned in five columns and followed by `: `, and the
later lines of a cause are indented to line up after the number.
-/

namespace LiveViewer.CommandLine

/-- A failure as reported: what the program was doing, and its causes, outermost first. -/
structure Report where
  /-- What the program was doing. -/
  summary : String
  /-- The causes, outermost first. -/
  causes : List String := []
  deriving DecidableEq, Repr, Inhabited

/-- `text` with `first` before its first line and `rest` before each later line. -/
def indentLines (first rest : String) (text : String) : String :=
  first ++ ("\n" ++ rest).intercalate (text.splitOn "\n")

/-- `n` right-aligned in five columns. -/
def rightAligned (n : Nat) : String :=
  let digits := toString n
  String.ofList (List.replicate (5 - digits.length) ' ') ++ digits

/-- The report's text after `Error: `. -/
def Report.render (r : Report) : String :=
  r.summary ++
    match r.causes with
    | [] => ""
    | [c] => "\n\nCaused by:\n" ++ indentLines "    " "    " c
    | cs => "\n\nCaused by:" ++
        String.join (cs.zipIdx.map fun (c, n) => "\n" ++ indentLines (rightAligned n ++ ": ") "       " c)

/-- The lines the report prints on the error stream. -/
def Report.lines (r : Report) : List String := ("Error: " ++ r.render).splitOn "\n"

end LiveViewer.CommandLine
