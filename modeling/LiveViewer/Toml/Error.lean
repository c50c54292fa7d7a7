import LiveViewer.Toml.Syntax

/-!
# Why a TOML text was refused

A refusal has a message and, in most cases, a place in the text: a span of bytes. Shown
against the text, it names the line and column of the span's start, repeats that line, and
marks the span under it with carets:

```
TOML parse error at line 1, column 6
  |
1 | name 5
  |      ^
expected `.`, `=`
```

Lines count from one. A column counts the characters of the line before the span, from one;
when the span starts on a character of more than one byte, it counts bytes instead. A span at
the very end of the text is shown one column after the last character of the text. At least
one caret is drawn, and no more than reach one past the line's end.
-/

namespace LiveViewer.Toml

/-- A refusal: its message, and where in the text it points, if anywhere. -/
structure TomlError where
  /-- What was wrong. -/
  message : String
  /-- The bytes it points at. -/
  span : Option Span := none
  deriving Repr, Inhabited

/-- A reading failure as a refusal: it points at the byte where reading stopped, or at the
empty end of the text. -/
def Failure.toError (f : Failure) (size : Nat) : TomlError :=
  { message := f.message, span := some (if f.pos == size then ⟨f.pos, f.pos⟩ else ⟨f.pos, f.pos + 1⟩) }

/-- The line (from zero) and column (from zero) of byte `index` of `bytes`. -/
def position (bytes : List UInt8) (index : Nat) : Nat × Nat :=
  if bytes.isEmpty then (0, index)
  else
    let safe := min index (bytes.length - 1)
    let past := index - safe
    let before := bytes.take safe
    let lineStart := before.length - (before.reverse.takeWhile (· != 10)).length
    let line := (bytes.take lineStart).count 10
    let piece := (bytes.drop lineStart).take (safe + 1 - lineStart)
    let column := match String.fromUTF8? (ByteArray.mk piece.toArray) with
      | some s => s.length - 1
      | none => safe - lineStart
    (line, column + past)

/-- `n` spaces. -/
def spaces (n : Nat) : String := String.ofList (List.replicate n ' ')

/-- The refusal shown against `text`, each line ending in a line break. -/
def TomlError.display (e : TomlError) (text : String) : String :=
  let context := match e.span with
    | none => ""
    | some sp =>
      let (line, column) := position text.toUTF8.toList sp.start
      let number := toString (line + 1)
      let content := ((text.splitOn "\n").drop line).head?.getD ""
      let marks := min (sp.stop - sp.start) (content.utf8ByteSize - column)
      let gutter := spaces (number.length + 1)
      "TOML parse error at line " ++ number ++ ", column " ++ toString (column + 1) ++ "\n" ++
        gutter ++ "|\n" ++
        number ++ " | " ++ content ++ "\n" ++
        gutter ++ "|" ++ spaces (column + 1) ++ "^" ++ String.ofList (List.replicate (marks - 1) '^') ++
        "\n"
  context ++ e.message ++ "\n"

end LiveViewer.Toml
