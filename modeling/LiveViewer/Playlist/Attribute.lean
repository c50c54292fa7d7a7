import LiveViewer.Playlist.Error
import LiveViewer.Text.Blank

/-!
# Attribute lists

Many tags carry an attribute list `NAME=value,NAME=value`. A name runs to the next `=`, and its
value to the next comma that stands outside double quotes, or to the end; both are trimmed.
The list ends where fewer than two characters are left or no `=` follows. Attributes that a tag
does not know are passed over, and an attribute given twice takes its last value.

A quoted string value is used without its quotes, and is written back between them.
-/

namespace LiveViewer.Playlist

/-- The text of a value, to the first comma outside double quotes, and the text after that
comma; `inQuotes` says whether the text starts inside quotes. -/
def splitValue (inQuotes : Bool) : List Char → List Char × List Char
  | [] => ([], [])
  | c :: cs =>
    if c = ',' && !inQuotes then ([], cs)
    else
      let (value, rest) := splitValue (if c = '"' then !inQuotes else inQuotes) cs
      (c :: value, rest)

/-- The pairs of an attribute list read from `cs`; `fuel` bounds their number. -/
def pairsOf : (fuel : Nat) → List Char → List (String × String)
  | 0, _ => []
  | _ + 1, [] | _ + 1, [_] => []
  | fuel + 1, cs =>
    match cs.span (· != '=') with
    | (name, _ :: rest) =>
      let (value, more) := splitValue false rest
      (Text.trim (String.ofList name), Text.trim (String.ofList value)) :: pairsOf fuel more
    | (_, []) => []

/-- The name and value pairs of an attribute list, in order. -/
def attributePairs (s : String) : List (String × String) :=
  pairsOf (s.length + 1) s.toList

example : attributePairs "A=1, B=\"x,y\" ,C" = [("A", "1"), ("B", "\"x,y\"")] := by decide

/-- A quoted string value without its quotes: every double quote, carriage return and line feed
is dropped. -/
def unquote (s : String) : String :=
  String.ofList (s.toList.filter fun c => c != '"' && c != '\n' && c != '\r')

/-- A string value between double quotes. -/
def quoted (s : String) : String := "\"" ++ s ++ "\""

/-- Reads an enumerated value `YES` or `NO`. -/
def yesOrNo (s : String) : Except PlaylistError Bool :=
  if s = "YES" then .ok true else if s = "NO" then .ok false else .error .invalidInput

/-- The text after a tag's name, when the text starts with it once blanks are trimmed. -/
def afterTag (input tag : String) : Except PlaylistError String :=
  let trimmed := Text.trim input
  if trimmed.startsWith tag then .ok (String.ofList (trimmed.toList.drop tag.length))
  else .error (.missingTag tag input)

end LiveViewer.Playlist
