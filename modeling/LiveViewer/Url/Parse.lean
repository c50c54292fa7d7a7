import LiveViewer.Url.Basic

/-!
# Reading a URL

A URL is read from text without a base. Controls and spaces at either end are dropped, and
tabs and line breaks anywhere. The scheme is a letter followed by letters, digits, `+`, `-`
and `.`, up to a colon; without one the text is a relative reference, which needs a base.

Under a special scheme any run of slashes or backslashes leads to the authority, which ends at
the first `/`, `\`, `?` or `#`. The user information is everything before the last `@` of the
authority, split at its first colon into user name and password. The host follows, up to a
colon outside brackets, and then the port, decimal, at most 65535, and dropped when it is the
scheme's default. The path is split into segments at slashes (and backslashes, under a special
scheme); a segment `.` is dropped and a segment `..` removes the one before it, also when
their dots are percent-encoded, and either one at the end leaves an empty last segment. The
query runs up to `#`, and the fragment to the end.
-/

namespace LiveViewer.Url

/-- Drops controls and spaces at both ends. -/
def trimControls (cs : List Char) : List Char :=
  ((cs.dropWhile (·.toNat ≤ 0x20)).reverse.dropWhile (·.toNat ≤ 0x20)).reverse

/-- Whether `c` may continue a scheme. -/
def isSchemeChar (c : Char) : Bool := c.isAlphanum || c = '+' || c = '-' || c = '.'

/-- The lowercase form of ASCII letters. -/
def lowerAscii (cs : List Char) : List Char :=
  cs.map fun c => if c.isUpper then c.toLower else c

/-- Whether a path segment, as encoded, is `.`. -/
def isSingleDot (s : List Char) : Bool :=
  let t := lowerAscii s
  t = ['.'] || t = ['%', '2', 'e']

/-- Whether a path segment, as encoded, is `..`. -/
def isDoubleDot (s : List Char) : Bool :=
  let t := lowerAscii s
  t = ['.', '.'] || t = ['.', '%', '2', 'e'] || t = ['%', '2', 'e', '.'] ||
    t = ['%', '2', 'e', '%', '2', 'e']

/-- Adds one segment to a path read so far; `more` when a slash follows it. -/
def pushSegment (path : List String) (seg : List Char) (more : Bool) : List String :=
  if isDoubleDot seg then path.dropLast ++ (if more then [] else [""])
  else if isSingleDot seg then path ++ (if more then [] else [""])
  else path ++ [String.ofList seg]

/-- Reads path segments up to `?` or `#`; a slash, or under a special scheme a backslash,
separates them. Returns the segments and the rest of the text. -/
def readSegments (special : Bool) : List Char → List String → List Char →
    List String × List Char
  | [], path, seg => (pushSegment path seg false, [])
  | c :: rest, path, seg =>
    if c = '?' || c = '#' then (pushSegment path seg false, c :: rest)
    else if c = '/' || (special && c = '\\') then readSegments special rest (pushSegment path seg true) []
    else readSegments special rest path (seg ++ encodeChar .path c)

/-- Reads the query and the fragment after the path. -/
def readQueryFragment (special : Bool) (cs : List Char) : Option String × Option String :=
  let (q, rest) :=
    match cs with
    | '?' :: more =>
      let body := more.takeWhile (· ≠ '#')
      (some (String.ofList (encode (if special then .specialQuery else .query) body)),
        more.drop body.length)
    | _ => (none, cs)
  let f :=
    match rest with
    | '#' :: more => some (String.ofList (encode .fragment more))
    | _ => none
  (q, f)

/-- Reads a port after its colon: decimal digits up to a `/`, `\`, `?`, `#` or the end. -/
def readPort (cs : List Char) : Except ParseError (Option Nat × List Char) :=
  let ds := cs.takeWhile (fun c => '0' ≤ c && c ≤ '9')
  let rest := cs.drop ds.length
  let value := ds.foldl (fun acc c => acc * 10 + (c.toNat - 48)) 0
  if value > 65535 then .error .invalidPort
  else
    match rest with
    | [] => .ok (if ds.isEmpty then none else some value, [])
    | c :: _ =>
      if c = '/' || c = '\\' || c = '?' || c = '#' then
        .ok (if ds.isEmpty then none else some value, rest)
      else .error .invalidPort

/-- The index of the last `@` among `cs`. -/
def lastAt (cs : List Char) : Option Nat :=
  (cs.zipIdx.filter (·.1 = '@')).getLast?.map (·.2)

/-- Reads the authority and everything after it. -/
def readAuthority (scheme : String) (special : Bool) (cs : List Char) : Except ParseError Url := do
  let isEnd (c : Char) : Bool := c = '/' || c = '?' || c = '#' || (special && c = '\\')
  let region := cs.takeWhile (! isEnd ·)
  let (user, pass, afterInfo) ←
    match lastAt region with
    | none => pure (([] : List Char), (none : Option (List Char)), cs)
    | some 0 =>
      match cs.drop 1 with
      | c :: _ => if isEnd c then throw .emptyHost else pure ([], none, cs.drop 1)
      | [] => pure ([], none, [])
    | some i =>
      let info := cs.take i
      let name := info.takeWhile (· ≠ ':')
      let pass := (info.drop (name.length + 1))
      pure (name, (if name.length < info.length && !pass.isEmpty then some pass else none),
        cs.drop (i + 1))
  let hasAuthority := !user.isEmpty || pass.isSome
  -- the host runs to a colon outside brackets or to the end of the authority
  let rec hostLen : List Char → Bool → Nat
    | [], _ => 0
    | c :: rest, inBrackets =>
      if (c = ':' && !inBrackets) || isEnd c then 0
      else hostLen rest (if c = '[' then true else if c = ']' then false else inBrackets) + 1
  let hostChars := afterInfo.take (hostLen afterInfo false)
  let rest := afterInfo.drop hostChars.length
  if special && hostChars.isEmpty then throw .emptyHost
  let host ← if special then Host.parseSpecial hostChars else Host.parseOpaque hostChars
  let emptyHost := host = .domain ""
  if emptyHost && rest.head? = some ':' then throw .emptyHost
  let (port, rest) ←
    match rest with
    | ':' :: more => do
      let (p, r) ← readPort more
      pure (if p = defaultPort scheme then none else p, r)
    | _ => pure (none, rest)
  if emptyHost && hasAuthority then throw .emptyHost
  let (path, rest) :=
    if special then
      readSegments true (match rest with | c :: more => if c = '/' || c = '\\' then more else rest
                                         | [] => []) [] []
    else
      match rest with
      | '/' :: more => readSegments false more [] []
      | [] => ([], [])
      | c :: more =>
        if c = '?' || c = '#' then ([], c :: more) else readSegments false (c :: more) [] []
  let (query, fragment) := readQueryFragment special rest
  pure { scheme, username := String.ofList (encode .userinfo user),
         password := pass.map fun p => String.ofList (encode .userinfo p),
         host := if emptyHost then none else some host, port, path := .segments path,
         query, fragment }

/-- Whether two characters are a drive letter and its colon. -/
def isDriveLetter (cs : List Char) : Bool :=
  match cs with
  | [a, b] => a.isAlpha && (b = ':' || b = '|')
  | _ => false

/-- Reads what follows `file:`. -/
def readFile (cs : List Char) : Except ParseError Url := do
  let slash (c : Char) : Bool := c = '/' || c = '\\'
  let isEnd (c : Char) : Bool := slash c || c = '?' || c = '#'
  match cs with
  | a :: b :: rest =>
    if slash a && slash b then
      let hostChars := rest.takeWhile (! isEnd ·)
      let after := rest.drop hostChars.length
      let (host, pathChars) ←
        if isDriveLetter hostChars || hostChars.isEmpty then pure (none, if isDriveLetter hostChars then rest else after)
        else do
          let h ← Host.parseSpecial hostChars
          pure (if h = .domain "localhost" then none else some h, after)
      let (path, more) := readSegments true (match pathChars with
        | c :: r => if slash c then r else pathChars | [] => []) [] []
      let (query, fragment) := readQueryFragment true more
      return { scheme := "file", username := "", password := none, host, port := none,
               path := .segments path, query, fragment }
    else pure (fileWithoutHost cs)
  | _ => pure (fileWithoutHost cs)
where
  fileWithoutHost (cs : List Char) : Url :=
    let (path, more) := readSegments true (match cs with
      | c :: r => if c = '/' || c = '\\' then r else cs | [] => []) [] []
    let (query, fragment) := readQueryFragment true more
    { scheme := "file", username := "", password := none, host := none, port := none,
      path := .segments path, query, fragment }

/-- Reads a URL. -/
def parse (text : String) : Except ParseError Url := do
  let cs := (trimControls text.toList).filter fun c => c ≠ '\t' && c ≠ '\n' && c ≠ '\r'
  match cs with
  | c :: _ => if !c.isAlpha then throw .relativeUrlWithoutBase
  | [] => throw .relativeUrlWithoutBase
  let schemeChars := cs.takeWhile isSchemeChar
  let rest ← match cs.drop schemeChars.length with
    | ':' :: rest => pure rest
    | _ => throw .relativeUrlWithoutBase
  let scheme := String.ofList (lowerAscii schemeChars)
  match SchemeKind.of scheme with
  | .special => readAuthority scheme true (rest.dropWhile fun c => c = '/' || c = '\\')
  | .file => readFile rest
  | .other =>
    match rest with
    | '/' :: '/' :: more => readAuthority scheme false more
    | '/' :: more =>
      let (path, more) := readSegments false more [] []
      let (query, fragment) := readQueryFragment false more
      pure { scheme, username := "", password := none, host := none, port := none,
             path := .segments path, query, fragment }
    | _ =>
      let body := rest.takeWhile fun c => c ≠ '?' && c ≠ '#'
      let (query, fragment) := readQueryFragment false (rest.drop body.length)
      pure { scheme, username := "", password := none, host := none, port := none,
             path := .plain (String.ofList (encode .controls body)), query, fragment }

end LiveViewer.Url
