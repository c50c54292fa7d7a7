import LiveViewer.Url.Domain
import LiveViewer.Url.Percent

/-!
# Hosts

The host of a URL is a domain, an IPv4 address, an IPv6 address, or, under a scheme that is
not special, an opaque text. A special host is percent-decoded and brought to its ASCII form;
if its last label is a number it must be a whole IPv4 address, each part decimal, octal (a
leading `0`) or hexadecimal (`0x`), the last part filling the bytes the others leave. An IPv6
address is written between brackets, its groups in lowercase hexadecimal without leading
zeros and the first longest run of at least two zero groups written `::`.
-/

namespace LiveViewer.Url

/-- Why a URL could not be read. -/
inductive ParseError where
  | emptyHost
  | idnaError
  | invalidPort
  | invalidIpv4Address
  | invalidIpv6Address
  | invalidDomainCharacter
  | relativeUrlWithoutBase
  deriving DecidableEq, Repr

/-- The message of a parse error. -/
def ParseError.message : ParseError → String
  | .emptyHost => "empty host"
  | .idnaError => "invalid international domain name"
  | .invalidPort => "invalid port number"
  | .invalidIpv4Address => "invalid IPv4 address"
  | .invalidIpv6Address => "invalid IPv6 address"
  | .invalidDomainCharacter => "invalid domain character"
  | .relativeUrlWithoutBase => "relative URL without a base"

/-- The host of a URL. -/
inductive Host where
  /-- A domain name in ASCII form, or an opaque host already encoded. -/
  | domain (name : String)
  /-- An IPv4 address as a 32-bit number. -/
  | ipv4 (address : Nat)
  /-- An IPv6 address as its eight 16-bit groups. -/
  | ipv6 (groups : List Nat)
  deriving DecidableEq, Repr

/-- The lowercase hexadecimal digits of `n`. -/
def hexLower (n : Nat) : String := String.ofList (Nat.toDigits 16 n)

/-- The first longest run of zero groups, as start and length, if it has at least two. -/
def longestZeroRun (groups : List Nat) : Option (Nat × Nat) :=
  let step : (Option (Nat × Nat) × Option Nat × Nat) → Nat →
      (Option (Nat × Nat) × Option Nat × Nat) :=
    fun (best, start, i) g =>
      if g = 0 then (best, start <|> some i, i + 1)
      else (close best start i, none, i + 1)
  let (best, start, i) := groups.foldl step (none, none, 0)
  match close best start i with
  | some (s, l) => if l ≥ 2 then some (s, l) else none
  | none => none
where
  close (best : Option (Nat × Nat)) (start : Option Nat) (i : Nat) : Option (Nat × Nat) :=
    match start with
    | none => best
    | some s =>
      match best with
      | some (_, l) => if i - s > l then some (s, i - s) else best
      | none => some (s, i - s)

/-- An IPv6 address in its written form, without brackets. -/
def ipv6Text (groups : List Nat) : String :=
  match longestZeroRun groups with
  | none => ":".intercalate (groups.map hexLower)
  | some (s, l) =>
    ":".intercalate ((groups.take s).map hexLower) ++ "::" ++
      ":".intercalate ((groups.drop (s + l)).map hexLower)

/-- The host as written in a URL. -/
def Host.text : Host → String
  | .domain d => d
  | .ipv4 a => toString (a / 16777216) ++ "." ++ toString (a / 65536 % 256) ++ "." ++
      toString (a / 256 % 256) ++ "." ++ toString (a % 256)
  | .ipv6 gs => "[" ++ ipv6Text gs ++ "]"

/-- One part of an IPv4 address: `none` when it is not a number, `some none` when it does not
fit 32 bits. -/
def ipv4Number (cs : List Char) : Option (Option Nat) :=
  if cs.isEmpty then none
  else
    let (radix, digits) :=
      if cs.take 2 = ['0', 'x'] || cs.take 2 = ['0', 'X'] then (16, cs.drop 2)
      else if cs.length ≥ 2 && cs.head? = some '0' then (8, cs.drop 1)
      else (10, cs)
    if digits.isEmpty then some (some 0)
    else
      let value (c : Char) : Option Nat := hexValue c
      if digits.all (fun c => match value c with | some v => v < radix | none => false) then
        let n := digits.foldl (fun acc c => acc * radix + (value c).getD 0) 0
        some (if n < 4294967296 then some n else none)
      else none

/-- Whether a domain ends in a number, and so must be an IPv4 address. -/
def endsInNumber (d : List Char) : Bool :=
  let parts := splitDots d
  let parts := if parts.getLast? = some [] && parts.length > 1 then parts.dropLast else parts
  match parts.getLast? with
  | none => false
  | some last =>
    (!last.isEmpty && last.all (fun c => '0' ≤ c && c ≤ '9')) || (ipv4Number last).isSome

/-- An IPv4 address from a domain that ends in a number. -/
def ipv4Address (d : List Char) : Except ParseError Nat := do
  let parts := splitDots d
  let parts := if parts.getLast? = some [] then parts.dropLast else parts
  if parts.length > 4 || parts.isEmpty then throw .invalidIpv4Address
  let numbers ← parts.mapM fun p =>
    match ipv4Number p with
    | some (some n) => pure n
    | _ => throw .invalidIpv4Address
  let last := numbers.getLast?.getD 0
  let front := numbers.dropLast
  if last ≥ Nat.pow 256 (4 - front.length) then throw .invalidIpv4Address
  if front.any (· > 255) then throw .invalidIpv4Address
  pure (front.zipIdx.foldl (fun acc (n, i) => acc + n * Nat.pow 256 (3 - i)) last)

/-- Reads up to four hexadecimal digits. -/
def hexPiece : List Char → Nat → Nat → Nat × List Char
  | cs, 0, v => (v, cs)
  | [], _, v => (v, [])
  | c :: rest, k + 1, v =>
    match hexValue c with
    | some d => hexPiece rest k (v * 16 + d)
    | none => (v, c :: rest)

/-- Reads the dotted IPv4 tail of an IPv6 address into two groups. -/
def ipv4Tail (cs : List Char) : Option (List Nat) := do
  let parts := splitDots cs
  if parts.length ≠ 4 then none
  let bytes ← parts.mapM fun p =>
    if p.isEmpty || !p.all (fun c => '0' ≤ c && c ≤ '9') || (p.length > 1 && p.head? = some '0')
    then none
    else
      let n := p.foldl (fun acc c => acc * 10 + (c.toNat - 48)) 0
      if n > 255 then none else some n
  match bytes with
  | [a, b, c, d] => some [a * 256 + b, c * 256 + d]
  | _ => none

/-- The groups of an IPv6 address written without brackets. -/
def ipv6Address (cs : List Char) : Except ParseError (List Nat) := do
  let fail {α : Type} : Except ParseError α := throw .invalidIpv6Address
  if cs.length < 2 then fail
  -- a leading "::" keeps group 0 and opens the compressed run after it
  let (pieces, compress, rest) ←
    if cs.head? = some ':' then
      if cs.take 2 ≠ [':', ':'] then fail else pure ([0], some 1, cs.drop 2)
    else pure ([], none, cs)
  let rec go : Nat → List Nat → Option Nat → List Char →
      Except ParseError (List Nat × Option Nat × Option (List Char))
    | 0, ps, c, _ => pure (ps, c, none)
    | fuel + 1, ps, c, input =>
      match input with
      | [] => pure (ps, c, none)
      | ':' :: more =>
        if ps.length = 8 then throw .invalidIpv6Address
        else if c.isSome then throw .invalidIpv6Address
        else go fuel (ps ++ [0]) (some (ps.length + 1)) more
      | _ =>
        if ps.length = 8 then throw .invalidIpv6Address
        else
          let (v, after) := hexPiece input 4 0
          match after with
          | '.' :: _ =>
            if after.length = input.length then throw .invalidIpv6Address
            else if ps.length > 6 then throw .invalidIpv6Address
            else pure (ps, c, some input)
          | ':' :: more =>
            if more.isEmpty then throw .invalidIpv6Address
            else go fuel (ps ++ [v]) c more
          | [] => pure (ps ++ [v], c, none)
          | _ => throw .invalidIpv6Address
  let (ps, c, tail) ← go (rest.length + 1) pieces compress rest
  let ps ← match tail with
    | none => pure ps
    | some t =>
      match ipv4Tail t with
      | some g => pure (ps ++ g)
      | none => fail
  match c with
  | some at_ =>
    if ps.length > 8 then fail
    else pure (ps.take at_ ++ List.replicate (8 - ps.length) 0 ++ ps.drop at_)
  | none => if ps.length = 8 then pure ps else fail

/-- A host of a special URL. -/
def Host.parseSpecial (cs : List Char) : Except ParseError Host := do
  if cs.head? = some '[' then
    if cs.getLast? ≠ some ']' then throw .invalidIpv6Address
    return .ipv6 (← ipv6Address ((cs.drop 1).dropLast))
  let some decoded := utf8Decode (decodeBytes cs) | throw .idnaError
  let some ascii := domainToAscii decoded | throw .idnaError
  if ascii.isEmpty then throw .emptyHost
  if endsInNumber ascii.toList then return .ipv4 (← ipv4Address ascii.toList)
  return .domain ascii

/-- Characters an opaque host may not hold. -/
def forbiddenOpaque (c : Char) : Bool :=
  c.toNat = 0 || "\t\n\r #/:<>?@[\\]^|".toList.contains c

/-- A host of a URL whose scheme is not special. -/
def Host.parseOpaque (cs : List Char) : Except ParseError Host := do
  if cs.head? = some '[' then
    if cs.getLast? ≠ some ']' then throw .invalidIpv6Address
    return .ipv6 (← ipv6Address ((cs.drop 1).dropLast))
  if cs.any forbiddenOpaque then throw .invalidDomainCharacter
  return .domain (String.ofList (encode .controls cs))

end LiveViewer.Url
