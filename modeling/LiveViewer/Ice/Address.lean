import LiveViewer.Url.Percent

/-!
# IP addresses in candidates

An ICE candidate names its address as an IPv4 or IPv6 address in the strict written forms:

* IPv4 is four decimal parts of at most three digits, each below 256, joined by dots, and no
  part written with a leading zero;
* IPv6 is up to eight hexadecimal groups of at most four digits joined by colons, with at most
  one `::` standing for one or more zero groups, and possibly an IPv4 address in place of the
  last two groups (but not before the `::`).

The whole text must be the address: no brackets, zone, port or anything after it. A text that
reads as the start of an IPv4 address is judged as one and never also tried as IPv6.
-/

namespace LiveViewer.Ice

/-- An IP address. -/
inductive IpAddress where
  /-- An IPv4 address by its four parts. -/
  | v4 (parts : List Nat)
  /-- An IPv6 address by its eight groups. -/
  | v6 (groups : List Nat)
  deriving DecidableEq, Repr

/-- Reads a number at the front of `cs` in `radix`: all the digits there, at most `width`, with
a value below `bound`, and without a leading zero unless `zeros` allows it. -/
def number (radix width bound : Nat) (zeros : Bool) (cs : List Char) : Option (Nat × List Char) :=
  let digit (c : Char) : Option Nat :=
    match Url.hexValue c with
    | some v => if v < radix then some v else none
    | none => none
  let run := cs.takeWhile fun c => (digit c).isSome
  let value := run.foldl (fun acc c => acc * radix + (digit c).getD 0) 0
  if run.isEmpty || run.length > width || value ≥ bound then none
  else if !zeros && run.length > 1 && run.head? == some '0' then none
  else some (value, cs.drop run.length)

/-- Reads an IPv4 address at the front of `cs`: its parts and the rest. -/
def ipv4Prefix (cs : List Char) : Option (List Nat × List Char) := do
  let (a, cs) ← number 10 3 256 false cs
  let cs ← match cs with | '.' :: r => some r | _ => none
  let (b, cs) ← number 10 3 256 false cs
  let cs ← match cs with | '.' :: r => some r | _ => none
  let (c, cs) ← number 10 3 256 false cs
  let cs ← match cs with | '.' :: r => some r | _ => none
  let (d, cs) ← number 10 3 256 false cs
  return ([a, b, c, d], cs)

/-- Reads up to `fuel` colon-separated groups at the front of `cs`, the first being group `i`
of at most `limit`: the groups, whether an IPv4 address ended them, and the rest. A separator
that no group follows is left unread. -/
def readGroups (limit : Nat) : (i fuel : Nat) → List Char → List Nat × Bool × List Char
  | _, 0, cs => ([], false, cs)
  | i, fuel + 1, cs =>
    let afterSep : Option (List Char) :=
      if i > 0 then (match cs with | ':' :: r => some r | _ => none) else some cs
    let v4 := if i + 1 < limit then afterSep.bind ipv4Prefix else none
    match v4 with
    | some (parts, rest) =>
      ([parts.headD 0 * 256 + parts.getD 1 0, parts.getD 2 0 * 256 + parts.getD 3 0], true, rest)
    | none =>
      match afterSep.bind (number 16 4 65536 true) with
      | some (g, rest) =>
        let (gs, v4, rest) := readGroups limit (i + 1) fuel rest
        (g :: gs, v4, rest)
      | none => ([], false, cs)

/-- Reads an IPv6 address at the front of `cs`: its groups and the rest. -/
def ipv6Prefix (cs : List Char) : Option (List Nat × List Char) :=
  let (head, headV4, rest) := readGroups 8 0 8 cs
  if head.length == 8 then some (head, rest)
  else if headV4 then none
  else
    match rest with
    | ':' :: ':' :: rest =>
      let limit := 8 - (head.length + 1)
      let (tail, _, rest) := readGroups limit 0 limit rest
      some (head ++ List.replicate (8 - head.length - tail.length) 0 ++ tail, rest)
    | _ => none

/-- Reads an IP address that is the whole of `text`. -/
def IpAddress.read (text : String) : Option IpAddress :=
  let cs := text.toList
  match ipv4Prefix cs with
  | some (parts, []) => some (.v4 parts)
  | some _ => none
  | none =>
    match ipv6Prefix cs with
    | some (groups, []) => some (.v6 groups)
    | _ => none

end LiveViewer.Ice
