/-!
# Similar names

When a typed name is unknown, the command line suggests the known names that resemble it. Two
names resemble each other when their Jaro similarity is above 0.7. The similarity of `a` and
`b` counts the *matches*, equal characters at most `max |a| |b| / 2 - 1` places apart, each
character matched at most once, first come first matched; and the *transpositions*, half the
number of matched characters of `a` that differ, in order, from the matched characters of `b`:

`(m / |a| + m / |b| + (m - t) / m) / 3`, and 0 without matches.

It is computed in double precision, in that order, so that a value at the threshold falls on
the same side as in any other faithful computation.
-/

namespace LiveViewer.CommandLine

/-- Marks the first unmarked character of `bs` equal to `c` among places `lo` to `hi - 1`;
answers whether one was found, and the marks. -/
def markFirst (c : Char) (bs : List Char) (lo hi : Nat) (marks : List Bool) : Bool × List Bool :=
  let rec go : List Char → List Bool → Nat → Bool × List Bool
    | b :: bs', m :: ms, j =>
      if lo ≤ j && j < hi && b == c && !m then (true, true :: ms)
      else
        let (found, ms') := go bs' ms (j + 1)
        (found, m :: ms')
    | _, ms, _ => (false, ms)
  go bs marks 0

/-- The Jaro similarity of two names. -/
def jaro (a b : String) : Float :=
  let as := a.toList
  let bs := b.toList
  if as.isEmpty && bs.isEmpty then 1.0
  else if as.isEmpty || bs.isEmpty then 0.0
  else
    let range := max as.length bs.length / 2 - 1
    let (aMarks, bMarks) := as.zipIdx.foldl (fun (acc : List Bool × List Bool) (c, i) =>
      let (found, bm) := markFirst c bs (i - range) (min bs.length (i + range + 1)) acc.2
      (acc.1 ++ [found], bm)) ([], List.replicate bs.length false)
    let aMatched := (as.zip aMarks).filterMap fun (c, m) => if m then some c else none
    let bMatched := (bs.zip bMarks).filterMap fun (c, m) => if m then some c else none
    let matched := aMatched.length
    if matched == 0 then 0.0
    else
      let transpositions := ((aMatched.zip bMatched).filter fun (x, y) => x != y).length / 2
      let m := matched.toFloat
      ((m / as.length.toFloat) + (m / bs.length.toFloat) +
        ((matched - transpositions).toFloat / m)) / 3.0

/-- The known names that resemble `typed`, least similar first; of equally similar names the
earlier stays first. -/
def similarNames (typed : String) (known : List String) : List String :=
  let scored := (known.map fun k => (jaro typed k, k)).filter (·.1 > 0.7)
  (scored.mergeSort fun x y => x.1 ≤ y.1).map (·.2)

end LiveViewer.CommandLine
