import ChainIndex.Text.Printable
import ChainIndex.Url.Name.Table
import ChainIndex.Url.Pieces

/-!
# ChainIndex.Url.Name.Folding

Reading the characters of a host name: capitals and variant forms give way to the plain
small letters, and what a name cannot hold is told apart.
-/

namespace ChainIndex.Url.Name

/-- Whether a run has a code point. -/
def FoldRun.holds (run : FoldRun) (n : Nat) : Bool :=
  run.first ≤ n && n ≤ run.last && (n - run.first) % run.step = 0

/-- The word that a code point is read as. -/
def foldWord? (n : Nat) : Option (List Char) :=
  match (foldWords.takeWhile fun (first, _) => first ≤ n).getLast? with
  | some (first, words) => (splitOn (· = ' ') words.toList)[n - first]?
  | none => none

/-- The characters that a character of a name is read as. -/
def fold (c : Char) : List Char :=
  let n := c.toNat
  if n < 128 then [c.toLower]
  else if Text.inRanges ignoredRanges n then []
  else
    match foldRuns.find? (·.holds n) with
    | some run => [Char.ofNat (run.target + (n - run.first))]
    | none => (foldWord? n).getD [c]

/-- The two joiners, which name no character but tell how those beside them are drawn. -/
def isJoiner (c : Char) : Bool :=
  c = '\u200c' || c = '\u200d'

/-- Whether a name can hold a character: no control character, no blank, and nothing that
marks the parts of a URL. -/
def isAllowed (c : Char) : Bool :=
  if c.toNat < 128 then
    32 < c.toNat && c.toNat ≠ 127 &&
      !(['%', '#', '/', ':', '<', '>', '?', '@', '[', '\\', ']', '^', '|'].contains c)
  else
    isJoiner c ||
      (!Text.inRanges Text.unprintableRanges c.toNat && !Text.inRanges refusedRanges c.toNat)

end ChainIndex.Url.Name
