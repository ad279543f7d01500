import ChainIndex.Url.Name.Direction
import ChainIndex.Url.Name.Joiner
import ChainIndex.Url.Punycode

/-!
# ChainIndex.Url.Name.Ascii

The one ASCII form of a host name.

The characters of the name are folded and composed, and each label between its dots that is
not in ASCII is written in its ASCII form.  A label that already has the marker of an ASCII
form must be one: what it stands for is checked like the other labels.
-/

namespace ChainIndex.Url.Name

/-- Whether a text is in ASCII. -/
def isAscii (text : List Char) : Bool :=
  text.all fun c => c.toNat < 128

/-- The label that an ASCII form without its marker stands for; one that is not in ASCII, and
that folding and composing leave as it is. -/
def labelOfAscii? (text : List Char) : Option (List Char) := do
  if 2000 < text.length then none
  let label ← Punycode.decode? text
  if isAscii label then none
  else if label.all (fun c => isAllowed c && fold c = [c]) && Text.composed label = label then
    some label
  else none

/-- The label as it is shown. -/
def shownLabel? (label : List Char) : Option (List Char) :=
  match label with
  | 'x' :: 'n' :: '-' :: '-' :: text => labelOfAscii? text
  | _ => some label

/-- Whether a shown label is well formed: it does not start with a mark, its joiners stand
where they may, and one that is not in ASCII has at most 1000 characters. -/
def isWellFormed (label : List Char) : Bool :=
  !(label.head?.map Text.isMark).getD false && joinersStand [] label &&
    (isAscii label || label.length ≤ 1000)

/-- The ASCII form of a label. -/
def asciiLabel (label : List Char) : List Char :=
  if isAscii label then label else ['x', 'n', '-', '-'] ++ Punycode.encode label

/-- A name, given in UTF-8, in ASCII and small letters. -/
def ascii? (bytes : List UInt8) : Option (List Char) := do
  let text ← String.fromUTF8? ⟨bytes.toArray⟩
  let name := Text.composed (text.toList.flatMap fold)
  if !name.all isAllowed then none
  let labels := splitOn (· = '.') name
  let shown ← labels.mapM shownLabel?
  if shown.all isWellFormed && (!shown.any hasRightToLeft || shown.all keepsDirection) then
    some (['.'].intercalate (labels.map asciiLabel))
  else none

end ChainIndex.Url.Name
