/-
FilterChips.Text.LowerCase — the lower case of a text.

Capitals become their small letters one by one, with two exceptions: `İ` becomes `i` with a dot above,
and a sigma that ends a word becomes the final form `ς`. A sigma ends a word when a letter with case
stands before it and none after it, where marks and other characters without influence on case are
passed over.
-/
import FilterChips.Text.LetterCase

namespace FilterChips

namespace LetterCase

/-- Whether the character has case. -/
def isCased (c : Char) : Bool :=
  if c.toNat < 128 then c.isAlpha else casedRanges.contains c

/-- Whether the character is passed over when the surroundings of a sigma are looked at. -/
def isIgnorable (c : Char) : Bool :=
  ignorableRanges.contains c

/-- Whether, ignorable characters aside, the text begins with a letter that has case. -/
def beginsCased (cs : List Char) : Bool :=
  (cs.dropWhile isIgnorable).head?.any isCased

/-- The small letter of a capital beyond ASCII; any other character is itself. -/
def smallOfRuns (c : Char) : Char :=
  let n := c.toNat
  match capitalRuns.find? fun (first, last, step, _) =>
      first ≤ n && n ≤ last && (n - first) % step = 0 with
  | some (first, _, _, small) => Char.ofNat (small + (n - first))
  | none => c

/-- The lower case of one character on its own. -/
def small (c : Char) : List Char :=
  if c.toNat < 128 then [c.toLower]
  else if c = 'İ' then ['i', '\u0307']
  else [smallOfRuns c]

/-- The lower case of a text that follows the characters `before`, the last of them first. -/
def lowerAfter (before : List Char) : List Char → List Char
  | [] => []
  | c :: cs =>
    let here :=
      if c = 'Σ' then [if beginsCased before && !beginsCased cs then 'ς' else 'σ'] else small c
    here ++ lowerAfter (c :: before) cs

end LetterCase

/-- The lower case of a text. -/
def lowerCase (text : List Char) : List Char :=
  LetterCase.lowerAfter [] text

end FilterChips
