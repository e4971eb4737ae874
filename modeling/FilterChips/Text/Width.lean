/-
FilterChips.Text.Width — how many columns a text takes on a screen.

A character alone takes no column, one or two (`columns`). In a text its neighbours matter: selectors,
modifiers and joiners make one emoji of several characters, and some letters join to a single column.
`textWidth` therefore reads a text from its end to its beginning and remembers what stands behind.
-/
import FilterChips.Text.Cluster
import FilterChips.Text.WidthTables

namespace FilterChips

namespace Width

open ClusterTables WidthTables

/-! ## 1. Characters alone -/

/-- The joiner that makes one sign of its neighbours. -/
def joiner : Char := '\u200d'

/-- A letter of a pair that makes a flag. -/
def isRegional (c : Char) : Bool :=
  0x1f1e6 ≤ c.toNat && c.toNat ≤ 0x1f1ff

/-- A colour of skin for the emoji before it. -/
def isEmojiModifier (c : Char) : Bool :=
  0x1f3fb ≤ c.toNat && c.toNat ≤ 0x1f3ff

/-- A vowel or a final consonant of a Hangul syllable, drawn within the syllable. -/
def isHangulRest (c : Char) : Bool :=
  let n := c.toNat
  (0x1160 ≤ n && n ≤ 0x11ff) || (0xd7b0 ≤ n && n ≤ 0xd7c6) || (0xd7cb ≤ n && n ≤ 0xd7fb)

/-- A sign drawn in front of the digits that it belongs to. -/
def isNumberSign (c : Char) : Bool :=
  let n := c.toNat
  (0x600 ≤ n && n ≤ 0x604) || n = 0x6dd || n = 0x110bd || n = 0x110cd

/-- A character that belongs to the one after it and is drawn within or above that. -/
def isLeadingMark (c : Char) : Bool :=
  prependRanges.contains c && !isNumberSign c

/-- A mark or filler that takes columns of its own. -/
def isStandingMark (c : Char) : Bool :=
  c = '\u115f' || c = '\u2d7f' || Cluster.isSoundMark c

/-- Whether the character takes no column. -/
def isSilent (c : Char) : Bool :=
  !isStandingMark c &&
    (ignorableRanges.contains c || extendRanges.contains c || looseMarkRanges.contains c ||
      isHangulRest c || isLeadingMark c || c = '\ua8fa')

/-- The number of columns of a character that is not a control. -/
def ofVisible (c : Char) : Nat :=
  if c.toNat < 0xa0 then 1
  else if c = '\u17a4' then 2
  else if c = '\u17d8' then 3
  else if isSilent c then 0
  else if wideRanges.contains c then 2
  else 1

/-- A control character, which takes no column on its own. -/
def isControl (c : Char) : Bool :=
  c.toNat < 0x20 || (0x7f ≤ c.toNat && c.toNat < 0xa0)

end Width

/-- The number of columns of a character on its own. -/
def columns (c : Char) : Nat :=
  if Width.isControl c then 0 else Width.ofVisible c

namespace Width

open ClusterTables WidthTables

/-! ## 2. What stands behind a character -/

/-- How many letters of flags stand between a character and the joiner behind them. -/
inductive RegionalCount where
  | one
  | even
  /-- Three or more. -/
  | odd
  deriving DecidableEq

/-- What stands behind a character, as far as it decides about widths. -/
inductive Follower where
  | plain
  | lineFeed
  | emoji
  | emojiModifier
  /-- A letter of a flag, the only one or one of several. -/
  | regional (several : Bool)
  /-- A joiner with an emoji behind it. -/
  | joinedEmoji
  /-- The frame of a key that is joined to an emoji. -/
  | joinedKeycap
  /-- Letters of a flag joined to an emoji. -/
  | joinedRegional (count : RegionalCount)
  /-- The end of the name of a region joined to an emoji: so many letters, and before them digits. -/
  | joinedName (letters digits : Nat)
  /-- A vowel sign of Kirat Rai: a single stroke, or two of them. -/
  | vowelSign (double : Bool)
  /-- An Arabic letter that a lam before it takes up. -/
  | alef
  /-- A letter that one before it may take up, possibly with a joiner before it. -/
  | letter (c : Char) (joined : Bool)
  deriving DecidableEq

/-- A letter alef with or without marks. -/
def isAlef (c : Char) : Bool :=
  [0x622, 0x623, 0x625, 0x627, 0x671, 0x672, 0x673, 0x675, 0x773, 0x774].contains c.toNat ||
    (0x870 ≤ c.toNat && c.toNat ≤ 0x882)

/-- A letter lam with or without marks. -/
def isLam (c : Char) : Bool :=
  [0x644, 0x6b5, 0x6b6, 0x6b7, 0x6b8, 0x76a, 0x8a6, 0x8c7].contains c.toNat

/-- A consonant that forms pairs in Tifinagh. -/
def isTifinagh (c : Char) : Bool :=
  (0x2d31 ≤ c.toNat && c.toNat ≤ 0x2d65) || c.toNat = 0x2d6f

/-- A Khmer letter that can stand below another. -/
def isKhmerSubscript (c : Char) : Bool :=
  let n := c.toNat
  let excepted :=
    [0x1783, 0x1788, 0x178d, 0x1794, 0x1799, 0x179a, 0x179e, 0x179f, 0x17a1, 0x17a3, 0x17a4,
      0x17a5, 0x17a6, 0x17a8, 0x17a9, 0x17aa, 0x17ad, 0x17ae]
  0x1780 ≤ n && n ≤ 0x17af && !excepted.contains n

/-- A tone letter of Lisu that one before it may take up. -/
def isLisuSecondTone (c : Char) : Bool :=
  c = '\ua4fc' || c = '\ua4fd'

/-- A letter that one before it may take up, in the scripts that form such pairs. -/
def isPairLetter (c : Char) : Bool :=
  c = '\u05dc' || c = '\u1a10' || c.toNat = 0x10c03 || isLisuSecondTone c || isTifinagh c ||
    isKhmerSubscript c

/-- Selectors and marks that may stand between the letters of such a pair. -/
def isPairTransparent (c : Char) : Bool :=
  let n := c.toNat
  n = 0x34f || n = 0x17b4 || n = 0x17b5 || (0x180b ≤ n && n ≤ 0x180d) || n = 0x180f ||
    (0xfe00 ≤ n && n ≤ 0xfe0f) || (0xe0100 ≤ n && n ≤ 0xe01ef)

/-- A mark that may stand between a lam and an alef. -/
def isTransparentMark (c : Char) : Bool :=
  ofVisible c = 0 && !nonTransparentRanges.contains c

/-- What a character is to the one before it, going by itself alone. -/
def Follower.of (c : Char) : Follower :=
  if c.toNat < 0x100 then .plain
  else if isRegional c then .regional false
  else if isEmojiModifier c then .emojiModifier
  else if isAlef c then .alef
  else if isPairLetter c then .letter c false
  else if c.toNat = 0x16d67 then .vowelSign false
  else if c.toNat = 0x16d68 then .vowelSign true
  else if emojiRanges.contains c then .emoji
  else .plain

/-- Selectors that wait for the character whose form they select. -/
structure Selectors where
  /-- A selector that asks for an emoji. -/
  emoji : Bool
  /-- A selector that asks for plain text. -/
  text : Bool
  /-- A selector that asks for a quotation mark of full width. -/
  quote : Bool
  deriving DecidableEq

/-- What stands behind a character, and the selectors between them. -/
structure Behind where
  follower : Follower
  selectors : Selectors
  deriving DecidableEq

/-- A follower with no selectors before it. -/
def Follower.alone (follower : Follower) : Behind :=
  ⟨follower, ⟨false, false, false⟩⟩

/-- Letters that may be taken up are still seen through selectors. -/
def Follower.keepsSelectors : Follower → Bool
  | .alef | .letter .. => true
  | _ => false

/-- A joiner with an emoji behind it. -/
def Follower.isJoined : Follower → Bool
  | .joinedEmoji | .joinedKeycap => true
  | _ => false

namespace Behind

/-- Nothing that decides about widths. -/
def nothing : Behind := Follower.plain.alone

/-- A selector for an emoji before what stands behind. -/
def selectEmoji (behind : Behind) : Behind :=
  let kept := if behind.follower.keepsSelectors || behind.follower.isJoined then behind else nothing
  { kept with selectors := { kept.selectors with emoji := true } }

/-- A selector for plain text before what stands behind. -/
def selectText (behind : Behind) : Behind :=
  let kept := if behind.follower.keepsSelectors then behind else nothing
  { kept with selectors := { kept.selectors with text := true } }

/-- A selector for a wide quotation mark before what stands behind. -/
def selectQuote (behind : Behind) : Behind :=
  let kept := if behind.follower.keepsSelectors then behind else nothing
  { kept with selectors := { kept.selectors with quote := true } }

/-- What is left when a selector for an emoji stands behind a character without an emoji form. -/
def dropEmoji (behind : Behind) : Behind :=
  if behind.follower.keepsSelectors then
    { behind with selectors := { behind.selectors with emoji := false } }
  else nothing

end Behind

/-! ## 3. Pairs -/

/-- A digit of the name of a region. -/
def isTagDigit (c : Char) : Bool :=
  0xe0030 ≤ c.toNat && c.toNat ≤ 0xe0039

/-- A letter of the name of a region. -/
def isTagLetter (c : Char) : Bool :=
  0xe0061 ≤ c.toNat && c.toNat ≤ 0xe007a

/-- The flag of a region: its name, read backwards, is up to six letters, of which the last four may
have three digits before them instead of more letters. -/
def beforeName? (c : Char) (letters digits : Nat) : Option (Int × Follower) :=
  if isTagLetter c && digits = 0 && letters < 6 then some (0, .joinedName (letters + 1) 0)
  else if isTagDigit c && ((digits = 0 && letters ≤ 4) || digits = 1 || digits = 2) then
    some (0, .joinedName letters (digits + 1))
  else if c.toNat = 0x1f3f4 && (digits = 3 || (digits = 0 && 3 ≤ letters)) then some (0, .emoji)
  else none

/-- The vowel signs of Kirat Rai, written with one stroke or several, take a column together. -/
def beforeVowelSign? (c : Char) (double : Bool) : Option (Int × Follower) :=
  if c.toNat = 0x16d63 then some (0, .plain)
  else if double then none
  else if c.toNat = 0x16d67 then some (0, .vowelSign true)
  else if c.toNat = 0x16d68 then some (1, .vowelSign false)
  else if c.toNat = 0x16d69 then some (0, .plain)
  else none

/-- The letters that take up a letter behind them, with a joiner in between or without one. -/
def beforeLetter? (c d : Char) (joined : Bool) : Option (Int × Follower) :=
  if c = joiner then some (0, .letter d true)
  else if isPairTransparent c then some (0, .letter d joined)
  else if c = '\u17d2' && isKhmerSubscript d then some (-1, .plain)
  else if 0xa4f8 ≤ c.toNat && c.toNat ≤ 0xa4fb && isLisuSecondTone d then some (0, .plain)
  else if c = '\u1a15' && d = '\u1a17' then some (0, .plain)
  else if c = '\u2d7f' && isTifinagh d then some (1, .letter '\u2d7f' false)
  else if isTifinagh c && d = '\u2d7f' then some (-1, .plain)
  else if !joined then none
  else if isTifinagh c && isTifinagh d then some (0, .plain)
  else if c = '\u05d0' && d = '\u05dc' then some (0, .plain)
  else if c.toNat = 0x10c32 && d.toNat = 0x10c03 then some (0, .plain)
  else if c = '\u1a17' && d = '\u1a10' then some (0, .letter '\u1a17' true)
  else none

/-- The emoji, keys, names and flags before a joiner with an emoji behind it. -/
def beforeJoinedEmoji? (c : Char) : Option (Int × Follower) :=
  if c = '\u20e3' then some (0, .joinedKeycap)
  else if isRegional c then some (1, .joinedRegional .one)
  else if isEmojiModifier c then some (0, .emojiModifier)
  else if c.toNat = 0xe007f then some (0, .joinedName 0 0)
  else if emojiRanges.contains c then some (0, .emoji)
  else none

/-- The columns that a letter of a flag adds before others that are joined to an emoji: an even number
of letters makes flags of two columns each, and the last flag is joined. -/
def beforeJoinedRegional : RegionalCount → Int × Follower
  | .even => (3, .joinedRegional .odd)
  | _ => (-1, .joinedRegional .even)

/-- The columns that a character adds before what stands behind it, by the rules for pairs; none when
no rule speaks of the pair. A rule may take back a column counted before. -/
def joined? (c : Char) (next : Follower) : Option (Int × Follower) :=
  match next with
  | .alef =>
    if isLam c then some (0, .plain)
    else if isTransparentMark c then some (0, .alef)
    else none
  | .letter d joined => beforeLetter? c d joined
  | .vowelSign double => beforeVowelSign? c double
  | .emojiModifier =>
    if c = joiner then some (0, .joinedEmoji)
    else if emojiModifierBaseRanges.contains c then some (0, .emoji)
    else none
  | .emoji => if c = joiner then some (0, .joinedEmoji) else none
  | .regional several =>
    if isRegional c then some (1, .regional true)
    else if several && c = joiner then some (0, .joinedEmoji)
    else none
  | .joinedEmoji => beforeJoinedEmoji? c
  | .joinedRegional count =>
    if isRegional c then some (beforeJoinedRegional count)
    else if c = joiner && count ≠ .one then some (0, .joinedEmoji)
    else none
  | .joinedName letters digits => beforeName? c letters digits
  | .plain | .lineFeed | .joinedKeycap => none

/-! ## 4. Texts, from the end to the beginning -/

/-- A quotation mark that has a form of full width. -/
def isQuotationMark (c : Char) : Bool :=
  c = '\u2018' || c = '\u2019' || c = '\u201c' || c = '\u201d'

/-- The columns that a character adds by the rules for pairs or else by itself. -/
def beforeFollower (c : Char) (next : Follower) : Int × Behind :=
  match joined? c next with
  | some (width, follower) => (width, follower.alone)
  | none => (ofVisible c, (Follower.of c).alone)

/-- The columns that a character adds before what stands behind it, and what it leaves to the
character before it, when no selector asks for its emoji form. -/
def beforeText (c : Char) (behind : Behind) : Int × Behind :=
  if c = '\n' then (1, Follower.lineFeed.alone)
  else if c = '\r' && behind.follower = .lineFeed then (0, .nothing)
  else if c.toNat ≤ 0xa0 then (1, .nothing)
  else if c = '\ufe0f' then (0, behind.selectEmoji)
  else if c = '\ufe0e' then (0, behind.selectText)
  else if c = '\ufe01' then (0, behind.selectQuote)
  else if behind.selectors.text && textVariantRanges.contains c then (1, .nothing)
  else if behind.selectors.quote && isQuotationMark c then (2, .nothing)
  else beforeFollower c behind.follower

/-- The columns that a character adds before what stands behind it, and what it leaves to the
character before it. A selector has no effect on a character without an emoji form. -/
def before (c : Char) (behind : Behind) : Int × Behind :=
  if behind.selectors.emoji then
    if emojiVariantRanges.contains c then
      (if behind.follower.isJoined then 0 else 2, Follower.emoji.alone)
    else beforeText c behind.dropEmoji
  else beforeText c behind

/-- The width of a text and what its first character leaves to one before it. -/
def ofText (cs : List Char) : Int × Behind :=
  cs.foldr (fun c (width, behind) => let (w, b) := before c behind; (width + w, b)) (0, .nothing)

end Width

/-- The number of columns of a text. -/
def textWidth (cs : List Char) : Nat :=
  (Width.ofText cs).1.toNat

end FilterChips
