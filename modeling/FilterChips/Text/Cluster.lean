/-
FilterChips.Text.Cluster — cutting a text into the clusters of characters that a reader sees as one.

The cut follows the rules for extended grapheme clusters of Unicode: marks stay with what they mark,
the parts of a Hangul syllable, of a conjunct, of a joined emoji and of a flag stay together, and a
line break of two characters is one cluster. `flatten_clusters` says that cutting loses nothing.
-/
import FilterChips.Text.ClusterTables

namespace FilterChips

namespace Cluster

open ClusterTables

/-! ## 1. Classes -/

/-- What a character is to the rules. -/
inductive Kind where
  | carriageReturn
  | lineFeed
  | control
  | joiner
  | mark
  | regional
  | leading
  | spacing
  | hangulL
  | hangulV
  | hangulT
  | hangulLV
  | hangulLVT
  | other
  deriving DecidableEq

/-- A halfwidth sound mark of Japanese: a mark that stays with what it marks, but one that is drawn
behind it, in a column of its own. -/
def isSoundMark (c : Char) : Bool :=
  c = '\uff9e' || c = '\uff9f'

/-- The class of a character among the letters and syllables of Hangul. -/
def hangulKind? (n : Nat) : Option Kind :=
  if (0x1100 ≤ n && n ≤ 0x115f) || (0xa960 ≤ n && n ≤ 0xa97c) then some .hangulL
  else if (0x1160 ≤ n && n ≤ 0x11a7) || (0xd7b0 ≤ n && n ≤ 0xd7c6) || n = 0x16d63 ||
      (0x16d67 ≤ n && n ≤ 0x16d6a) then some .hangulV
  else if (0x11a8 ≤ n && n ≤ 0x11ff) || (0xd7cb ≤ n && n ≤ 0xd7fb) then some .hangulT
  else if 0xac00 ≤ n && n ≤ 0xd7a3 then
    some (if (n - 0xac00) % 28 = 0 then .hangulLV else .hangulLVT)
  else none

/-- The class of a character. -/
def kindOf (c : Char) : Kind :=
  let n := c.toNat
  if 0x20 ≤ n && n < 0x7f then .other
  else if n = 0x0d then .carriageReturn
  else if n = 0x0a then .lineFeed
  else if controlRanges.holds n then .control
  else if n = 0x200d then .joiner
  else if extendRanges.holds n || (0x1f3fb ≤ n && n ≤ 0x1f3ff) then .mark
  else if 0x1f1e6 ≤ n && n ≤ 0x1f1ff then .regional
  else if prependRanges.holds n then .leading
  else if spacingMarkRanges.holds n then .spacing
  else (hangulKind? n).getD .other

/-! ## 2. What came before -/

/-- How much of a conjunct of consonants stands before. -/
inductive Conjunct where
  | none
  | consonant
  | linked
  deriving DecidableEq

/-- How much of a joined emoji stands before. -/
inductive Pictograph where
  | none
  | emoji
  | joined
  deriving DecidableEq

/-- The cluster before, as far as the rules ask for it. -/
structure Before where
  kind : Kind
  /-- Whether the letters of flags before it are odd in number. -/
  oddRegional : Bool
  conjunct : Conjunct
  pictograph : Pictograph

/-- The part of a conjunct that stands before what follows `c`, when `old` stands before `c`. -/
def Conjunct.next (old : Conjunct) (c : Char) : Conjunct :=
  if consonantRanges.contains c then .consonant
  else if old = .none then .none
  else if linkerRanges.contains c then .linked
  else if (kindOf c = .mark || kindOf c = .joiner) && c ≠ '\u200c' then old
  else .none

/-- The part of a joined emoji that stands before what follows `c`, when `old` stands before `c`. -/
def Pictograph.next (old : Pictograph) (c : Char) : Pictograph :=
  if pictographicRanges.contains c then .emoji
  else if old = .emoji then
    match kindOf c with
    | .joiner => .joined
    | .mark => .emoji
    | _ => .none
  else .none

/-- The state at the beginning of a text. -/
def Before.start : Before := ⟨.control, false, .none, .none⟩

/-- The state after a character; one of ASCII takes no part in conjuncts, emoji and flags. -/
def Before.next (before : Before) (c : Char) : Before :=
  if c.toNat < 0x80 then ⟨kindOf c, false, .none, .none⟩
  else
    ⟨kindOf c, kindOf c = .regional && !before.oddRegional, before.conjunct.next c,
      before.pictograph.next c⟩

/-- Whether a character of one class stays with one of another by the rules for Hangul. -/
def joinsHangul : Kind → Kind → Bool
  | .hangulL, .hangulL | .hangulL, .hangulV | .hangulL, .hangulLV | .hangulL, .hangulLVT => true
  | .hangulLV, .hangulV | .hangulLV, .hangulT | .hangulV, .hangulV | .hangulV, .hangulT => true
  | .hangulLVT, .hangulT | .hangulT, .hangulT => true
  | _, _ => false

/-- A class that is always cut off on both sides. -/
def Kind.stands : Kind → Bool
  | .carriageReturn | .lineFeed | .control => true
  | _ => false

/-- Whether a character stays with the cluster before it. -/
def joins (before : Before) (c : Char) : Bool :=
  let k := kindOf c
  if before.kind = .carriageReturn && k = .lineFeed then true
  else if before.kind.stands || k.stands then false
  else
    k = .mark || k = .joiner || k = .spacing || before.kind = .leading ||
      joinsHangul before.kind k || (before.oddRegional && k = .regional) ||
      (before.conjunct = .linked && consonantRanges.contains c) ||
      (before.pictograph = .joined && pictographicRanges.contains c)

/-! ## 3. Clusters -/

/-- The clusters of a text that goes on after a cluster already begun. -/
def clustersAfter (current : List Char) (before : Before) : List Char → List (List Char)
  | [] => [current]
  | c :: cs =>
    let next := before.next c
    if joins before c then clustersAfter (current ++ [c]) next cs
    else current :: clustersAfter [c] next cs

theorem flatten_clustersAfter (current : List Char) (before : Before) (cs : List Char) :
    (clustersAfter current before cs).flatten = current ++ cs := by
  induction cs generalizing current before with
  | nil => simp [clustersAfter]
  | cons c cs ih =>
    simp only [clustersAfter]
    split <;> simp [ih]

end Cluster

/-- The clusters of a text. -/
def clusters : List Char → List (List Char)
  | [] => []
  | c :: cs => Cluster.clustersAfter [c] (Cluster.Before.start.next c) cs

/-- The clusters in order are the text. -/
theorem flatten_clusters (cs : List Char) : (clusters cs).flatten = cs := by
  cases cs with
  | nil => rfl
  | cons c cs => simp [clusters, Cluster.flatten_clustersAfter]

end FilterChips
