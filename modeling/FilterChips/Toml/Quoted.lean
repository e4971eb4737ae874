/-
FilterChips.Toml.Quoted — the four kinds of strings of TOML.

Basic strings know escapes and literal strings do not; each kind may stand on one line or, between
three quotes, on several. A string on several lines may hold one or two quotes in a row, also right
before its end, and a line feed right after its beginning does not belong to it.
-/
namespace FilterChips

namespace Toml

/-- A blank within a line. -/
def isSpace (c : Char) : Bool :=
  c = ' ' || c = '\t'

/-- A character that may stand in a comment or a string as it is. -/
def isPlain (c : Char) : Bool :=
  c = '\t' || (0x20 ≤ c.toNat && c.toNat ≠ 0x7f)

/-- The value of a hexadecimal digit. -/
def hexDigit? (c : Char) : Option Nat :=
  if c.isDigit then some (c.toNat - '0'.toNat)
  else if 'a' ≤ c ∧ c ≤ 'f' then some (c.toNat - 'a'.toNat + 10)
  else if 'A' ≤ c ∧ c ≤ 'F' then some (c.toNat - 'A'.toNat + 10)
  else none

/-- The character with a hexadecimal code point. -/
def ofHex? (digits : List Char) : Option Char := do
  let n ← digits.foldlM (fun n c => (hexDigit? c).map (16 * n + ·)) 0
  if n.isValidChar then some (Char.ofNat n) else none

/-- The character that a letter after a backslash stands for. -/
def escaped? : Char → Option Char
  | 'b' => some '\x08'
  | 't' => some '\t'
  | 'n' => some '\n'
  | 'f' => some '\x0c'
  | 'r' => some '\r'
  | '"' => some '"'
  | '\\' => some '\\'
  | _ => none

/-- A text read so far and what follows it. -/
abbrev Read := Option (List Char × List Char)

/-- The text with a character put in front. -/
def push (c : Char) (r : Read) : Read :=
  r.map fun (text, rest) => (c :: text, rest)

/-- The text with the character of a code, if it is one, put in front. -/
def pushHex (digits : List Char) (r : Read) : Read :=
  (ofHex? digits).bind (push · r)

/-- The rest of a basic string on one line. -/
def basic : List Char → Read
  | [] => none
  | '"' :: cs => some ([], cs)
  | '\\' :: 'u' :: a :: b :: c :: d :: cs => pushHex [a, b, c, d] (basic cs)
  | '\\' :: 'U' :: a :: b :: c :: d :: e :: f :: g :: h :: cs =>
    pushHex [a, b, c, d, e, f, g, h] (basic cs)
  | '\\' :: e :: cs => (escaped? e).bind (push · (basic cs))
  | c :: cs => if isPlain c && c ≠ '\\' then push c (basic cs) else none

/-- The rest of a literal string on one line. -/
def literal : List Char → Read
  | [] => none
  | '\'' :: cs => some ([], cs)
  | c :: cs => if isPlain c then push c (literal cs) else none

/-- Whether a backslash before these characters joins its line to the next ones. -/
def joinsLines (cs : List Char) : Bool :=
  match cs.dropWhile isSpace with
  | '\n' :: _ => true
  | '\r' :: '\n' :: _ => true
  | _ => false

/-- The end of a string on several lines, after its first three closing quotes: up to two more quotes
belong to the string. -/
def closeLines (quote : Char) : List Char → Read
  | [] => some ([], [])
  | [c] => if c = quote then some ([quote], []) else some ([], [c])
  | c :: d :: cs =>
    if c = quote then if d = quote then some ([quote, quote], cs) else some ([quote], d :: cs)
    else some ([], c :: d :: cs)

/-- The rest of a basic string on several lines. While `joining`, blanks and line feeds are dropped. -/
def basicLines (joining : Bool) : List Char → Read
  | [] => none
  | '"' :: '"' :: '"' :: cs => closeLines '"' cs
  | '\r' :: '\n' :: cs => if joining then basicLines true cs else push '\n' (basicLines false cs)
  | '\\' :: 'u' :: a :: b :: c :: d :: cs => pushHex [a, b, c, d] (basicLines false cs)
  | '\\' :: 'U' :: a :: b :: c :: d :: e :: f :: g :: h :: cs =>
    pushHex [a, b, c, d, e, f, g, h] (basicLines false cs)
  | '\\' :: c :: cs =>
    if joinsLines (c :: cs) then basicLines true (c :: cs)
    else (escaped? c).bind (push · (basicLines false cs))
  | c :: cs =>
    if joining && (isSpace c || c = '\n') then basicLines true cs
    else if (isPlain c && c ≠ '\\') || c = '\n' then push c (basicLines false cs)
    else none

/-- The rest of a literal string on several lines. -/
def literalLines : List Char → Read
  | [] => none
  | '\'' :: '\'' :: '\'' :: cs => closeLines '\'' cs
  | '\r' :: '\n' :: cs => push '\n' (literalLines cs)
  | c :: cs => if isPlain c || c = '\n' then push c (literalLines cs) else none

/-- A text without a line feed at its beginning. -/
def dropLineFeed : List Char → List Char
  | '\n' :: cs => cs
  | '\r' :: '\n' :: cs => cs
  | cs => cs

/-- A string on one line. -/
def quotedOnLine : List Char → Read
  | '"' :: cs => basic cs
  | '\'' :: cs => literal cs
  | _ => none

/-- A string of any kind. -/
def quoted : List Char → Read
  | '"' :: '"' :: '"' :: cs => basicLines false (dropLineFeed cs)
  | '\'' :: '\'' :: '\'' :: cs => literalLines (dropLineFeed cs)
  | cs => quotedOnLine cs

end Toml

end FilterChips
