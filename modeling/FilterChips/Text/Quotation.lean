/-
FilterChips.Text.Quotation — a text between quotes, on one line and with every character visible.

Quotes and backslashes are escaped, controls have short names or the code of the character, and so
have characters that cannot be seen or that would join the one before them.
-/
import FilterChips.Text.Cluster
import FilterChips.Text.PrintableTables
import FilterChips.Text.WidthTables

namespace FilterChips

/-- The code of a character as an escape: `\u` and hexadecimal digits between braces. -/
def codeEscape (c : Char) : List Char :=
  "\\u\x7b".toList ++ Nat.toDigits 16 c.toNat ++ ['\x7d']

/-- A mark that is drawn on the character before it. -/
def isDrawnOnOther (c : Char) : Bool :=
  ClusterTables.extendRanges.contains c && !Cluster.isSoundMark c

/-- A character that leaves no trace of its own: a control, a format, a filler, a blank other than the
space, or one that is not assigned. -/
def isInvisible (c : Char) : Bool :=
  PrintableTables.hiddenRanges.contains c || WidthTables.ignorableRanges.contains c

/-- A character as it stands between quotes. -/
def quotedChar (c : Char) : List Char :=
  match c with
  | '"' => ['\\', '"']
  | '\\' => ['\\', '\\']
  | '\n' => ['\\', 'n']
  | '\r' => ['\\', 'r']
  | '\t' => ['\\', 't']
  | '\x00' => ['\\', '0']
  | _ =>
    if isDrawnOnOther c || isInvisible c then codeEscape c else [c]

/-- A text between quotes. -/
def quotation (text : String) : String :=
  String.ofList ('"' :: text.toList.flatMap quotedChar ++ ['"'])

end FilterChips
