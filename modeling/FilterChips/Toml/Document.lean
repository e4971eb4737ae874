/-
FilterChips.Toml.Document — reading a TOML document.

A document is read line by line into one table. Keys may not be set twice, a table may have one header
only, and what braces or dotted keys have built cannot be reopened by a header.
-/
import FilterChips.Toml.Quoted
import FilterChips.Toml.Scalar

namespace FilterChips

namespace Toml

/-! ## 1. Building tables -/

namespace Entries

/-- The entries with a value under a dotted key, whose parts name tables within tables. The table that
takes the value must not have been made otherwise than by dotted keys. -/
def add (entries : Entries) (v : Value) : List String → Option Entries
  | [] => none
  | [key] => if (entries.get? key).isSome then none else some (entries ++ [(key, v)])
  | key :: next :: path =>
    match entries.get? key with
    | none => do
      let inner ← add [] v (next :: path)
      some (entries ++ [(key, .table .dotted inner)])
    | some (.table form inner) =>
      if form = .dotted ∨ (form = .implied ∧ path ≠ []) then do
        let inner ← add inner v (next :: path)
        some (entries.set key (.table form inner))
      else none
    | some (.tables (last :: others)) =>
      if path = [] then none
      else do
        let last ← add last v (next :: path)
        some (entries.set key (.tables (last :: others)))
    | some _ => none

/-- Changes the table that a header names, the last one of several; a missing table is implied. -/
def update (f : Entries → Option Entries) (entries : Entries) : List String → Option Entries
  | [] => f entries
  | key :: path =>
    match entries.get? key with
    | none => do
      let inner ← update f [] path
      some (entries ++ [(key, .table .implied inner)])
    | some (.table form inner) =>
      if form = .braces then none
      else do
        let inner ← update f inner path
        some (entries.set key (.table form inner))
    | some (.tables (last :: others)) => do
      let last ← update f last path
      some (entries.set key (.tables (last :: others)))
    | some _ => none

/-- Makes the table of a header; only one that was merely implied may be there already. -/
def openTable (key : String) (entries : Entries) : Option Entries :=
  match entries.get? key with
  | none => some (entries ++ [(key, .table .header [])])
  | some (.table .implied inner) => some (entries.set key (.table .header inner))
  | some _ => none

/-- Makes a further table of a header between double brackets. -/
def openItem (key : String) (entries : Entries) : Option Entries :=
  match entries.get? key with
  | none => some (entries ++ [(key, .tables [[]])])
  | some (.tables items) => some (entries.set key (.tables ([] :: items)))
  | some _ => none

end Entries

/-! ## 2. Blanks, comments and keys -/

/-- What follows blanks, line feeds and comments. -/
def skipLines (inComment : Bool) : List Char → Option (List Char)
  | [] => some []
  | '\n' :: cs => skipLines false cs
  | '\r' :: '\n' :: cs => skipLines false cs
  | c :: cs =>
    if inComment then if isPlain c then skipLines true cs else none
    else if c = '#' then skipLines true cs
    else if isSpace c then skipLines false cs
    else some (c :: cs)

/-- What follows the end of a line, after blanks and a comment. -/
def endLine (cs : List Char) : Option (List Char) :=
  let cs := cs.dropWhile isSpace
  let cs := if cs.head? = some '#' then cs.dropWhile isPlain else cs
  match cs with
  | [] => some []
  | '\n' :: rest => some rest
  | '\r' :: '\n' :: rest => some rest
  | _ => none

/-- A character of a key without quotes. -/
def isBare (c : Char) : Bool :=
  c.isAlphanum || c = '_' || c = '-'

/-- One part of a key. -/
def readKeyPart (cs : List Char) : Option (String × List Char) :=
  if cs.head? = some '"' ∨ cs.head? = some '\'' then
    (quotedOnLine cs).map fun (text, rest) => (String.ofList text, rest)
  else
    let part := cs.takeWhile isBare
    if part = [] then none else some (String.ofList part, cs.dropWhile isBare)

/-- A key: parts with dots between them, and blanks around all of them. -/
def readKeyParts (cs : List Char) : Option (List String × List Char) := do
  let (part, rest) ← readKeyPart (cs.dropWhile isSpace)
  match rest.dropWhile isSpace with
  | '.' :: more =>
    if more.length < cs.length then do
      let (parts, rest) ← readKeyParts more
      some (part :: parts, rest)
    else none
  | rest => some ([part], rest)
termination_by cs.length

/-- The depth to which keys and values may be nested. -/
def depthLimit : Nat := 80

/-- A key of fewer parts than the limit. -/
def readKey (cs : List Char) : Option (List String × List Char) := do
  let (parts, rest) ← readKeyParts cs
  if parts.length < depthLimit then some (parts, rest) else none

/-! ## 3. Values -/

/-- A character that ends a scalar. -/
def endsScalar (c : Char) : Bool :=
  isSpace c || c = '\n' || c = '\r' || c = ',' || c = ']' || c = '}' || c = '#'

/-- The characters up to the end of a scalar. -/
def scalarText (cs : List Char) : List Char :=
  cs.takeWhile fun c => !endsScalar c

/-- A scalar without quotes; a blank may stand between a date and a time. -/
def readScalar (cs : List Char) : Option (Value × List Char) :=
  let text := scalarText cs
  let rest := cs.drop text.length
  let time := scalarText rest.tail
  if afterDate? text = some [] ∧ rest.head? = some ' ' ∧ isTimeWithOffset time then
    some (.date, rest.tail.drop time.length)
  else (scalar? text).map fun v => (v, rest)

/-- The items of an array and what follows it. -/
def readItems (item : List Char → Option (Value × List Char)) (cs : List Char) :
    Option (List Value × List Char) := do
  match ← skipLines false cs with
  | ']' :: rest => some ([], rest)
  | start =>
    let (v, rest) ← item start
    match ← skipLines false rest with
    | ',' :: more =>
      if more.length < cs.length then do
        let (vs, rest) ← readItems item more
        some (v :: vs, rest)
      else none
    | ']' :: more => some ([v], more)
    | _ => none
termination_by cs.length

/-- The pairs of a table between braces and what follows it. -/
def readPairs (item : List Char → Option (Value × List Char)) (cs : List Char) :
    Option (List (List String × Value) × List Char) := do
  let (key, rest) ← readKey cs
  let (v, rest) ← item ((← expect? '=' rest).dropWhile isSpace)
  match rest.dropWhile isSpace with
  | ',' :: more =>
    if more.length < cs.length then do
      let (pairs, rest) ← readPairs item more
      some ((key, v) :: pairs, rest)
    else none
  | '}' :: more => some ([(key, v)], more)
  | _ => none
termination_by cs.length

/-- A value, with arrays and tables nested to fewer levels than `depth`. -/
def readValue : (depth : Nat) → List Char → Option (Value × List Char)
  | 0, _ => none
  | depth + 1, cs =>
    match cs with
    | '[' :: rest =>
      if depth = 0 then none
      else (readItems (readValue depth) rest).map fun (items, rest) => (.array items, rest)
    | '{' :: rest =>
      if depth = 0 then none
      else
        match rest.dropWhile isSpace with
        | '}' :: rest => some (.table .braces [], rest)
        | _ => do
          let (pairs, rest) ← readPairs (readValue depth) rest
          let entries ← pairs.foldlM (fun (es : Entries) (key, v) => es.add v key) []
          some (.table .braces entries, rest)
    | '"' :: _ => (quoted cs).map fun (text, rest) => (.string (String.ofList text), rest)
    | '\'' :: _ => (quoted cs).map fun (text, rest) => (.string (String.ofList text), rest)
    | _ => readScalar cs

/-! ## 4. Documents -/

/-- The table built so far, and the header in force. -/
structure Progress where
  root : Entries
  header : List String

/-- A header and the end of its line. -/
def readHeader (p : Progress) (opened : String → Entries → Option Entries) (closing : List Char)
    (cs : List Char) : Option (Progress × List Char) := do
  let (key, rest) ← readKey cs
  let rest ← closing.foldlM (fun cs c => expect? c cs) rest
  let last ← key.getLast?
  let root ← p.root.update (opened last) key.dropLast
  some (⟨root, key⟩, ← endLine rest)

/-- A key with its value and the end of its line. -/
def readPair (p : Progress) (cs : List Char) : Option (Progress × List Char) := do
  let (key, rest) ← readKey cs
  let (v, rest) ← readValue depthLimit ((← expect? '=' rest).dropWhile isSpace)
  let root ← p.root.update (·.add v key) p.header
  some ({ p with root }, ← endLine rest)

/-- One line of a document. -/
def readLine (p : Progress) (cs : List Char) : Option (Progress × List Char) :=
  match cs.dropWhile isSpace with
  | '[' :: '[' :: rest => readHeader p Entries.openItem [']', ']'] rest
  | '[' :: rest => readHeader p Entries.openTable [']'] rest
  | rest =>
    match endLine rest with
    | some rest => some (p, rest)
    | none => readPair p rest

/-- The lines of a document. -/
def readLines (p : Progress) (cs : List Char) : Option Entries :=
  if cs = [] then some p.root
  else
    match readLine p cs with
    | none => none
    | some (next, rest) => if rest.length < cs.length then readLines next rest else none
termination_by cs.length

/-- The table of a document; a byte order mark at its beginning is passed over. -/
def read? (text : String) : Option Entries :=
  match text.toList with
  | '\ufeff' :: cs => readLines ⟨[], []⟩ cs
  | cs => readLines ⟨[], []⟩ cs

end Toml

end FilterChips
