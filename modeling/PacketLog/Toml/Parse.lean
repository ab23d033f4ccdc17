import PacketLog.Toml.Document
import PacketLog.Toml.Literal

/-! # Reading a document

A document is a sequence of lines: headers, items, comments and blank lines. `parse?` answers its
tables, or nothing when it breaks a rule of notation or defines something twice. Arrays and tables
in braces nest, and dotted keys reach, only so deep.
-/

namespace PacketLog.Toml

/-- The least depth that is too deep. -/
def depthLimit : Nat := 80

/-! ## Keys -/

/-- Whether a character can stand in a key without quotes. -/
def isBareKeyChar (c : Char) : Bool := c.isAlphanum || c == '-' || c == '_'

/-- Takes one part of a key, with the blanks around it. -/
def takeKeyPart : Reader String := fun text =>
  let text := dropBlanks text
  let part := match text with
    | '"' :: rest => takeBasic rest
    | '\'' :: rest => takeLiteral rest
    | _ =>
        let name := text.takeWhile isBareKeyChar
        if name = [] then none else some (String.ofList name, text.drop name.length)
  part.map fun (name, rest) => (name, dropBlanks rest)

/-- Takes a key: the parts before the last one, and the last one. -/
def takeKey : Reader (List String × String) := fun text =>
  let (parts, rest) := Reader.separated takeKeyPart (takeChar '.') text
  match parts.getLast? with
  | some last => if parts.length < depthLimit then some ((parts.dropLast, last), rest) else none
  | none => none

/-! ## Blank space -/

/-- Drops a comment. -/
def dropComment (text : List Char) : List Char :=
  match text with
  | '#' :: rest => rest.dropWhile isPlain
  | _ => text

/-- Takes what may follow on a line, up to its end or that of the document. -/
def takeLineEnd : Reader Unit := fun text =>
  match dropComment (dropBlanks text) with
  | [] => some ((), [])
  | rest => takeNewline rest

/-- Drops blank space, comments and ends of lines. -/
def dropSpace (text : List Char) : List Char :=
  dropBlanks (Reader.many (fun text =>
    match dropBlanks text with
    | '#' :: rest => takeNewline (rest.dropWhile isPlain)
    | text => takeNewline text) text).2

/-! ## Values -/

/-- Takes a value that holds no other values. -/
def takeScalar : Reader Node := fun text =>
  match text with
  | '"' :: _ | '\'' :: _ => (takeText text).map fun (s, rest) => (.string s, rest)
  | 't' :: _ => (takeWord "true".toList text).map fun (_, rest) => (.boolean true, rest)
  | 'f' :: _ => (takeWord "false".toList text).map fun (_, rest) => (.boolean false, rest)
  | 'i' :: _ | 'n' :: _ => takeFloat text
  | c :: _ =>
      if c = '+' ∨ c = '-' ∨ isDigitIn 10 c then
        takeDateTime text <|> takeFloat text <|> takeInteger text
      else none
  | [] => none

/-- Takes the rest of an array. A comma may follow the last item. -/
def takeArray (takeItem : Reader Node) : Reader Node := fun text => do
  let item : Reader Node := fun text =>
    (takeItem (dropSpace text)).map fun (value, rest) => (value, dropSpace rest)
  let (items, text) := Reader.separated item (takeChar ',') text
  let text := if items = [] then text else (optionally (takeChar ',') text).2
  let (_, text) ← takeChar ']' (dropSpace text)
  some (.array items, text)

/-- Takes a key, an equals sign and a value. -/
def takeItem (takeValue : Reader Node) : Reader ((List String × String) × Node) := fun text => do
  let (key, text) ← takeKey text
  let (_, text) ← takeChar '=' text
  let (value, text) ← takeValue (dropBlanks text)
  some ((key, value), text)

/-- Takes the rest of a table in braces. -/
def takeInlineTable (takeValue : Reader Node) : Reader Node := fun text => do
  let item := fun text =>
    (takeItem takeValue text).map fun (item, rest) => (item, dropBlanks rest)
  let (items, text) := Reader.separated item (takeChar ',') text
  let (_, text) ← takeChar '\x7d' (dropBlanks text)
  let entries ← items.foldlM (fun (entries : Entries) item =>
    entries.define item.1.1 item.1.2 item.2) []
  some (.table .inline entries, text)

/-- Takes a value that nests at most `room` levels deep. -/
def takeValue : (room : Nat) → Reader Node
  | 0 => takeScalar
  | room + 1 => fun text =>
      match text with
      | '[' :: rest => takeArray (takeValue room) rest
      | '\x7b' :: rest => takeInlineTable (takeValue room) rest
      | _ => takeScalar text

/-! ## Lines -/

/-- What a line of a document holds. -/
inductive Line
  | nothing
  | header (header : Header)
  | item (path : List String) (key : String) (value : Node)

/-- Takes one line. -/
def takeLine : Reader Line := fun text =>
  match dropBlanks text with
  | [] => none
  | '[' :: '[' :: rest => do
      let ((path, key), rest) ← takeKey rest
      let (_, rest) ← takeWord [']', ']'] rest
      let (_, rest) ← takeLineEnd rest
      some (.header (.element path key), rest)
  | '[' :: rest => do
      let ((path, key), rest) ← takeKey rest
      let (_, rest) ← takeChar ']' rest
      let (_, rest) ← takeLineEnd rest
      some (.header (.table path key), rest)
  | text@(c :: _) =>
      if c = '#' ∨ c = '\n' ∨ c = '\r' then
        (takeLineEnd text).map fun (_, rest) => (.nothing, rest)
      else do
        let (((path, key), value), rest) ← takeItem (takeValue (depthLimit - 1)) text
        let (_, rest) ← takeLineEnd rest
        some (.item path key value, rest)

/-- Reads a line into a document. -/
def Document.read (d : Document) : Line → Option Document
  | .nothing => some d
  | .header header => d.onHeader header
  | .item path key value => d.define path key value

/-- The mark that can stand before a document to say how it is encoded. -/
def byteOrderMark : Char := Char.ofNat 0xFEFF

/-- Reads a document. -/
def parse? (text : String) : Option Entries := do
  let text := (optionally (takeChar byteOrderMark) text.toList).2
  let (lines, rest) := Reader.many takeLine text
  if dropBlanks rest ≠ [] then none
  let document ← lines.foldlM Document.read .empty
  document.finish

end PacketLog.Toml
