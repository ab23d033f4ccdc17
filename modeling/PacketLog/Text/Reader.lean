/-! # Readers

A reader takes what it can from the front of a text and answers a value and the rest, or nothing. It
never answers more than it was given, which is what makes `Reader.many` end.
-/

namespace PacketLog

/-- What a reader makes of a text: a value and the rest, or nothing. -/
abbrev Reader (α : Type) := List Char → Option (α × List Char)

/-- Takes one given character. -/
def takeChar (c : Char) : Reader Unit
  | d :: rest => if d = c then some ((), rest) else none
  | [] => none

/-- Takes a given word. -/
def takeWord : (word : List Char) → Reader Unit
  | [], text => some ((), text)
  | c :: word, text => do
      let (_, text) ← takeChar c text
      takeWord word text

namespace Reader

/-- Repeats a reader for as long as it takes something. -/
def many {α : Type} (reader : Reader α) (text : List Char) : List α × List Char :=
  match reader text with
  | none => ([], text)
  | some (first, rest) =>
      if rest.length < text.length then
        let (others, rest) := many reader rest
        (first :: others, rest)
      else ([], text)
termination_by text.length

/-- Takes items with a separator between them; there may be none at all. -/
def separated {α : Type} (item : Reader α) (separator : Reader Unit) (text : List Char) :
    List α × List Char :=
  match item text with
  | none => ([], text)
  | some (first, rest) =>
      let (others, rest) := many (fun text => separator text >>= fun (_, text) => item text) rest
      (first :: others, rest)

end Reader

end PacketLog
