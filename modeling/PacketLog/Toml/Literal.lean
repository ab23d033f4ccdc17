import PacketLog.Text.Digits
import PacketLog.Text.Reader
import PacketLog.Toml.Node

/-! # Numbers, dates, times and texts

Readers for the values of a document that hold no other values.
-/

namespace PacketLog.Toml

/-- Blanks and tabs. -/
def isBlank (c : Char) : Bool := c == ' ' || c == '\t'

/-- Drops blanks and tabs. -/
def dropBlanks (text : List Char) : List Char := text.dropWhile isBlank

/-- Takes the end of a line. -/
def takeNewline : Reader Unit
  | '\n' :: rest => some ((), rest)
  | '\r' :: '\n' :: rest => some ((), rest)
  | _ => none

/-- Takes one character of a class. -/
def takeClass (isMember : Char → Bool) : Reader Char
  | c :: rest => if isMember c then some (c, rest) else none
  | [] => none

/-- Makes a reader optional. -/
def optionally {α : Type} (reader : Reader α) (text : List Char) : Option α × List Char :=
  match reader text with
  | some (value, rest) => (some value, rest)
  | none => (none, text)

/-! ## Numbers -/

/-- Takes the digits that follow the first one, each with at most one underscore before it. -/
def takeMoreDigits (base : Nat) : List Char → List Char × List Char :=
  Reader.many fun text => takeClass (isDigitIn base) (optionally (takeChar '_') text).2

/-- Takes a row of digits. -/
def takeDigits (base : Nat) : Reader (List Char) := fun text => do
  let (first, text) ← takeClass (isDigitIn base) text
  let (more, text) := takeMoreDigits base text
  some (first :: more, text)

/-- Takes digits without a zero before others. -/
def takeDecimal : Reader (List Char)
  | '0' :: rest => some (['0'], rest)
  | text => takeDigits 10 text

/-- Takes a sign, if there is one, and answers whether it is a minus. -/
def takeSign (text : List Char) : Bool × List Char :=
  match text with
  | '-' :: rest => (true, rest)
  | '+' :: rest => (false, rest)
  | _ => (false, text)

/-- The least and the greatest integer of a document. -/
def integerRange : Int × Int := (Int64.minValue.toInt, Int64.maxValue.toInt)

/-- An integer, if a document can hold it. -/
def integer? (value : Int) : Option Node :=
  if integerRange.1 ≤ value ∧ value ≤ integerRange.2 then some (.integer value) else none

/-- The base that a mark stands for. -/
def baseMark : Char → Option Nat
  | 'x' => some 16
  | 'o' => some 8
  | 'b' => some 2
  | _ => none

/-- Takes an integer in decimal digits. -/
def takeDecimalInteger : Reader Node := fun text => do
  let (negative, text) := takeSign text
  let (digits, text) ← takeDecimal text
  let size : Int := digitsValue 10 digits
  some (← integer? (if negative then -size else size), text)

/-- Takes an integer. A base other than ten is marked and goes without a sign. -/
def takeInteger : Reader Node
  | '0' :: mark :: rest =>
      match baseMark mark with
      | some base => do
          let (digits, rest) ← takeDigits base rest
          some (← integer? (digitsValue base digits : Nat), rest)
      | none => takeDecimalInteger ('0' :: mark :: rest)
  | text => takeDecimalInteger text

/-- Takes an exponent and the mark before it. -/
def takeExponent : Reader Int := fun text => do
  let (_, text) ← takeClass (fun c => c == 'e' || c == 'E') text
  let (negative, text) := takeSign text
  let (digits, text) ← takeDigits 10 text
  let size : Int := digitsValue 10 digits
  some (if negative then -size else size, text)

/-- Takes the digits after a point, and the point. -/
def takeFraction : Reader (List Char) := fun text => do
  let (_, text) ← takeChar '.' text
  takeDigits 10 text

/-- Takes a number with a fraction, an exponent, or both. -/
def takeFinite : Reader FloatValue := fun text => do
  let (negative, text) := takeSign text
  let (whole, text) ← takeDecimal text
  let (fraction, afterFraction) := optionally takeFraction text
  let (exponent, rest) := optionally takeExponent afterFraction
  if fraction = none ∧ exponent = none then none
  let places := fraction.getD []
  let value : FloatValue :=
    .finite negative (digitsValue 10 (whole ++ places)) (exponent.getD 0 - places.length)
  if value.isTooGreat then none else some (value, rest)

/-- Takes one of the names for what is no number. -/
def takeSpecial : Reader FloatValue := fun text =>
  let (negative, text) := takeSign text
  match takeWord "inf".toList text with
  | some (_, rest) => some (.infinity negative, rest)
  | none => do
      let (_, rest) ← takeWord "nan".toList text
      some (.notNumber, rest)

/-- Takes a floating-point number. -/
def takeFloat : Reader Node := fun text => do
  let (value, rest) ← takeFinite text <|> takeSpecial text
  some (.float value, rest)

/-! ## Dates and times -/

/-- Takes a number of exactly `count` digits within a range. -/
def takeField (count low high : Nat) : Reader Nat := fun text =>
  let digits := text.take count
  let value := digitsValue 10 digits
  if digits.length = count ∧ digits.all (isDigitIn 10) ∧ low ≤ value ∧ value ≤ high then
    some (value, text.drop count)
  else none

/-- The days of a month. -/
def monthDays (year month : Nat) : Nat :=
  if month = 2 then
    if year % 4 = 0 ∧ (year % 100 ≠ 0 ∨ year % 400 = 0) then 29 else 28
  else if month = 4 ∨ month = 6 ∨ month = 9 ∨ month = 11 then 30
  else 31

/-- Takes a date. -/
def takeDate : Reader Unit := fun text => do
  let (year, text) ← takeField 4 0 9999 text
  let (_, text) ← takeChar '-' text
  let (month, text) ← takeField 2 1 12 text
  let (_, text) ← takeChar '-' text
  let (_, text) ← takeField 2 1 (monthDays year month) text
  some ((), text)

/-- Takes a time of day. -/
def takeTime : Reader Unit := fun text => do
  let (_, text) ← takeField 2 0 23 text
  let (_, text) ← takeChar ':' text
  let (_, text) ← takeField 2 0 59 text
  let (_, text) ← takeChar ':' text
  let (_, text) ← takeField 2 0 60 text
  match text with
  | '.' :: d :: rest =>
      if isDigitIn 10 d then some ((), rest.dropWhile (isDigitIn 10)) else none
  | '.' :: _ => none
  | _ => some ((), text)

/-- Takes a distance from universal time. -/
def takeOffset : Reader Unit := fun text =>
  match text with
  | sign :: rest =>
      if sign = 'Z' ∨ sign = 'z' then some ((), rest)
      else if sign = '+' ∨ sign = '-' then do
        let (_, rest) ← takeField 2 0 23 rest
        let (_, rest) ← takeChar ':' rest
        let (_, rest) ← takeField 2 0 59 rest
        some ((), rest)
      else none
  | [] => none

/-- Takes a time that follows a date, and the mark between them. -/
def takeTimeAfterDate : Reader Unit := fun text => do
  let (_, text) ← takeClass (fun c => c == 'T' || c == 't' || c == ' ') text
  let (_, text) ← takeTime text
  some ((), (optionally takeOffset text).2)

/-- Takes a date, a time, or both. -/
def takeDateTime : Reader Node := fun text => do
  let rest ← match takeDate text with
    | some (_, rest) => some (optionally takeTimeAfterDate rest).2
    | none => (takeTime text).map (·.2)
  some (.datetime (String.ofList (text.take (text.length - rest.length))), rest)

/-! ## Texts -/

/-- Whether a character can stand in a document: no control character but the tab. -/
def isPlain (c : Char) : Bool := c == '\t' || (' ' ≤ c && c != Char.ofNat 0x7F)

/-- Takes the character a number of hexadecimal digits stands for. -/
def takeCodePoint (count : Nat) : Reader Char := fun text =>
  let digits := text.take count
  let value := digitsValue 16 digits
  if digits.length = count ∧ digits.all (isDigitIn 16) ∧ value.isValidChar then
    some (Char.ofNat value, text.drop count)
  else none

/-- Takes what follows a backslash. -/
def takeEscape : Reader Char
  | 'b' :: rest => some (Char.ofNat 8, rest)
  | 'f' :: rest => some (Char.ofNat 12, rest)
  | 'n' :: rest => some ('\n', rest)
  | 'r' :: rest => some ('\r', rest)
  | 't' :: rest => some ('\t', rest)
  | '"' :: rest => some ('"', rest)
  | '\\' :: rest => some ('\\', rest)
  | 'u' :: rest => takeCodePoint 4 rest
  | 'U' :: rest => takeCodePoint 8 rest
  | _ => none

/-- Takes one character of a text in double quotes. -/
def takeBasicChar : Reader Char
  | '\\' :: rest => takeEscape rest
  | c :: rest => if isPlain c ∧ c ≠ '"' then some (c, rest) else none
  | [] => none

/-- Takes the rest of a text in double quotes. -/
def takeBasic : Reader String := fun text => do
  let (content, text) := Reader.many takeBasicChar text
  let (_, text) ← takeChar '"' text
  some (String.ofList content, text)

/-- Takes the rest of a text in single quotes. -/
def takeLiteral : Reader String := fun text => do
  let content := text.takeWhile fun c => isPlain c && c != '\''
  let (_, rest) ← takeChar '\'' (text.drop content.length)
  some (String.ofList content, rest)

/-- Takes the end of a line and everything blank after it. -/
def takeBlankLines : Reader Unit := fun text => do
  let (_, text) ← takeNewline text
  some ((), (Reader.many (fun text => takeNewline text <|>
    (takeClass isBlank text).map fun (_, rest) => ((), rest)) text).2)

/-- Takes one character of a text of several lines in double quotes, or a joint of lines, which
stands for nothing. -/
def takeBasicLineChar : Reader (List Char) := fun text =>
  let joint := do
    let (_, text) ← takeChar '\\' text
    let (_, text) ← takeBlankLines (dropBlanks text)
    some (([] : List Char), text)
  joint <|> (takeNewline text).map (fun (_, rest) => (['\n'], rest)) <|>
    (takeBasicChar text).map fun (c, rest) => ([c], rest)

/-- Takes one character of a text of several lines in single quotes. -/
def takeLiteralLineChar : Reader (List Char) := fun text =>
  (takeNewline text).map (fun (_, rest) => (['\n'], rest)) <|>
    (takeClass (fun c => isPlain c && c != '\'') text).map fun (c, rest) => ([c], rest)

/-- Takes the rest of a text of several lines. One or two quotes in a row belong to the text, and so
do the first ones of the four or five that end it. -/
def takeLines (quote : Char) (takeContent : Reader (List Char)) : Reader String := fun text =>
  let text := (optionally takeNewline text).2
  let quotes (count : Nat) := List.replicate count quote
  let takeInner : Reader (List Char) := fun text =>
    match (takeWord (quotes 2) text).filter (fun (_, rest) => (takeContent rest).isSome) with
    | some (_, rest) => some (quotes 2, rest)
    | none =>
        match (takeWord (quotes 1) text).filter (fun (_, rest) => (takeContent rest).isSome) with
        | some (_, rest) => some (quotes 1, rest)
        | none => none
  let takePiece : Reader (List Char) := fun text =>
    match takeContent text with
    | some (content, rest) => some (content, rest)
    | none => takeInner text
  let (pieces, text) := Reader.many takePiece text
  let content := pieces.flatten
  match takeWord (quotes 5) text with
  | some (_, rest) => some (String.ofList (content ++ quotes 2), rest)
  | none =>
      match takeWord (quotes 4) text with
      | some (_, rest) => some (String.ofList (content ++ quotes 1), rest)
      | none => (takeWord (quotes 3) text).map fun (_, rest) => (String.ofList content, rest)

/-- Takes a text in any of its four forms. -/
def takeText : Reader String
  | '"' :: '"' :: '"' :: rest => takeLines '"' takeBasicLineChar rest
  | '\'' :: '\'' :: '\'' :: rest => takeLines '\'' takeLiteralLineChar rest
  | '"' :: rest => takeBasic rest
  | '\'' :: rest => takeLiteral rest
  | _ => none

end PacketLog.Toml
