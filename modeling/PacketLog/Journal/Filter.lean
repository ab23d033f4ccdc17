import PacketLog.Config.CommandLine
import PacketLog.Journal.Notice

/-! # Which notices are shown

A filter is a list of directives, separated by commas. A directive is a level, a source, or both
with an equals sign between them; it can also ask for a span in brackets, and then never applies
here, because no notice is made inside one. Of the directives whose source a notice's source starts
with, the longest decides, and of equal ones the last. A source without a level shows everything.

A directive that makes no sense is left out by `Filter.lenient` and refuses the whole filter in
`Filter.strict?`.
-/

namespace PacketLog

/-- One rule of a filter: notices from sources that start with `source`, if there is one, are shown
up to some detail. A `dormant` rule asks for a span. -/
structure Directive where
  source : Option (List Char)
  detail : Nat
  dormant : Bool
  deriving DecidableEq, Repr

/-- Why a directive makes no sense. -/
inductive DirectiveError
  | malformed
  | unknownLevel
  deriving DecidableEq, Repr

/-- The text that says why a directive makes no sense. -/
def DirectiveError.message : DirectiveError → String
  | malformed => "invalid filter directive"
  | unknownLevel =>
      "error parsing level filter: expected one of \"off\", \"error\", \"warn\", \"info\"," ++
        " \"debug\", \"trace\", or a number 0-5"

namespace Directive

/-- The names of the levels, by detail. -/
def levelNames : List (List Char) :=
  ["off", "error", "warn", "info", "debug", "trace"].map String.toList

/-- The greatest detail. -/
def full : Nat := 5

/-- The detail that a level asks for: by its name, in letters of either case, or as a number. -/
def detail? (level : List Char) : Option Nat :=
  match readCount (String.ofList level) with
  | .ok detail => if detail ≤ full then some detail else none
  | .error _ => levelNames.findIdx? (· == level.map Char.toLower)

/-- The detail after an equals sign, where nothing means everything. -/
def readDetail (level : List Char) : Except DirectiveError Nat :=
  if level = [] then .ok full
  else match detail? level with
    | some detail => .ok detail
    | none => .error .unknownLevel

/-- Whether a directive can start with a character. Of the characters beyond ASCII all can. -/
def canStart (c : Char) : Bool :=
  c.isAlphanum || c == '-' || c == ':' || c == '_' || c == '[' || 128 ≤ c.toNat

/-- Reads what follows a span. -/
def afterSpan (source : Option (List Char)) : List Char → Except DirectiveError Directive
  | [] => .ok ⟨source, full, true⟩
  | '=' :: level => (readDetail level).map (⟨source, ·, true⟩)
  | _ => .error .malformed

/-- Reads a directive. -/
def read (text : List Char) : Except DirectiveError Directive :=
  if !text.head?.any canStart then .error .malformed
  else
    let name := text.takeWhile fun c => c != '=' && c != '['
    let source := if name = [] then none else some name
    match text.drop name.length with
    | [] => match detail? name with
      | some detail => .ok ⟨none, detail, false⟩
      | none => .ok ⟨source, full, false⟩
    | '=' :: level => (readDetail level).map (⟨source, ·, false⟩)
    | _ :: span => match span.dropWhile (· != ']') with
      | [] => .error .malformed
      | _ :: rest => afterSpan source rest

/-- Whether a directive has a say about a source. -/
def appliesTo (d : Directive) (source : List Char) : Bool :=
  !d.dormant && d.source.all (·.isPrefixOf source)

/-- How much of a source a directive names. -/
def reach (d : Directive) : Nat := (d.source.map List.length).getD 0

end Directive

/-- The directives of a filter. -/
structure Filter where
  directives : List Directive
  deriving DecidableEq, Repr

namespace Filter

/-- What applies when no directive is given: errors are shown. -/
def errorsOnly : Filter := ⟨[⟨none, Severity.error.detail, false⟩]⟩

/-- A filter with some directives. -/
def ofDirectives (directives : List Directive) : Filter :=
  if directives = [] then errorsOnly else ⟨directives⟩

/-- Whether a character is a space that does not count at the ends of a directive. -/
def isSpace (c : Char) : Bool := c.isWhitespace

/-- A text without the space at its ends. -/
def trimmed (text : List Char) : List Char :=
  ((text.dropWhile isSpace).reverse.dropWhile isSpace).reverse

/-- The texts between the commas of a text, without the empty ones. -/
def parts (text : String) : List String :=
  (text.splitOn ",").filter (· != "")

/-- Reads one part of a filter. -/
def readPart (part : String) : Except DirectiveError Directive :=
  Directive.read (trimmed part.toList)

/-- Reads a filter all of whose directives make sense. -/
def strict? (text : String) : Option Filter :=
  ((parts text).mapM fun part => (readPart part).toOption).map ofDirectives

/-- Reads a filter and answers also a complaint about each directive that was left out. -/
def lenient (text : String) : Filter × List String :=
  let read := (parts text).map fun part => (part, readPart part)
  (ofDirectives (read.filterMap fun (_, d) => d.toOption),
    read.filterMap fun (part, d) => match d with
      | .ok _ => none
      | .error e => some s!"ignoring `{part}`: {e.message}")

/-- The directive that decides about a source: the one that names the most of it. -/
def deciding? (filter : Filter) (source : List Char) : Option Directive :=
  filter.directives.foldl (fun best d =>
    if d.appliesTo source && best.all (·.reach ≤ d.reach) then some d else best) none

/-- Whether a filter shows a notice. -/
def shows (filter : Filter) (notice : Notice) : Bool :=
  (filter.deciding? notice.source.toList).any (notice.severity.detail ≤ ·.detail)

end Filter

end PacketLog
