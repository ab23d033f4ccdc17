import PacketLog.Config.Settings
import PacketLog.Text.Quoted
import PacketLog.Toml.Parse

/-! # Configuration files

A configuration file is a document with up to four parts, each a table of settings or a row of them
in a fixed order. What it does not know is ignored; a known setting of the wrong kind is an error.
Errors are found in the order of the document.
-/

namespace PacketLog

/-- What a document holds in some place, as far as an error tells. -/
inductive Found
  | integer (value : Int)
  | float (value : FloatValue)
  | string (text : String)
  | boolean (value : Bool)
  | sequence
  | map
  deriving DecidableEq, Repr

/-- The kind of what a document holds. Dates and times are tables of one entry. -/
def Found.ofNode : Toml.Node → Found
  | .string text => .string text
  | .integer value => .integer value
  | .float value => .float value
  | .boolean value => .boolean value
  | .datetime _ => .map
  | .array _ => .sequence
  | .table _ _ => .map
  | .tables _ => .sequence

/-- The text that tells what a document holds. -/
def Found.text : Found → String
  | .integer value => "integer `" ++ toString value ++ "`"
  | .float value => "floating point `" ++ String.ofList value.text ++ "`"
  | .string text => "string " ++ quoted text
  | .boolean value => if value then "boolean `true`" else "boolean `false`"
  | .sequence => "sequence"
  | .map => "map"

/-- What a place of a document should hold. -/
inductive Expected
  | text
  | path
  | flag
  | size
  | seconds
  | part (name : String)
  | fullPart (name : String) (fields : Nat)
  deriving DecidableEq, Repr

/-- The text that tells what was expected. -/
def Expected.name : Expected → String
  | .text => "a string"
  | .path => "path string"
  | .flag => "a boolean"
  | .size => "usize"
  | .seconds => "u64"
  | .part name => s!"struct {name}"
  | .fullPart name fields => s!"struct {name} with {fields} elements"

/-- A document of the wrong shape: something of another kind, a number out of range, or a row that
ends too early. -/
inductive ShapeError
  | wrongKind (found : Found) (expected : Expected)
  | outOfRange (found : Found) (expected : Expected)
  | tooShort (length : Nat) (expected : Expected)
  deriving DecidableEq, Repr

/-- The text of an error. -/
def ShapeError.message : ShapeError → String
  | .wrongKind found expected => s!"invalid type: {found.text}, expected {expected.name}"
  | .outOfRange found expected => s!"invalid value: {found.text}, expected {expected.name}"
  | .tooShort length expected => s!"invalid length {length}, expected {expected.name}"

namespace Toml.Node

/-- What is held is of the wrong kind. -/
def mistaken {α : Type} (node : Node) (expected : Expected) : Except ShapeError α :=
  .error (.wrongKind (.ofNode node) expected)

/-- Reads a text. -/
def asText : Node → Except ShapeError String
  | .string text => .ok text
  | node => node.mistaken .text

/-- Reads a path. -/
def asPath : Node → Except ShapeError Path
  | .string text => .ok (Bytes.ofString text)
  | node => node.mistaken .path

/-- Reads a flag. -/
def asFlag : Node → Except ShapeError Bool
  | .boolean value => .ok value
  | node => node.mistaken .flag

/-- Reads a number that cannot be negative. -/
def asCount (expected : Expected) : Node → Except ShapeError Nat
  | .integer value =>
      if 0 ≤ value then .ok value.toNat else .error (.outOfRange (.integer value) expected)
  | node => node.mistaken expected

end Toml.Node

/-- A setting of a part: its name, whether a row has to hold it, and how it is read. -/
structure Field (σ : Type) where
  name : String
  required : Bool
  read : σ → Toml.Node → Except ShapeError σ

/-- Reads a part from a table. Unknown names are ignored. -/
def readTable {σ : Type} (fields : List (Field σ)) (start : σ) (entries : Toml.Entries) :
    Except ShapeError σ :=
  entries.foldlM (fun part (name, node) =>
    match fields.find? (·.name == name) with
    | some field => field.read part node
    | none => .ok part) start

/-- Reads a part from a row of settings, `place` of which were read. What is left over is
ignored. -/
def readRow {σ : Type} (expected : Expected) (place : Nat) (part : σ) :
    List (Field σ) → List Toml.Node → Except ShapeError σ
  | [], _ => .ok part
  | field :: fields, [] =>
      if field.required then .error (.tooShort place expected)
      else readRow expected (place + 1) part fields []
  | field :: fields, node :: nodes => do
      readRow expected (place + 1) (← field.read part node) fields nodes

/-- Reads a part of a configuration file. -/
def readPart {σ : Type} (name : String) (fields : List (Field σ)) (start : σ) :
    Toml.Node → Except ShapeError σ
  | .table _ entries => readTable fields start entries
  | .datetime _ => .ok start
  | .array items => readRow (.fullPart name fields.length) 0 start fields items
  | .tables items =>
      readRow (.fullPart name fields.length) 0 start fields (items.map (.table .header))
  | node => node.mistaken (.part name)

/-- Reads the part about the server. -/
def ServerSection.read : Toml.Node → Except ShapeError ServerSection :=
  readPart "ServerConfig"
    [⟨"listen", false, fun part node => do return { part with listen := some (← node.asText) }⟩,
      ⟨"max_connections", true, fun part node => do
        return { part with maxConnections := some (← node.asCount .size) }⟩,
      ⟨"daemon", false, fun part node => do return { part with daemon := some (← node.asFlag) }⟩]
    ⟨none, none, none⟩

/-- Reads the part about the shared log. -/
def LogSection.read : Toml.Node → Except ShapeError LogSection :=
  readPart "LogConfig"
    [⟨"data_file", false, fun part node => do
        return { part with dataFile := some (← node.asPath) }⟩,
      ⟨"timestamp_interval", false, fun part node => do
        return { part with timestampInterval := some (← node.asCount .seconds) }⟩]
    ⟨none, none⟩

/-- Reads the part about packets. -/
def PacketSection.read : Toml.Node → Except ShapeError PacketSection :=
  readPart "PacketConfig"
    [⟨"max_size", false, fun part node => do
        return { part with maxSize := some (← node.asCount .size) }⟩,
      ⟨"initial_capacity", false, fun part node => do
        return { part with initialCapacity := some (← node.asCount .size) }⟩,
      ⟨"read_size", false, fun part node => do
        return { part with readSize := some (← node.asCount .size) }⟩]
    ⟨none, none, none⟩

/-- Reads the part about the journal. -/
def LoggingSection.read : Toml.Node → Except ShapeError LoggingSection :=
  readPart "LoggingConfig"
    [⟨"level", false, fun part node => do return { part with level := some (← node.asText) }⟩,
      ⟨"file", true, fun part node => do return { part with file := some (← node.asPath) }⟩]
    ⟨none, none⟩

/-- Reads the settings of a document. -/
def FileSettings.ofEntries (entries : Toml.Entries) : Except ShapeError FileSettings :=
  readTable
    [⟨"server", false, fun file node => do
        return { file with server := some (← ServerSection.read node) }⟩,
      ⟨"log", false, fun file node => do
        return { file with log := some (← LogSection.read node) }⟩,
      ⟨"packet", false, fun file node => do
        return { file with packet := some (← PacketSection.read node) }⟩,
      ⟨"logging", false, fun file node => do
        return { file with logging := some (← LoggingSection.read node) }⟩]
    .empty entries

end PacketLog
