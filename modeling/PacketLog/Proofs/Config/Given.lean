import Mathlib.Data.List.Forall2
import Mathlib.Logic.Function.Basic
import PacketLog.Config.File

/-! # Settings one by one

A configuration file assigns values to settings, and so do the settings that come of it when what it
leaves out is filled in. Seen this way, filling in takes the file's value for each setting that has
one and the default for the others (`FileSettings.value_complete`), and reading a file is reading
each setting in its own way (`FileSettings.ofEntries_given`): the four parts differ in nothing but
their names and their settings.
-/

namespace PacketLog

/-! ## Results that agree -/

/-- Two results that are the same error, or values in a relation. -/
inductive Agree {ε α β : Type} (R : α → β → Prop) : Except ε α → Except ε β → Prop
  | ok {a : α} {b : β} (related : R a b) : Agree R (.ok a) (.ok b)
  | error (e : ε) : Agree R (.error e) (.error e)

namespace Agree

variable {ε α β γ δ : Type} {R : α → β → Prop} {S : γ → δ → Prop}

/-- Steps whose results agree can be taken one after another. -/
theorem bind {x : Except ε α} {y : Except ε β} {f : α → Except ε γ} {g : β → Except ε δ}
    (agree : Agree R x y) (next : ∀ {a b}, R a b → Agree S (f a) (g b)) :
    Agree S (x >>= f) (y >>= g) := by
  cases agree with
  | ok related => exact next related
  | error e => exact .error e

private theorem foldlM {ι : Type} {f : α → ι → Except ε α} {g : β → ι → Except ε β} {items : List ι}
    (step : ∀ item ∈ items, ∀ {a b}, R a b → Agree R (f a item) (g b item)) {a : α} {b : β}
    (related : R a b) : Agree R (items.foldlM f a) (items.foldlM g b) := by
  induction items generalizing a b with
  | nil => exact .ok related
  | cons item rest ih =>
      rw [List.foldlM_cons, List.foldlM_cons]
      refine bind (step item List.mem_cons_self related) fun related => ?_
      exact ih (fun other member => step other (List.mem_cons_of_mem _ member)) related

end Agree

/-- Two readers of a setting with the same name that agree on what they read. -/
structure Field.Alike {σ τ : Type} (R : σ → τ → Prop) (f : Field σ) (g : Field τ) : Prop where
  name : f.name = g.name
  required : f.required = g.required
  reads : ∀ {a b} (node : Toml.Node), R a b → Agree R (f.read a node) (g.read b node)

section Readers

variable {σ τ : Type} {R : σ → τ → Prop} {fields : List (Field σ)} {fields' : List (Field τ)}
  (alike : List.Forall₂ (Field.Alike R) fields fields')
include alike

private theorem find?_alike (name : String) :
    Option.Rel (Field.Alike R) (fields.find? (·.name == name))
      (fields'.find? (·.name == name)) := by
  induction alike with
  | nil => exact .none
  | @cons f g _ _ first _ ih =>
      rw [List.find?_cons, List.find?_cons, first.name]
      cases g.name == name with
      | true => exact .some first
      | false => exact ih

/-- **Tables.** Readers that agree on each setting agree on every table. -/
theorem readTable_agree {start : σ} {start' : τ} (related : R start start')
    (entries : Toml.Entries) :
    Agree R (readTable fields start entries) (readTable fields' start' entries) := by
  refine Agree.foldlM (fun entry _ a b related => ?_) related
  have found := find?_alike alike entry.1
  dsimp only
  generalize fields.find? (·.name == entry.1) = field at found
  generalize fields'.find? (·.name == entry.1) = field' at found
  cases found with
  | some alike => exact alike.reads entry.2 related
  | none => exact .ok related

/-- **Rows.** Readers that agree on each setting agree on every row. -/
theorem readRow_agree {a : σ} {b : τ} (related : R a b) (expected : Expected) (place : Nat)
    (items : List Toml.Node) :
    Agree R (readRow expected place a fields items) (readRow expected place b fields' items) := by
  induction alike generalizing a b place items with
  | nil => exact .ok related
  | @cons f g _ _ first _ ih =>
      cases items with
      | nil =>
          rw [readRow, readRow, first.required]
          split
          · exact .error _
          · exact ih related _ _
      | cons node nodes =>
          rw [readRow, readRow]
          exact (first.reads node related).bind fun related => ih related _ _

private theorem readPart_agree {start : σ} {start' : τ} (related : R start start') (name : String)
    (node : Toml.Node) :
    Agree R (readPart name fields start node) (readPart name fields' start' node) := by
  have size := alike.length_eq
  cases node with
  | table origin entries => exact readTable_agree alike related entries
  | datetime text => exact .ok related
  | array items =>
      rw [readPart, readPart, size]
      exact readRow_agree alike related _ _ _
  | tables items =>
      rw [readPart, readPart, size]
      exact readRow_agree alike related _ _ _
  | string | integer | float | boolean => exact .error _

end Readers

/-! ## Settings, parts and values -/

/-- The parts of a configuration file. -/
inductive FilePart
  | server
  | log
  | packet
  | logging
  deriving DecidableEq

/-- The settings that a configuration file can hold. -/
inductive Setting
  | listen
  | maxConnections
  | daemon
  | dataFile
  | timestampInterval
  | maxSize
  | initialCapacity
  | readSize
  | level
  | file
  deriving DecidableEq

/-- A value of a setting. -/
inductive Value
  | text (text : String)
  | path (path : Path)
  | flag (isSet : Bool)
  | number (n : Nat)
  deriving DecidableEq

namespace Setting

/-- The part that a setting belongs to. -/
def part : Setting → FilePart
  | listen | maxConnections | daemon => .server
  | dataFile | timestampInterval => .log
  | maxSize | initialCapacity | readSize => .packet
  | level | file => .logging

/-- The name of a setting in its part. -/
def name : Setting → String
  | listen => "listen"
  | maxConnections => "max_connections"
  | daemon => "daemon"
  | dataFile => "data_file"
  | timestampInterval => "timestamp_interval"
  | maxSize => "max_size"
  | initialCapacity => "initial_capacity"
  | readSize => "read_size"
  | level => "level"
  | file => "file"

/-- The value of a setting that nothing is given for, if it has one. -/
def default? : Setting → Option Value
  | listen => some (.text "0.0.0.0:9000")
  | maxConnections => none
  | daemon => some (.flag false)
  | dataFile => some (.path (Bytes.ofString "/var/tmp/aesdsocketdata"))
  | timestampInterval => some (.number 10)
  | maxSize => some (.number 10485760)
  | initialCapacity => some (.number 1024)
  | readSize => some (.number 1024)
  | level => some (.text "info")
  | file => none

/-- Reads the value of a setting. -/
def read : Setting → Toml.Node → Except ShapeError Value
  | listen | level => fun node => node.asText.map .text
  | dataFile | file => fun node => node.asPath.map .path
  | daemon => fun node => node.asFlag.map .flag
  | timestampInterval => fun node => (node.asCount .seconds).map .number
  | maxConnections | maxSize | initialCapacity | readSize =>
      fun node => (node.asCount .size).map .number

end Setting

/-- Values for some of the settings. -/
abbrev Assignment := Setting → Option Value

/-- Fills in the defaults. -/
def Assignment.complete (values : Assignment) : Assignment := fun s => (values s).or s.default?

/-- What a part gives. -/
def ServerSection.given (part : ServerSection) : Assignment
  | .listen => part.listen.map .text
  | .maxConnections => part.maxConnections.map .number
  | .daemon => part.daemon.map .flag
  | _ => none

/-- What a part gives. -/
def LogSection.given (part : LogSection) : Assignment
  | .dataFile => part.dataFile.map .path
  | .timestampInterval => part.timestampInterval.map .number
  | _ => none

/-- What a part gives. -/
def PacketSection.given (part : PacketSection) : Assignment
  | .maxSize => part.maxSize.map .number
  | .initialCapacity => part.initialCapacity.map .number
  | .readSize => part.readSize.map .number
  | _ => none

/-- What a part gives. -/
def LoggingSection.given (part : LoggingSection) : Assignment
  | .level => part.level.map .text
  | .file => part.file.map .path
  | _ => none

/-- What a configuration file gives. -/
def FileSettings.given (file : FileSettings) : Assignment := fun s =>
  match s.part with
  | .server => file.server.bind (·.given s)
  | .log => file.log.bind (·.given s)
  | .packet => file.packet.bind (·.given s)
  | .logging => file.logging.bind (·.given s)

/-- The values of settings of which nothing is left out. -/
def Settings.value (settings : Settings) : Assignment
  | .listen => some (.text settings.server.listen)
  | .maxConnections => settings.server.maxConnections.map .number
  | .daemon => some (.flag settings.server.daemon)
  | .dataFile => some (.path settings.log.dataFile)
  | .timestampInterval => some (.number settings.log.timestampInterval)
  | .maxSize => some (.number settings.packet.maxSize)
  | .initialCapacity => some (.number settings.packet.initialCapacity)
  | .readSize => some (.number settings.packet.readSize)
  | .level => some (.text settings.logging.level)
  | .file => settings.logging.file.map .path

/-- Without a configuration file every setting has its default. -/
theorem Settings.value_default (s : Setting) : Settings.default.value s = s.default? := by
  cases s <;> rfl

/-- **Filling in** takes the file's value for each setting that has one and the default for the
others, whether their part is missing or only they are. -/
theorem FileSettings.value_complete (file : FileSettings) :
    file.complete.value = file.given.complete := by
  funext s
  rcases file with ⟨server, log, packet, logging⟩
  cases s with
  | listen => rcases server with _ | ⟨_ | _, _, _⟩ <;> rfl
  | maxConnections => rcases server with _ | ⟨_, _ | _, _⟩ <;> rfl
  | daemon => rcases server with _ | ⟨_, _, _ | _⟩ <;> rfl
  | dataFile => rcases log with _ | ⟨_ | _, _⟩ <;> rfl
  | timestampInterval => rcases log with _ | ⟨_, _ | _⟩ <;> rfl
  | maxSize => rcases packet with _ | ⟨_ | _, _, _⟩ <;> rfl
  | initialCapacity => rcases packet with _ | ⟨_, _ | _, _⟩ <;> rfl
  | readSize => rcases packet with _ | ⟨_, _, _ | _⟩ <;> rfl
  | level => rcases logging with _ | ⟨_ | _, _⟩ <;> rfl
  | file => rcases logging with _ | ⟨_, _ | _⟩ <;> rfl

/-- Numbers that are given are told apart. -/
theorem Value.map_number_injective : Function.Injective (Option.map Value.number) :=
  Option.map_injective fun _ _ same => Value.number.inj same

/-- Paths that are given are told apart. -/
theorem Value.map_path_injective : Function.Injective (Option.map Value.path) :=
  Option.map_injective fun _ _ same => Value.path.inj same

/-- Settings are determined by their values. -/
theorem Settings.value_injective : Function.Injective Settings.value := by
  intro settings settings' same
  rcases settings with ⟨⟨listen, connections, daemon⟩, ⟨dataFile, interval⟩,
    ⟨maxSize, capacity, readSize⟩, level, file⟩
  rcases settings' with ⟨⟨listen', connections', daemon'⟩, ⟨dataFile', interval'⟩,
    ⟨maxSize', capacity', readSize'⟩, level', file'⟩
  obtain rfl := Value.text.inj (Option.some.inj (congrFun same .listen))
  obtain rfl := Value.map_number_injective (congrFun same .maxConnections)
  obtain rfl := Value.flag.inj (Option.some.inj (congrFun same .daemon))
  obtain rfl := Value.path.inj (Option.some.inj (congrFun same .dataFile))
  obtain rfl := Value.number.inj (Option.some.inj (congrFun same .timestampInterval))
  obtain rfl := Value.number.inj (Option.some.inj (congrFun same .maxSize))
  obtain rfl := Value.number.inj (Option.some.inj (congrFun same .initialCapacity))
  obtain rfl := Value.number.inj (Option.some.inj (congrFun same .readSize))
  obtain rfl := Value.text.inj (Option.some.inj (congrFun same .level))
  obtain rfl := Value.map_path_injective (congrFun same .file)
  rfl

/-! ## Reading setting by setting -/

namespace FilePart

/-- All parts. -/
def all : List FilePart := [server, log, packet, logging]

/-- The name of a part. -/
def name : FilePart → String
  | server => "server"
  | log => "log"
  | packet => "packet"
  | logging => "logging"

/-- What errors call a part. -/
def title : FilePart → String
  | server => "ServerConfig"
  | log => "LogConfig"
  | packet => "PacketConfig"
  | logging => "LoggingConfig"

/-- The settings of a part, in the order of a row. -/
def settings : FilePart → List Setting
  | server => [.listen, .maxConnections, .daemon]
  | log => [.dataFile, .timestampInterval]
  | packet => [.maxSize, .initialCapacity, .readSize]
  | logging => [.level, .file]

end FilePart

/-- How a setting is read into an assignment. A row cannot end before a setting without a
default. -/
def Setting.field (s : Setting) : Field Assignment where
  name := s.name
  required := s.default?.isNone
  read values node := (s.read node).map fun value => Function.update values s (some value)

/-- Reads a part. -/
def FilePart.read (p : FilePart) : Toml.Node → Except ShapeError Assignment :=
  readPart p.title (p.settings.map Setting.field) fun _ => none

/-- Puts the values of a part among those of the others. -/
def FilePart.enter (p : FilePart) (inner values : Assignment) : Assignment := fun s =>
  if s.part = p then inner s else values s

/-- How a part is read into an assignment. -/
def FilePart.field (p : FilePart) : Field Assignment where
  name := p.name
  required := false
  read values node := (p.read node).map (p.enter · values)

/-- Reads a document. -/
def Assignment.ofEntries : Toml.Entries → Except ShapeError Assignment :=
  readTable (FilePart.all.map FilePart.field) fun _ => none

/-- What is read in the form of its own gives the values that are read setting by setting. -/
def Gives {σ : Type} (given : σ → Assignment) (form : σ) (values : Assignment) : Prop :=
  ∀ s, given form s = values s

section Reading

variable {σ α : Type} {given : σ → Assignment}

/-- A reader that puts a value into its place reads what the setting of this place does. -/
theorem Field.alike_setting (s : Setting) {reader : Toml.Node → Except ShapeError α}
    {put : σ → α → σ} {value : α → Value} (reads : s.read = fun node => (reader node).map value)
    (gives : ∀ form a, Gives given (put form a)
      (Function.update (given form) s (some (value a)))) :
    Field.Alike (Gives given)
      ⟨s.name, s.default?.isNone, fun form node => do return put form (← reader node)⟩ s.field where
  name := rfl
  required := rfl
  reads := by
    intro form values node same
    obtain rfl : given form = values := funext same
    rw [Setting.field, reads]
    dsimp only
    cases reader node with
    | ok a => exact .ok (gives form a)
    | error e => exact .error e

/-- A reader that puts a part into its place reads what the part does. -/
theorem Field.alike_part (p : FilePart) {reader : Toml.Node → Except ShapeError α}
    {put : σ → α → σ} {inner : α → Assignment}
    (reads : ∀ node, Agree (Gives inner) (reader node) (p.read node))
    (gives : ∀ form a, Gives given (put form a) (p.enter (inner a) (given form))) :
    Field.Alike (Gives given)
      ⟨p.name, false, fun form node => do return put form (← reader node)⟩ p.field where
  name := rfl
  required := rfl
  reads := by
    intro form values node same
    obtain rfl : given form = values := funext same
    rw [FilePart.field]
    dsimp only
    have agree := reads node
    generalize reader node = result at agree
    generalize p.read node = result' at agree
    cases agree with
    | @ok a values same =>
        obtain rfl : inner a = values := funext same
        exact .ok (gives form a)
    | error e => exact .error e

end Reading

private theorem ServerSection.read_given (node : Toml.Node) :
    Agree (Gives given) (read node) (FilePart.server.read node) := by
  refine readPart_agree (.cons ?_ (.cons ?_ (.cons ?_ .nil))) (fun s => by cases s <;> rfl) _ _
  · exact Field.alike_setting .listen rfl fun _ _ s => by cases s <;> rfl
  · exact Field.alike_setting .maxConnections rfl fun _ _ s => by cases s <;> rfl
  · exact Field.alike_setting .daemon rfl fun _ _ s => by cases s <;> rfl

private theorem LogSection.read_given (node : Toml.Node) :
    Agree (Gives given) (read node) (FilePart.log.read node) := by
  refine readPart_agree (.cons ?_ (.cons ?_ .nil)) (fun s => by cases s <;> rfl) _ _
  · exact Field.alike_setting .dataFile rfl fun _ _ s => by cases s <;> rfl
  · exact Field.alike_setting .timestampInterval rfl fun _ _ s => by cases s <;> rfl

private theorem PacketSection.read_given (node : Toml.Node) :
    Agree (Gives given) (read node) (FilePart.packet.read node) := by
  refine readPart_agree (.cons ?_ (.cons ?_ (.cons ?_ .nil))) (fun s => by cases s <;> rfl) _ _
  · exact Field.alike_setting .maxSize rfl fun _ _ s => by cases s <;> rfl
  · exact Field.alike_setting .initialCapacity rfl fun _ _ s => by cases s <;> rfl
  · exact Field.alike_setting .readSize rfl fun _ _ s => by cases s <;> rfl

private theorem LoggingSection.read_given (node : Toml.Node) :
    Agree (Gives given) (read node) (FilePart.logging.read node) := by
  refine readPart_agree (.cons ?_ (.cons ?_ .nil)) (fun s => by cases s <;> rfl) _ _
  · exact Field.alike_setting .level rfl fun _ _ s => by cases s <;> rfl
  · exact Field.alike_setting .file rfl fun _ _ s => by cases s <;> rfl

/-- Reading the settings of a file gives what its assignments do, or fails with the same error. -/
theorem FileSettings.ofEntries_given (entries : Toml.Entries) :
    Agree (Gives given) (FileSettings.ofEntries entries) (Assignment.ofEntries entries) := by
  refine readTable_agree (.cons ?_ (.cons ?_ (.cons ?_ (.cons ?_ .nil))))
    (fun s => by cases s <;> rfl) _
  · exact Field.alike_part .server ServerSection.read_given fun _ _ s => by cases s <;> rfl
  · exact Field.alike_part .log LogSection.read_given fun _ _ s => by cases s <;> rfl
  · exact Field.alike_part .packet PacketSection.read_given fun _ _ s => by cases s <;> rfl
  · exact Field.alike_part .logging LoggingSection.read_given fun _ _ s => by cases s <;> rfl

end PacketLog
