import PacketLog.Config.Settings
import PacketLog.Text.Digits
import PacketLog.Text.Utf8

/-! # The command line

Options have a long name and some also a short one. A value follows as the next argument or after an
equals sign, and short options can be written together. A value given as the next argument is only
looked at when the option is settled, that is when the next option or the end is reached; one given
with an equals sign is looked at once. Asking for help or for the version ends the reading there.
-/

namespace PacketLog

/-- The options, with the two that ask for information. -/
inductive OptionName
  | config
  | listen
  | daemon
  | dataFile
  | timestampInterval
  | maxPacketSize
  | maxConnections
  | logLevel
  | logFile
  | help
  | version
  deriving DecidableEq, Repr

namespace OptionName

/-- All options, in the order help shows them. -/
def all : List OptionName :=
  [config, listen, daemon, dataFile, timestampInterval, maxPacketSize, maxConnections, logLevel,
    logFile, help, version]

/-- The long name of an option. -/
def long : OptionName → String
  | config => "config"
  | listen => "listen"
  | daemon => "daemon"
  | dataFile => "data-file"
  | timestampInterval => "timestamp-interval"
  | maxPacketSize => "max-packet-size"
  | maxConnections => "max-connections"
  | logLevel => "log-level"
  | logFile => "log-file"
  | help => "help"
  | version => "version"

/-- The short name of an option. -/
def short? : OptionName → Option Char
  | config => some 'c'
  | listen => some 'l'
  | daemon => some 'd'
  | dataFile => some 'f'
  | help => some 'h'
  | version => some 'V'
  | _ => none

/-- What the value of an option is called. -/
def valueName? : OptionName → Option String
  | config => some "CONFIG"
  | listen => some "LISTEN"
  | dataFile => some "DATA_FILE"
  | timestampInterval => some "TIMESTAMP_INTERVAL"
  | maxPacketSize => some "MAX_PACKET_SIZE"
  | maxConnections => some "MAX_CONNECTIONS"
  | logLevel => some "LOG_LEVEL"
  | logFile => some "LOG_FILE"
  | daemon | help | version => none

/-- An option as messages show it. -/
def shown (o : OptionName) : String :=
  match o.valueName? with
  | some value => s!"--{o.long} <{value}>"
  | none => s!"--{o.long}"

/-- The option of a long name. -/
def ofLong? (name : Bytes) : Option OptionName := all.find? fun o => Bytes.ofString o.long == name

/-- The option of a short name. -/
def ofShort? (c : Char) : Option OptionName := all.find? fun o => o.short? == some c

end OptionName

/-- Why a text is no number. -/
inductive NumberError
  | empty
  | invalidDigit
  | tooLarge
  deriving DecidableEq, Repr

/-- The text that says why. -/
def NumberError.message : NumberError → String
  | .empty => "cannot parse integer from empty string"
  | .invalidDigit => "invalid digit found in string"
  | .tooLarge => "number too large to fit in target type"

/-- The greatest number an option can hold. -/
def greatestCount : Nat := UInt64.size - 1

/-- Reads decimal digits on from `value`. The first fault counts. -/
def readCountFrom (value : Nat) : List Char → Except NumberError Nat
  | [] => .ok value
  | c :: rest =>
      match digitValue? 10 c with
      | none => .error .invalidDigit
      | some digit =>
          if greatestCount < value * 10 + digit then .error .tooLarge
          else readCountFrom (value * 10 + digit) rest

/-- Reads a number of 64 bits, which can have a plus sign in front. -/
def readCount (text : String) : Except NumberError Nat :=
  match text.toList with
  | [] => .error .empty
  | ['+'] => .error .invalidDigit
  | '+' :: digits => readCountFrom 0 digits
  | digits => readCountFrom 0 digits

/-- A command line that is answered rather than acted upon. -/
inductive UsageError
  | help
  | version
  | unknownArgument (shown : String)
  | missingValue (option : OptionName)
  | invalidValue (option : OptionName) (value : String) (error : NumberError)
  | repeated (option : OptionName)
  | unneededValue (option : OptionName) (value : String)
  | notText
  deriving DecidableEq, Repr

/-- What is shown when help is asked for. -/
def helpText : String :=
  "Appends newline-terminated packets to a shared log and replies with the whole log\n\n" ++
  "Usage: logsock [OPTIONS]\n\n" ++
  "Options:\n" ++
  "  -c, --config <CONFIG>\n          Path to TOML configuration file\n" ++
  "  -l, --listen <LISTEN>\n          Address to bind to (e.g., 0.0.0.0:9000)\n" ++
  "  -d, --daemon\n          Run as a background daemon\n" ++
  "  -f, --data-file <DATA_FILE>\n          Path of the shared data file\n" ++
  "      --timestamp-interval <TIMESTAMP_INTERVAL>\n" ++
  "          Seconds between timestamp records (0 disables them)\n" ++
  "      --max-packet-size <MAX_PACKET_SIZE>\n" ++
  "          Largest packet accepted, in bytes, including the newline\n" ++
  "      --max-connections <MAX_CONNECTIONS>\n" ++
  "          Cap on concurrently served connections (unbounded when unset)\n" ++
  "      --log-level <LOG_LEVEL>\n" ++
  "          Log level (trace, debug, info, warn, error) [default: info]\n" ++
  "      --log-file <LOG_FILE>\n" ++
  "          Write operational logs to this file instead of stderr\n" ++
  "  -h, --help\n          Print help\n" ++
  "  -V, --version\n          Print version\n"

/-- What is shown when the version is asked for. -/
def versionText : String := "logsock 0.1.0\n"

/-- The first line of a text. -/
def firstLine (text : String) : String :=
  let line := text.toList.takeWhile (· != '\n')
  String.ofList (if line.length < text.length ∧ line.getLast? = some '\r' then line.dropLast
    else line)

namespace UsageError

/-- The text an error is answered with: the first line of a complaint, or all of what was asked
for. -/
def message : UsageError → String
  | help => helpText
  | version => versionText
  | unknownArgument argument => firstLine s!"error: unexpected argument '{argument}' found\n"
  | missingValue option =>
      s!"error: a value is required for '{option.shown}' but none was supplied"
  | invalidValue option value error =>
      firstLine s!"error: invalid value '{value}' for '{option.shown}': {error.message}\n"
  | repeated option => s!"error: the argument '{option.shown}' cannot be used multiple times"
  | unneededValue option value =>
      firstLine
        s!"error: unexpected value '{value}' for '{option.shown}' found; no more were expected\n"
  | notText => "error: invalid UTF-8 was detected in one or more arguments"

/-- The code the program exits with. -/
def exitCode : UsageError → Nat
  | help | version => 0
  | _ => 2

end UsageError

/-- A command line as far as it was read: the options that were settled and those given, and the
option whose value, if any, is not settled yet. -/
structure CommandLine where
  options : Options
  given : List OptionName
  pending : Option (OptionName × Option Bytes)
  deriving Repr

namespace CommandLine

/-- A command line that nothing was read of. -/
def empty : CommandLine := ⟨.empty, [], none⟩

/-- The text of a value. -/
def textOf (value : Bytes) : Except UsageError String :=
  match Utf8.decode? value with
  | some text => .ok text
  | none => .error .notText

/-- The path of a value, which cannot be empty. -/
def pathOf (o : OptionName) (value : Bytes) : Except UsageError Path :=
  if value = [] then .error (.missingValue o) else .ok value

/-- The number of a value. -/
def countOf (o : OptionName) (value : Bytes) : Except UsageError Nat := do
  let text ← textOf value
  (readCount text).mapError (.invalidValue o text)

/-- Puts a value into the options. -/
def put (options : Options) (o : OptionName) (value : Bytes) : Except UsageError Options :=
  match o with
  | .config => do return { options with config := some (← pathOf o value) }
  | .listen => do return { options with listen := some (← textOf value) }
  | .dataFile => do return { options with dataFile := some (← pathOf o value) }
  | .timestampInterval => do
      return { options with timestampInterval := some (← countOf o value) }
  | .maxPacketSize => do return { options with maxPacketSize := some (← countOf o value) }
  | .maxConnections => do return { options with maxConnections := some (← countOf o value) }
  | .logLevel => do return { options with logLevel := some (← textOf value) }
  | .logFile => do return { options with logFile := some (← pathOf o value) }
  | .daemon => .ok { options with daemon := true }
  | .help => .error .help
  | .version => .error .version

/-- Enters an option with its value. It can be given only once. -/
def enter (c : CommandLine) (o : OptionName) (value : Bytes) : Except UsageError CommandLine :=
  if o ∈ c.given then .error (.repeated o)
  else do return { c with options := ← put c.options o value, given := o :: c.given }

/-- Settles the option whose value is not settled yet. -/
def settle (c : CommandLine) : Except UsageError CommandLine :=
  match c.pending with
  | none => .ok c
  | some (o, none) => .error (.missingValue o)
  | some (o, some value) => { c with pending := none }.enter o value

/-- Reads an option with the value that is attached to it, if any. -/
def option (c : CommandLine) (o : OptionName) (attached : Option Bytes) :
    Except UsageError CommandLine := do
  match o.valueName?, attached with
  | some _, none => return { ← c.settle with pending := some (o, none) }
  | some _, some value => (← c.settle).enter o value
  | none, none => (← c.settle).enter o []
  | none, some value => .error (.unneededValue o (Utf8.display value))

/-- The byte of a dash. -/
def dash : UInt8 := 45

/-- The byte of an equals sign. -/
def equals : UInt8 := 61

/-- Reads an argument that starts with two dashes, given what follows them. -/
def longArgument (c : CommandLine) (argument : Bytes) : Except UsageError CommandLine :=
  let name := argument.takeWhile (· != equals)
  let value := (argument.drop name.length).tail?
  match OptionName.ofLong? name with
  | some o => c.option o value
  | none => .error (.unknownArgument ("--" ++ Utf8.display name))

/-- Reads options written together after one dash. -/
def shortArguments (c : CommandLine) : Bytes → Except UsageError CommandLine
  | [] => .ok c
  | b :: rest =>
      match _taken : Utf8.piece b rest with
      | (none, _) => .error (.unknownArgument ("-" ++ Utf8.display (b :: rest)))
      | (some name, left) =>
          match OptionName.ofShort? name with
          | none => .error (.unknownArgument (String.ofList ['-', name]))
          | some o =>
              if o.valueName?.isSome then
                match left with
                | [] => c.option o none
                | b :: value => c.option o (some (if b = equals then value else b :: value))
              else
                match c.option o none with
                | .error e => .error e
                | .ok c => c.shortArguments left
termination_by bytes => bytes.length
decreasing_by
  have := Utf8.piece_length_le b rest
  simp only [_taken, List.length_cons] at *
  omega

/-- Reads the arguments from the first that is still unread. After a bare pair of dashes no argument
is an option, and there is nothing else that one could be. -/
def arguments (c : CommandLine) : List Bytes → Except UsageError CommandLine
  | [] => c.settle
  | argument :: rest =>
      let positional : Except UsageError CommandLine :=
        match c.pending with
        | some (o, none) => { c with pending := some (o, some argument) }.arguments rest
        | _ => .error (.unknownArgument (Utf8.display argument))
      match argument with
      | first :: second :: name =>
          if first ≠ dash then positional
          else if second ≠ dash then
            match c.shortArguments (second :: name) with
            | .error e => .error e
            | .ok c => c.arguments rest
          else if name ≠ [] then
            match c.longArgument name with
            | .error e => .error e
            | .ok c => c.arguments rest
          else
            match rest with
            | [] => c.settle
            | next :: _ => .error (.unknownArgument (Utf8.display next))
      | _ => positional

end CommandLine

/-- Reads a command line. -/
def Options.parse (arguments : List Bytes) : Except UsageError Options :=
  (CommandLine.empty.arguments arguments).map (·.options)

end PacketLog
