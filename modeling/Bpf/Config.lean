import Bpf.Kernel
import Bpf.Text.Utf8
import Bpf.Toml.Document

/-!
# Configuration

A `Config` is read from a TOML file.  Every setting has a default, unknown keys do not count, and
`Config.problem?` says what is wrong with the settings that were read.
-/

namespace Bpf

/-- What is logged. -/
structure LogConfig where
  level : String := "info"
  /-- The origin of a message is shown. -/
  showTarget : Bool := false
deriving DecidableEq

/-- The configuration of a host. -/
structure Config where
  /-- The directory that relative paths of pins are in. -/
  bpffs : Path := ⟨"/sys/fs/bpf"⟩
  /-- The room for the log of the verifier. -/
  logSize : Nat := defaultLogSize
  /-- The limit on locked memory is lifted before anything else. -/
  raiseMemlock : Bool := false
  logging : LogConfig := {}
deriving DecidableEq

namespace Config

/-- The least room for a log. -/
def minLogSize : Nat := 1024

/-- The path of a pin with the given name. -/
def pinPath (c : Config) (name : Path) : Path := c.bpffs.join name

/-- The settings are the defaults, the directory up to the spelling of its path. -/
def isDefault (c : Config) : Bool :=
  let default : Config := {}
  c.bpffs.same default.bpffs && decide ({ c with bpffs := default.bpffs } = default)

/-- What is wrong with a configuration, if anything is. -/
def problem? (c : Config) : Option String :=
  if !c.bpffs.isAbsolute then some s!"bpffs must be an absolute path, got {c.bpffs.text}"
  else if c.logSize < minLogSize || maxLogSize < c.logSize then
    some
      s!"verifier_log_size must be between {minLogSize} and {maxLogSize}, got {c.logSize}"
  else if Text.isBlankText c.logging.level then some "logging.level cannot be empty"
  else none

/-- The settings by name. -/
def toJson (c : Config) : Json :=
  .object
    [ ("bpffs", .string c.bpffs.text), ("verifier_log_size", .nat c.logSize),
      ("raise_memlock", .bool c.raiseMemlock),
      ("logging", .object
        [("level", .string c.logging.level), ("show_target", .bool c.logging.showTarget)]) ]

/-! ### Reading -/

/-- A text. -/
def text? : Toml.Value → Option String
  | .string s => some s
  | _ => none

/-- A truth value. -/
def bool? : Toml.Value → Option Bool
  | .bool b => some b
  | _ => none

/-- A size in 64 bits. -/
def size? : Toml.Value → Option Nat
  | .number (.integer (.ofNat n)) => if n < UInt64.size then some n else none
  | _ => none

/-- A setting: the default unless there is a value, which has to be of the right kind. -/
def setting {α : Type} (read : Toml.Value → Option α) (default : α) :
    Option Toml.Value → Option α
  | none => some default
  | some value => read value

/-- What is logged, from the two settings. -/
def logSettings (level showTarget : Option Toml.Value) : Option LogConfig := do
  return {
    level := ← setting text? "info" level
    showTarget := ← setting bool? false showTarget }

/-- What is logged, from a table or from the settings in their order; a date holds none of them. -/
def logConfig? : Toml.Value → Option LogConfig
  | .table _ entries =>
    logSettings (Toml.Entries.get? entries "level") (Toml.Entries.get? entries "show_target")
  | .array items => logSettings items[0]? items[1]?
  | .tables items =>
    logSettings (items[0]?.map (.table .header)) (items[1]?.map (.table .header))
  | .date => some {}
  | _ => none

/-- Every number has a value, except that the elements of an array of log settings do not count:
those with a setting are no numbers, and nothing looks at the others. -/
def isReadable (entries : Toml.Entries) : Bool :=
  entries.all fun (key, value) =>
    match value with
    | .array _ => key = "logging" || value.isReadable
    | _ => value.isReadable

/-- The configuration in the entries of a document. -/
def ofEntries (entries : Toml.Entries) : Option Config := do
  if !isReadable entries then none
  return {
    bpffs := ⟨← setting text? "/sys/fs/bpf" (entries.get? "bpffs")⟩
    logSize := ← setting size? defaultLogSize (entries.get? "verifier_log_size")
    raiseMemlock := ← setting bool? false (entries.get? "raise_memlock")
    logging := ← setting logConfig? {} (entries.get? "logging") }

/-- The configuration that a text holds. -/
def parse? (text : String) : Option Config := (Toml.parse? text).bind ofEntries

/-- The text of a file, from the answer to the attempt to read it. -/
def fileText : Except IoError (List UInt8) → Except IoError String
  | .ok bytes =>
    match Text.decode? bytes with
    | some text => .ok text
    | none => .error .notText
  | .error e => .error e

/-- The configuration in a file, from the answer to the attempt to read it. -/
def ofFile (answer : Except IoError (List UInt8)) : Except Error Config :=
  match fileText answer with
  | .error e => .error (.config s!"Failed to read config file: {e.message}")
  | .ok text =>
    match parse? text with
    | none => .error (.config "Failed to parse config")
    | some c =>
      match c.problem? with
      | some problem => .error (.config problem)
      | none => .ok c

end Config

end Bpf
