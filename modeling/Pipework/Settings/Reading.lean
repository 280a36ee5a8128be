import Pipework.Settings.Basic
import Pipework.Toml.Document

/-!
# Reading settings

Settings are read from a document. What it does not mention keeps its default and what is not known
is passed over; a value of the wrong kind is refused. A section may also be given as an array of
its values in their order, and a date counts as a table whose one field is its writing.
-/

namespace Pipework.Settings

inductive Flaw where
  | document (message : String)
  | kind (name : String)
  deriving DecidableEq, Repr

def Flaw.message : Flaw → String
  | .document m => "invalid settings: " ++ m
  | .kind name => "invalid settings: wrong kind of value for " ++ name

def flag? : Toml → Option Bool
  | .boolean b => some b
  | _ => none

def size? : Toml → Option Nat
  | .integer n => if 0 ≤ n then some n.toNat else none
  | _ => none

def text? : Toml → Option String
  | .text s => some s
  | _ => none

/-- The field that the writing of a date is found under. -/
def momentField : String := "$__toml_private_datetime"

/-- The fields of a value that has any. -/
def fields? : Toml → Option (Dict Toml)
  | .table _ fields => some fields
  | .moment s => some [(momentField, .text s)]
  | _ => none

def texts? (v : Toml) : Option (Dict String) := do
  let entries ← (← fields? v).mapM fun e => (text? e.2).map (e.1, ·)
  return .ofList entries

/-- The values of a section by name. -/
def section? (names : List String) : Toml → Option (Dict Toml)
  | .array items => some (names.zip items)
  | .tables newest older => some (names.zip (older.reverse ++ [.table .header newest]))
  | v => fields? v

variable {α : Type}

/-- A value by its name, or the default. -/
def entry (fields : Dict Toml) (name : String) (default : α) (read : Toml → Option α) :
    Except Flaw α :=
  match fields.get? name with
  | none => .ok default
  | some v =>
    match read v with
    | some a => .ok a
    | none => .error (.kind name)

/-- A section by its name, or its default. -/
def sectionAt (document : Dict Toml) (name : String) (names : List String) (default : α)
    (read : Dict Toml → Except Flaw α) : Except Flaw α :=
  match document.get? name with
  | none => .ok default
  | some v =>
    match section? names v with
    | some fields => read fields
    | none => .error (.kind name)

def Logging.read (fields : Dict Toml) : Except Flaw Logging := do
  let enabled ← entry fields "enabled" Logging.default.enabled flag?
  let console ← entry fields "console" Logging.default.console flag?
  let file ← entry fields "file" Logging.default.file flag?
  let level ← entry fields "level" Logging.default.level text?
  let directory ← entry fields "directory" none fun v => (text? v).map some
  return ⟨enabled, console, file, level, directory⟩

def Pipeline.read (fields : Dict Toml) : Except Flaw Pipeline := do
  let streaming ← entry fields "streaming" Pipeline.default.streaming flag?
  let capacity ← entry fields "stdin_buffer_bytes" Pipeline.default.capacity size?
  let mergeOnError ← entry fields "merge_on_error" Pipeline.default.mergeOnError flag?
  let stackSize ← entry fields "worker_stack_bytes" Pipeline.default.stackSize size?
  return ⟨streaming, capacity, mergeOnError, stackSize⟩

def Commands.read (fields : Dict Toml) : Except Flaw Commands := do
  let modulesDir ← entry fields "modules_dir" none fun v => (text? v).map some
  let aliases ← entry fields "aliases" [] texts?
  return ⟨modulesDir, aliases⟩

def ofDocument (document : Dict Toml) : Except Flaw Settings := do
  let logging ← sectionAt document "logging"
    ["enabled", "console", "file", "level", "directory"] .default Logging.read
  let pipeline ← sectionAt document "pipeline"
    ["streaming", "stdin_buffer_bytes", "merge_on_error", "worker_stack_bytes"] .default
    Pipeline.read
  let commands ← sectionAt document "commands" ["modules_dir", "aliases"] .default Commands.read
  return ⟨logging, pipeline, commands⟩

def ofText (text : String) : Except Flaw Settings :=
  match Toml.read text with
  | .ok document => ofDocument document
  | .error flaw => .error (.document (flaw.message text))

end Pipework.Settings
