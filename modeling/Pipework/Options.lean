import Pipework.Settings.Surroundings

/-!
# Options

The words behind the program's name. Every option may be given once; `-c` takes its value from the
same word or the next one, the long ones from behind an equals sign or the next word. A word that
starts with a dash is no value, and words that are no options are refused.
-/

namespace Pipework

structure Options where
  /-- One line to carry out instead of reading lines. -/
  command : Option String
  noStreaming : Bool
  settingsPath : Option String
  modulesDir : Option String
  deriving DecidableEq, Repr

namespace Options

def none : Options := ⟨.none, false, .none, .none⟩

/-- Why the words do not lead to a session. -/
inductive Stop where
  | help
  | version
  | misuse
  deriving DecidableEq, Repr

/-- What an option asks for. -/
inductive Item where
  | command
  | settingsPath
  | modulesDir
  | noStreaming
  | help
  | version
  deriving DecidableEq, Repr

def Item.long? : String → Option Item
  | "command" => some .command
  | "config" => some .settingsPath
  | "modules-dir" => some .modulesDir
  | "no-streaming" => some .noStreaming
  | "help" => some .help
  | "version" => some .version
  | _ => .none

def Item.short? : Char → Option Item
  | 'c' => some .command
  | 'h' => some .help
  | 'V' => some .version
  | _ => .none

def Item.takesValue : Item → Bool
  | .command | .settingsPath | .modulesDir => true
  | .noStreaming | .help | .version => false

/-- How a word reads. -/
inductive Word where
  | ending
  | long (name : String) (value : Option String)
  | short (letters : List Char)
  | plain

def Word.of (word : String) : Word :=
  match word.toList with
  | ['-', '-'] => .ending
  | '-' :: '-' :: rest =>
    .long (String.ofList (rest.takeWhile (· != '=')))
      (match rest.dropWhile (· != '=') with
        | _ :: value => some (String.ofList value)
        | [] => .none)
  | '-' :: c :: rest => .short (c :: rest)
  | _ => .plain

def Word.isPlain : Word → Bool
  | .plain => true
  | _ => false

/-- The value that follows a letter in the same word; an equals sign between them is left out. -/
def attached : List Char → Option String
  | [] => .none
  | '=' :: rest => some (String.ofList rest)
  | rest => some (String.ofList rest)

/-- Sets an option that takes a value; a path is not empty. -/
def setValue (o : Options) (item : Item) (value : String) : Except Stop Options :=
  match item with
  | .command =>
    if o.command.isSome then .error .misuse else .ok { o with command := some value }
  | .settingsPath =>
    if o.settingsPath.isSome || value.isEmpty then .error .misuse
    else .ok { o with settingsPath := some value }
  | .modulesDir =>
    if o.modulesDir.isSome then .error .misuse else .ok { o with modulesDir := some value }
  | .noStreaming | .help | .version => .error .misuse

/-- Sets an option that stands alone. -/
def setFlag (o : Options) : Item → Except Stop Options
  | .noStreaming => if o.noStreaming then .error .misuse else .ok { o with noStreaming := true }
  | .help => .error .help
  | .version => .error .version
  | .command | .settingsPath | .modulesDir => .error .misuse

/-- What a word does: it changes the options, or it asks for the next word as a value. -/
inductive Effect where
  | changed (o : Options)
  | wants (item : Item)

def apply (o : Options) (item : Item) (value : Option String) : Except Stop Effect :=
  match item.takesValue, value with
  | true, some value => (o.setValue item value).map .changed
  | true, .none => .ok (.wants item)
  | false, .none => (o.setFlag item).map .changed
  | false, some _ => .error .misuse

def readWord (o : Options) : Word → Except Stop Effect
  | .long name value =>
    match Item.long? name with
    | some item => o.apply item value
    | .none => .error .misuse
  | .short (letter :: rest) =>
    match Item.short? letter with
    | some item => o.apply item (if item.takesValue then attached rest else .none)
    | .none => .error .misuse
  | .short [] | .plain | .ending => .error .misuse

def read (o : Options) : List String → Except Stop Options
  | [] => .ok o
  | word :: rest =>
    match Word.of word with
    | .ending => if rest.isEmpty then .ok o else .error .misuse
    | w =>
      match o.readWord w with
      | .error stop => .error stop
      | .ok (.changed o) => read o rest
      | .ok (.wants item) =>
        match rest with
        | value :: rest =>
          if (Word.of value).isPlain then
            match o.setValue item value with
            | .ok o => read o rest
            | .error stop => .error stop
          else .error .misuse
        | [] => .error .misuse

def ofWords (words : List String) : Except Stop Options := read none words

/-- Settings changed by options. Without any modules directory one's own is taken. -/
def applyTo (o : Options) (s : Surroundings) (settings : Settings) : Settings :=
  { settings with
    pipeline := { settings.pipeline with
      streaming := settings.pipeline.streaming && !o.noStreaming }
    commands := { settings.commands with
      modulesDir := o.modulesDir <|> settings.commands.modulesDir <|> s.ownModules? } }

def versionText : String := "conduit 0.1.0\n"

def helpText : String :=
  "\n".intercalate [
    "Run shell-style command pipelines",
    "",
    "Usage: conduit [OPTIONS]",
    "",
    "Options:",
    "  -c, --command <COMMAND>          Run a single command line and exit",
    "      --no-streaming               Run every stage in-process, one after another",
    "      --config <CONFIG>            Settings file to load instead of the default ones",
    "      --modules-dir <MODULES_DIR>  Directory holding <name>.cds filter scripts",
    "  -h, --help                       Print help",
    "  -V, --version                    Print version",
    ""]

end Options

end Pipework
