import Pipework.Disk
import Pipework.Settings.Reading
import Pipework.Text.Blank

/-!
# Settings and surroundings

Where settings come from: a named file, else the file in the data directory, else the one in the
working directory, else the defaults. Variables have the last word.
-/

namespace Pipework

/-- What the program finds when it starts. -/
structure Surroundings where
  vars : Dict String
  disk : Disk

namespace Surroundings

def var? (s : Surroundings) (name : String) : Option String := s.vars.get? name

def folder : String := ".conduit"

/-- The directory that the program keeps its own files in. -/
def dataDir (s : Surroundings) : Except Fault String :=
  match s.var? "HOME" <|> s.var? "USERPROFILE" with
  | some home => .ok (Disk.join home folder)
  | none => .error (.of "Cannot determine home directory")

/-- The directory for modules of one's own, if there is one. -/
def ownModules? (s : Surroundings) : Option String :=
  match s.var? "HOME" with
  | none | some "" => none
  | some home =>
    let path := Disk.join (Disk.join home folder) "commands"
    if s.disk.isDirectory path then some path else none

end Surroundings

namespace Settings

/-- What a switch is set to by a text; a blank one does not set it. -/
def switch? (text : String) : Option Bool :=
  match Blank.trim text with
  | "" => none
  | "0" | "false" | "off" => some false
  | _ => some true

def withVars (s : Surroundings) (settings : Settings) : Settings :=
  let streaming := (s.var? "CONDUIT_STREAMING" >>= switch?).getD settings.pipeline.streaming
  let modulesDir := (s.var? "CONDUIT_MODULES_DIR").filter fun dir => Blank.trim dir != ""
  { settings with
    pipeline := { settings.pipeline with streaming }
    commands := { settings.commands with
      modulesDir := modulesDir <|> settings.commands.modulesDir } }

/-- The settings that a file holds, without regard to variables. -/
def ofFile (s : Surroundings) (path : String) : Except Fault Settings :=
  match s.disk.readFile path with
  | .error why => .error why
  | .ok bytes =>
    match Utf8.decode? bytes with
    | .error _ => .error (.of "stream did not contain valid UTF-8")
    | .ok text => (ofText text).mapError fun flaw => .of flaw.message

def fileName : String := "config.toml"

/-- The settings of a named file. -/
def load (s : Surroundings) (path : String) : Except Fault Settings :=
  (ofFile s path).map (withVars s)

/-- The settings where none are named. -/
def loadDefault (s : Surroundings) : Except Fault Settings :=
  match s.dataDir with
  | .error why => .error why
  | .ok dir =>
    let own := Disk.join dir fileName
    if s.disk.isPresent own then load s own
    else if s.disk.isPresent fileName then load s fileName
    else .ok (withVars s default)

end Settings

end Pipework
