import Pipework.FileStore
import Pipework.Options
import Pipework.Script.Compile
import Pipework.Script.Run
import Pipework.Settings.LogFilter
import Pipework.Settings.Session
import Pipework.Shell

/-!
# Launching the program

From the words that the program was called with to the session that it carries through, and what
becomes of it where the words, the settings or the log do not allow one.
-/

namespace Pipework

/-- A program ready to work: one line to carry out, or a shell. -/
structure Launch where
  settings : Settings
  command : Option String

/-- How the program ends where it does not begin to work. -/
inductive Launch.Refusal where
  | help
  | version
  | misuse
  | fault (why : ProgramFault)
  /-- The program breaks off where it should have said something. -/
  | crash
  deriving DecidableEq, Repr

namespace Launch

def Refusal.exitCode : Refusal → Nat
  | .help | .version => 0
  | .misuse => 2
  | .fault why => why.exitCode
  | .crash => 101

def Refusal.output : Refusal → String
  | .help => Options.helpText
  | .version => Options.versionText
  | .misuse | .fault _ | .crash => ""

/-- What is said on the error stream. -/
def Refusal.complaint : Refusal → String
  | .help | .version => ""
  | .misuse => "error: invalid arguments\n\nFor more information, try '--help'.\n"
  | .fault why => why.message ++ "\n"
  | .crash => "a log directive is cut inside a character\n"

/-- What is wrong with the filter in force. One in the variables takes precedence over that of the
settings; its malformed directives do not count. -/
def filterFlaw? (s : Surroundings) (l : Settings.Logging) : Option LogFilter.Flaw :=
  match (s.var? "RUST_LOG").filter fun filter => Blank.trim filter != "" with
  | some filter => if LogFilter.cutsCharacter filter then some .cutCharacter else none
  | none => LogFilter.flaw? l.level

/-- Why nothing can be logged as the settings say. -/
def logFlaw? (s : Surroundings) (l : Settings.Logging) : Option Refusal :=
  let directory := (l.directory.map Blank.trim).filter (· != "")
  let fault (message : String) : Option Refusal := some (.fault (.command message))
  if !l.enabled then none
  else match filterFlaw? s l with
    | some .malformed => fault "invalid filter directive"
    | some .cutCharacter => some .crash
    | none =>
      if l.file && !(directory.map s.disk.canBeDirectory).getD true then
        fault "create log dir failed: File exists (os error 17)"
      else if !l.console && !l.file then fault "logging disabled for both console and file"
      else none

def ofOptions (s : Surroundings) (o : Options) : Except Refusal Launch :=
  let loaded := match o.settingsPath with
    | some path => Settings.load s path
    | none => Settings.loadDefault s
  match loaded with
  | .error why => .error (.fault (.settings why.short))
  | .ok settings =>
    let settings := o.applyTo s settings
    match logFlaw? s settings.logging with
    | some refusal => .error refusal
    | none => .ok ⟨settings, o.command⟩

/-- The paths that are looked at before the program begins to work. -/
def paths (vars : Dict String) (words : List String) : List String :=
  let s : Surroundings := ⟨vars, ⟨[]⟩⟩
  let settings := match Options.ofWords words with
    | .ok o => o.settingsPath.toList
    | .error _ => []
  let own := match s.dataDir with
    | .ok dir => [Disk.join dir Settings.fileName, Disk.join dir "commands"]
    | .error _ => []
  settings ++ Settings.fileName :: own

def ofWords (s : Surroundings) (words : List String) : Except Refusal Launch :=
  match Options.ofWords words with
  | .error .help => .error .help
  | .error .version => .error .version
  | .error .misuse => .error .misuse
  | .ok o => ofOptions s o

/-- Where output goes without a terminal: there is no status line and no known size. -/
def plainConsole : Console := ⟨true, false, none⟩

def session (l : Launch) (input : LineSource) : Session FileStore :=
  ⟨.empty, l.settings.factory, some input, [], []⟩

def shell (l : Launch) (disk : Disk) (console : Console) (prompt : Option String) : Shell Script :=
  ⟨l.settings.setting Script.compile disk console, prompt⟩

/-- The files that resolving a line may look at. -/
def modulePaths (l : Launch) (line : String) : List String :=
  match CommandLine.parse line with
  | .ok [.command c] => c.chain.filterMap fun c => l.settings.catalogue.fileFor? c.name
  | _ => []

/-- Carries the launched program through on an input that is all there. -/
def perform (l : Launch) (disk : Disk) (turns : Nat) (input : LineSource) :
    Nat × Session FileStore :=
  let shell := l.shell disk plainConsole none
  match l.command with
  | some line =>
    let r := shell.carryOut turns line (l.session input)
    (Shell.exitCode r, r.session)
  | none => shell.interact turns (l.session input)

end Launch

/-- What was printed in a session. -/
def Session.printed {F : Type} (s : Session F) : List String :=
  s.effects.reverse.filterMap fun
    | .print text => some text
    | _ => none

end Pipework
