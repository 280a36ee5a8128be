import Pipework.Builtin
import Pipework.Catalogue.AliasWords
import Pipework.Disk

/-!
# Catalogues

A catalogue finds out what a command name stands for: an alias first, then a program in the modules
directory, then a built-in. It looks at no more than one file, and what it asks for is settled
before anything is read: `inquire` gives the answer or the path whose content decides it.
-/

namespace Pipework

structure Catalogue where
  modulesDir : Option String
  aliases : Dict String

namespace Catalogue

def moduleExtension : String := "cds"

/-- Names that can be the name of a module file. -/
def isModuleName (name : String) : Bool :=
  let cs := name.toList
  !cs.isEmpty && !cs.contains '/' && !cs.contains '\\' && cs.head? != some '.'

/-- Where the module of a command lies, if it can have one. -/
def modulePath? (c : Catalogue) (name : String) : Option String :=
  match c.modulesDir with
  | some dir =>
    if isModuleName name then some (Disk.join dir (name ++ "." ++ moduleExtension)) else none
  | none => none

/-- An answer, or the path of the one file that has to be looked at first. -/
inductive Inquiry (α : Type) where
  | settled (answer : Except Fault α)
  | file (path : String) (answer : Except Fault (Option Bytes) → Except Fault α)

/-- A missing file is no module; one that is there and cannot be read is a fault. -/
def content (d : Disk) (path : String) : Except Fault (Option Bytes) :=
  match d.find path with
  | .file bytes => .ok (some bytes)
  | .missing => .ok none
  | .directory => .error ((Fault.of "Is a directory (os error 21)").within ("reading " ++ path))
  | .refused message => .error ((Fault.of message).within ("reading " ++ path))

def Inquiry.answer {α : Type} (d : Disk) : Inquiry α → Except Fault α
  | .settled answer => answer
  | .file path answer => answer (content d path)

/-- Asks for the module of a name and goes on without one where there can be none. -/
def withModule {α : Type} (c : Catalogue) (name : String)
    (go : Option Bytes → Except Fault α) : Inquiry α :=
  match c.modulePath? name with
  | none => .settled (go none)
  | some path => .file path fun
    | .ok found => go found
    | .error why => .error why

def quoted (s : String) : String := "\x60" ++ s ++ "\x60"

variable {P : Type}

/-- What an alias target executes. Targets are not aliases themselves. -/
def target (compile : Compiler P) (name : String) (source : Option Bytes) :
    Except Fault (Executable P) :=
  match source with
  | some bytes => (compile name bytes).map fun p => .program p bytes.length
  | none =>
    match Builtin.named? name with
    | some b => .ok (.callback b.callback)
    | none => .error (.of ("alias target " ++ quoted name ++ " not found"))

def inquireAlias (c : Catalogue) (compile : Compiler P) (name line : String)
    (operands : List String) (env : Dict String) : Inquiry (Resolution P) :=
  match AliasWords.split? line with
  | none => .settled (.error (.of ("alias " ++ quoted name ++ ": unbalanced quotes")))
  | some [] => .settled (.error (.of ("alias " ++ quoted name ++ " is empty")))
  | some (first :: words) =>
    c.withModule first fun source =>
      (target compile first source).map fun e => .stage ⟨first :: words ++ operands, env, e⟩

def inquireName (c : Catalogue) (name : String) : Inquiry (Resolution P) :=
  c.withModule name fun
    | some bytes => .ok (.source bytes)
    | none =>
      match Builtin.named? name with
      | some b => .ok (.callback b.callback)
      | none => .error (.of "command not found")

def inquire (c : Catalogue) (compile : Compiler P) (r : Request) : Inquiry (Resolution P) :=
  match r.args with
  | [] => .settled (.error (.of "empty command"))
  | name :: operands =>
    match c.aliases.get? name with
    | some line => c.inquireAlias compile name line operands r.env
    | none => c.inquireName name

/-- The file that deciding about a command name may look at. -/
def fileFor? (c : Catalogue) (name : String) : Option String :=
  match c.aliases.get? name with
  | none => c.modulePath? name
  | some line => AliasWords.split? line >>= List.head? >>= c.modulePath?

def find (c : Catalogue) (compile : Compiler P) (d : Disk) (r : Request) :
    Except Fault (Resolution P) :=
  (c.inquire compile r).answer d

end Catalogue

end Pipework
