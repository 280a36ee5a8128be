import Pipework.Dict

/-!
# TOML values

A value of a TOML document. Tables know how they came into being, since that decides what may still
be added to them: a header may add to a table that is only implied by longer headers, and a dotted
key only to one that no header or braces have written out.
-/

namespace Pipework

/-- How a table came into being. -/
inductive Toml.Origin where
  /-- The document itself, or a header of its own. -/
  | header
  /-- A longer header. -/
  | implied
  /-- A dotted key. -/
  | dotted
  /-- Braces; nothing can be added. -/
  | inline
  deriving DecidableEq, Repr

inductive Toml where
  | text (s : String)
  | integer (n : Int)
  /-- A number with a fraction or an exponent, an infinity or no number at all. -/
  | float
  | boolean (b : Bool)
  /-- A date, a time or both, in plain writing. -/
  | moment (s : String)
  | array (items : List Toml)
  | table (origin : Toml.Origin) (fields : List (String × Toml))
  /-- Tables under one repeated header, the newest apart and the others last first. -/
  | tables (newest : List (String × Toml)) (older : List Toml)
  deriving Inhabited

namespace Toml

/-- What can be wrong with a document. -/
inductive Cause where
  | unexpected
  | outOfRange
  | tooDeep
  | redefined (key : String)
  deriving DecidableEq, Repr

def Cause.message : Cause → String
  | .unexpected => "unexpected text"
  | .outOfRange => "value out of range"
  | .tooDeep => "nested too deeply"
  | .redefined key => "cannot define " ++ key ++ " again"

abbrev Fields := Dict Toml

/-- Edits the table at a path below a table, and makes the tables on the way that are missing. A
dotted path leads through no table with a header of its own; both lead into the newest of repeated
tables. -/
def editAt (dotted : Bool) (edit : Origin → Fields → Except Cause Fields) :
    List String → Origin → Fields → Except Cause Fields
  | [], origin, fields => edit origin fields
  | key :: path, _, fields =>
    match Dict.get? fields key with
    | none =>
      let origin : Origin := if dotted then .dotted else .implied
      (editAt dotted edit path origin []).map fun inner => Dict.insert key (.table origin inner) fields
    | some (.table .inline _) => .error (.redefined key)
    | some (.table origin inner) =>
      if dotted && origin == .header then .error (.redefined key)
      else (editAt dotted edit path origin inner).map fun inner =>
        Dict.insert key (.table origin inner) fields
    | some (.tables newest older) =>
      (editAt dotted edit path .header newest).map fun newest =>
        Dict.insert key (.tables newest older) fields
    | some _ => .error (.redefined key)

/-- Adds a value under a dotted key. Only a table made by dotted keys can be added to by more of
them. -/
def addUnder (path : List String) (key : String) (value : Toml) (origin : Origin) (fields : Fields) :
    Except Cause Fields :=
  editAt true (fun origin fields =>
    if (origin == .dotted) == path.isEmpty || (Dict.get? fields key).isSome then
      .error (.redefined key)
    else .ok (Dict.insert key value fields)) path origin fields

/-- The path and the last part of a key. -/
def splitKey (parts : List String) : List String × String := (parts.dropLast, parts.getLastD "")

/-- Adds a value under a key in the table of a header. -/
def addAt (header key : List String) (value : Toml) (document : Fields) : Except Cause Fields :=
  let (path, last) := splitKey key
  editAt false (addUnder path last value) header .header document

/-- Writes out the table of a header: a new one, or one that was only implied so far. -/
def openTable (header : List String) (document : Fields) : Except Cause Fields :=
  let (path, key) := splitKey header
  editAt false (fun _ fields =>
    match Dict.get? fields key with
    | none => .ok (Dict.insert key (.table .header []) fields)
    | some (.table .implied inner) => .ok (Dict.insert key (.table .header inner) fields)
    | some _ => .error (.redefined key)) path .header document

/-- Begins the next table of a repeated header. -/
def openNext (header : List String) (document : Fields) : Except Cause Fields :=
  let (path, key) := splitKey header
  editAt false (fun _ fields =>
    match Dict.get? fields key with
    | none => .ok (Dict.insert key (.tables [] []) fields)
    | some (.tables newest older) =>
      .ok (Dict.insert key (.tables [] (.table .header newest :: older)) fields)
    | some _ => .error (.redefined key)) path .header document

end Toml

end Pipework
