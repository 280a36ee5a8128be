import Pipework.Command.Basic
import Pipework.Json

/-!
# Command trees as records

The JSON form of statements. Writing gives every field. Reading takes arguments, environment and
redirects as empty when they are absent, ignores unknown fields, and refuses everything else.

A record may also be given as the list of its fields in order, and one with a tag as such a list
behind the tag. Inside a command, where records are read from a value that was taken in before, the
tag may be the number of what it names.
-/

namespace Pipework

namespace Json

/-- A field of a record whose fields are `keys`. -/
def entry? (keys : List String) (key : String) : Json → Option Json
  | .object fields => Dict.get? fields key
  | .array items =>
    if items.length ≤ keys.length then Dict.get? (keys.zip items) key else none
  | _ => none

/-- The tag of a record, and the record behind it. -/
def tagged? : Json → Option (Json × Json)
  | .object fields => (Dict.get? fields "type").map fun tag => (tag, .object fields)
  | .array (tag :: items) => some (tag, .array items)
  | _ => none

end Json

/-- What a redirect leads to. -/
inductive Redirects.Kind where
  | pipe
  | file
  deriving DecidableEq, Repr

def Redirects.kind? : Json → Option Kind
  | .text "pipe" | .number 0 => some .pipe
  | .text "file" | .number 1 => some .file
  | _ => none

namespace Command

def keys : List String := ["command", "args", "env", "redirects"]

def wordToJson (s : String) : Json := .object [("value", .text s)]

mutual
def toJson : Command → Json
  | .mk name args env redirects => .object
    [("args", .array (args.map wordToJson)), ("command", wordToJson name),
      ("env", .object (Dict.mapValues wordToJson env)),
      ("redirects", .array (redirectsToJson redirects))]

def redirectsToJson : Redirects → List Json
  | .nil => []
  | .pipe next rest =>
    .object [("command", toJson next), ("type", .text "pipe")] :: redirectsToJson rest
  | .file op target rest =>
    .object [("op", .text op), ("target", wordToJson target), ("type", .text "file")] ::
      redirectsToJson rest
end

def wordOfJson? (j : Json) : Option String := j.entry? ["value"] "value" >>= Json.text?

def wordsOfJson? : List Json → Option (List String)
  | [] => some []
  | j :: rest => do
    let word ← wordOfJson? j
    let words ← wordsOfJson? rest
    pure (word :: words)

def envOfJson? : List (String × Json) → Option (Dict String)
  | [] => some []
  | (key, j) :: rest => do
    let word ← wordOfJson? j
    let env ← envOfJson? rest
    pure (env.insert key word)

/-- The items of a list field; an absent field is an empty list. -/
def itemsOrNone? (j : Json) (key : String) : Option (List Json) :=
  match j.entry? keys key with
  | none => some []
  | some (.array items) => some items
  | some _ => none

def envOrNone? (j : Json) : Option (Dict String) :=
  match j.entry? keys "env" with
  | none => some []
  | some (.object entries) => envOfJson? entries
  | some _ => none

/-- A bound on the nesting of a value. -/
def depth : Json → Nat
  | .array items => depthItems items + 1
  | .object fields => depthFields fields + 1
  | _ => 0
where
  depthItems : List Json → Nat
    | [] => 0
    | j :: rest => max (depth j) (depthItems rest)
  depthFields : List (String × Json) → Nat
    | [] => 0
    | (_, j) :: rest => max (depth j) (depthFields rest)

mutual
/-- Reads commands nested at most `fuel` pipes deep. -/
def ofJsonWithin? (fuel : Nat) (j : Json) : Option Command := do
  let name ← j.entry? keys "command" >>= wordOfJson?
  let args ← itemsOrNone? j "args" >>= wordsOfJson?
  let env ← envOrNone? j
  let redirects ← itemsOrNone? j "redirects" >>= redirectsOfJsonWithin? fuel
  pure (.mk name args env redirects)
termination_by (fuel, 1, 0)

def redirectsOfJsonWithin? : Nat → List Json → Option Redirects
  | _, [] => some .nil
  | fuel, j :: rest => do
    let tail ← redirectsOfJsonWithin? fuel rest
    let (tag, body) ← j.tagged?
    match Redirects.kind? tag with
    | some .pipe =>
      match fuel with
      | 0 => none
      | fuel + 1 => do
        let next ← body.entry? ["command"] "command" >>= ofJsonWithin? fuel
        pure (.pipe next tail)
    | some .file => do
      let op ← body.entry? ["op", "target"] "op" >>= Json.text?
      let target ← body.entry? ["op", "target"] "target" >>= wordOfJson?
      pure (.file op target tail)
    | none => none
termination_by fuel items => (fuel, 0, items.length)
end

def ofJson? (j : Json) : Option Command := ofJsonWithin? (depth j) j

end Command

namespace Statement

def toJson : Statement → Json
  | .command c =>
    match c.toJson with
    | .object fields => .object (Dict.insert "type" (.text "command") fields)
    | other => other
  | .unsupported construct =>
    .object [("kind", .text construct), ("type", .text "unsupported")]

/-- Here a tag must be a text. -/
def ofJson? (j : Json) : Option Statement :=
  match j.tagged? with
  | some (.text "command", body) => (Command.ofJson? body).map .command
  | some (.text "unsupported", body) =>
    (body.entry? ["kind"] "kind" >>= Json.text?).map .unsupported
  | _ => none

end Statement

end Pipework
