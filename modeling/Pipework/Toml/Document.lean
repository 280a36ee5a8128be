import Pipework.Toml.Scalar

/-!
# TOML documents

Reading a whole document: values with arrays and inline tables, keys, headers, and the lines that
they stand on. Comments and blank lines may stand anywhere between lines and inside arrays.
-/

namespace Pipework.Toml

/-! ## Between values -/

def spaces (cs : List Char) : List Char := cs.dropWhile isSpace

/-- The text behind a comment, which ends before the newline. -/
def comment (cs : List Char) : List Char :=
  match cs with
  | '#' :: rest => rest.dropWhile isPlain
  | cs => cs

/-- Leaves out spaces, newlines and comments. -/
def gap : Nat → List Char → List Char
  | 0, cs => cs
  | fuel + 1, cs =>
    match newline? cs with
    | some rest => gap fuel rest
    | none =>
      match cs with
      | c :: rest =>
        if isSpace c then gap fuel rest
        else if c == '#' then gap fuel (comment cs)
        else cs
      | [] => []

/-- The end of a line: spaces, a comment, and a newline or the end of the document. -/
def lineEnd : Reader Unit := fun cs =>
  let cs := comment (spaces cs)
  match newline? cs with
  | some rest => .ok ((), rest)
  | none => if cs.isEmpty then .ok ((), []) else fail .unexpected cs

/-- Keys have fewer parts than this, and arrays and inline tables fewer levels. -/
def depthLimit : Nat := 80

/-! ## Keys -/

def isBare (c : Char) : Bool := c.isAlphanum || c == '_' || c == '-'

def keyPart : Reader String := fun cs =>
  match cs with
  | '"' :: rest => line '"' true rest
  | '\'' :: rest => line '\'' false rest
  | cs =>
    let name := cs.takeWhile isBare
    if name.isEmpty then fail .unexpected cs
    else .ok (String.ofList name, cs.dropWhile isBare)

/-- The parts of a key, with points between them. -/
def keyParts : Nat → Reader (List String)
  | 0, cs => fail .unexpected cs
  | fuel + 1, cs =>
    match keyPart (spaces cs) with
    | .error flaw => .error flaw
    | .ok (part, rest) =>
      match spaces rest with
      | '.' :: rest => (keyParts fuel rest).map fun (parts, rest) => (part :: parts, rest)
      | rest => .ok ([part], rest)

def key : Reader (List String) := fun cs =>
  match keyParts (cs.length + 1) cs with
  | .error flaw => .error flaw
  | .ok (parts, rest) => if depthLimit ≤ parts.length then fail .tooDeep cs else .ok (parts, rest)

/-! ## Values -/

/-- The items of an array behind its bracket; a comma may stand behind the last one. -/
def items (value : Reader Toml) : Nat → Reader (List Toml)
  | 0, cs => fail .unexpected cs
  | fuel + 1, cs =>
    match gap cs.length cs with
    | ']' :: rest => .ok ([], rest)
    | cs =>
      match value cs with
      | .error flaw => .error flaw
      | .ok (item, rest) =>
        match gap rest.length rest with
        | ',' :: rest => (items value fuel rest).map fun (more, rest) => (item :: more, rest)
        | ']' :: rest => .ok ([item], rest)
        | rest => fail .unexpected rest

def assignment (value : Reader Toml) : Reader (List String × Toml) := fun cs =>
  match key cs with
  | .error flaw => .error flaw
  | .ok (parts, '=' :: rest) =>
    (value (spaces rest)).map fun (v, rest) => ((parts, v), rest)
  | .ok (_, rest) => fail .unexpected rest

/-- The fields of an inline table behind its brace. No comma stands behind the last one. -/
def fields (value : Reader Toml) : Nat → Reader (List (List String × Toml))
  | 0, cs => fail .unexpected cs
  | fuel + 1, cs =>
    match assignment value cs with
    | .error flaw => .error flaw
    | .ok (field, rest) =>
      match spaces rest with
      | ',' :: rest => (fields value fuel rest).map fun (more, rest) => (field :: more, rest)
      | '}' :: rest => .ok ([field], rest)
      | rest => fail .unexpected rest

def inlineTable (assignments : List (List String × Toml)) : Except Cause Toml :=
  (assignments.foldlM (fun known (parts, v) => addAt [] parts v known) []).map (.table .inline)

def braced (value : Reader Toml) : Reader Toml := fun cs =>
  match spaces cs with
  | '}' :: rest => .ok (.table .inline [], rest)
  | cs =>
    match fields value (cs.length + 1) cs with
    | .error flaw => .error flaw
    | .ok (assignments, rest) =>
      match inlineTable assignments with
      | .ok t => .ok (t, rest)
      | .error cause => fail cause cs

/-- A value; one less than the number is how many more levels it may have. -/
def value : Nat → Reader Toml
  | 0, cs => fail .tooDeep cs
  | depth + 1, cs =>
    match cs with
    | '"' :: _ | '\'' :: _ => (quoted cs).map fun (s, rest) => (.text s, rest)
    | '[' :: rest =>
      if depth = 0 then fail .tooDeep cs
      else (items (value depth) (rest.length + 1) rest).map fun (vs, rest) => (.array vs, rest)
    | '{' :: rest => if depth = 0 then fail .tooDeep cs else braced (value depth) rest
    | 't' :: 'r' :: 'u' :: 'e' :: rest => .ok (.boolean true, rest)
    | 'f' :: 'a' :: 'l' :: 's' :: 'e' :: rest => .ok (.boolean false, rest)
    | cs =>
      match moment? cs with
      | some (s, rest) => .ok (.moment s, rest)
      | none => number cs

/-! ## Lines -/

/-- The document read so far and the header that it stands under. -/
structure Draft where
  root : Fields
  header : List String

def Draft.change (cs : List Char) (header : List String) :
    Except Cause Fields → Except Flaw Draft
  | .ok root => .ok ⟨root, header⟩
  | .error cause => fail cause cs

/-- A header behind its opening brackets. -/
def headerLine (closing : List Char) (openAt : List String → Fields → Except Cause Fields)
    (d : Draft) : Reader Draft := fun cs =>
  match key cs with
  | .error flaw => .error flaw
  | .ok (parts, rest) =>
    if closing.isPrefixOf rest then
      match lineEnd (rest.drop closing.length), Draft.change cs parts (openAt parts d.root) with
      | .ok (_, rest), .ok d => .ok (d, rest)
      | .error flaw, _ | _, .error flaw => .error flaw
    else fail .unexpected rest

def assignmentLine (d : Draft) : Reader Draft := fun cs =>
  match assignment (value depthLimit) cs with
  | .error flaw => .error flaw
  | .ok ((parts, v), rest) =>
    match lineEnd rest, Draft.change cs d.header (addAt d.header parts v d.root) with
    | .ok (_, rest), .ok d => .ok (d, rest)
    | .error flaw, _ | _, .error flaw => .error flaw

/-- The next line that says something. -/
def contentLine (d : Draft) : Reader Draft
  | '[' :: '[' :: rest => headerLine [']', ']'] openNext d rest
  | '[' :: rest => headerLine [']'] openTable d rest
  | cs => assignmentLine d cs

def lines : Nat → Draft → List Char → Except Flaw Draft
  | 0, d, _ => .ok d
  | fuel + 1, d, cs =>
    match gap cs.length cs with
    | [] => .ok d
    | cs =>
      match contentLine d cs with
      | .ok (d, rest) => lines fuel d rest
      | .error flaw => .error flaw

/-- The fields of a document. A byte order mark may stand in front of it. -/
def read (text : String) : Except Flaw Fields :=
  let cs := text.toList
  let cs := if cs.head? = some '\uFEFF' then cs.drop 1 else cs
  (lines (cs.length + 1) ⟨[], []⟩ cs).map (·.root)

def Flaw.message (text : String) (flaw : Flaw) : String :=
  let before := text.toList.take (text.length - flaw.rest.length)
  "line " ++ toString (before.count '\n' + 1) ++ ": " ++ flaw.cause.message

end Pipework.Toml
