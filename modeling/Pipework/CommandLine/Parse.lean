import Pipework.Command.Basic
import Pipework.CommandLine.Token
import Pipework.Text.Name

/-!
# Command lines

A line is a sequence of statements between semicolons, empty ones left out. A statement that
holds a foreign construct is reported as such; any other is a pipeline of segments, each with its
assignments, words and file redirects.
-/

namespace Pipework.CommandLine

/-- A word `NAME=value`; a value that holds a newline makes it an ordinary word. -/
def assignment? (text : List Char) : Option (String × String) :=
  let name := text.takeWhile (· != '=')
  match text.dropWhile (· != '=') with
  | '=' :: value =>
    if Name.isName name && !value.contains '\n' then some (String.ofList name, String.ofList value)
    else none
  | _ => none

/-- What has been read of a segment. `words` is in reverse and empty until the command is found. -/
structure Segment where
  words : List String
  env : Dict String
  redirects : Redirects

def Segment.empty : Segment := ⟨[], [], .nil⟩

def Segment.addWord (s : Segment) (text : List Char) (quoted : Bool) : Segment :=
  match s.words, quoted, assignment? text with
  | [], false, some (name, value) => { s with env := s.env.insert name value }
  | _, _, _ => { s with words := String.ofList text :: s.words }

def Segment.addFile (s : Segment) (op : String) (target : List Char) : Segment :=
  { s with redirects := s.redirects.append (.file op (String.ofList target) .nil) }

def Segment.command (s : Segment) : Except LineFault Command :=
  match s.words.reverse with
  | [] => .error .noCommand
  | name :: args => .ok (.mk name args s.env s.redirects)

/-- Reads the tokens of one segment; a redirect takes the word behind it. -/
def readSegment (s : Segment) : List Token → Except LineFault Command
  | [] => s.command
  | .word text quoted :: rest => readSegment (s.addWord text quoted) rest
  | .redirect op :: .word target _ :: rest => readSegment (s.addFile op target) rest
  | .redirect op :: _ => .error (.missingTarget op)
  | _ :: rest => readSegment s rest

def construct? (tokens : List Token) : Option Construct :=
  tokens.findSome? fun
    | .foreign c => some c
    | _ => none

/-- Adds the segments behind a `|` to the pipeline read so far. -/
def readPipeline (head : Command) : List (List Token) → Except LineFault Command
  | [] => .ok head
  | segment :: rest =>
    match readSegment .empty segment with
    | .ok c => readPipeline (head.pipeInto c) rest
    | .error fault => .error (.afterPipe fault)

def readStatement (tokens : List Token) : Except LineFault Statement :=
  match construct? tokens with
  | some c => .ok (.unsupported c.name)
  | none =>
    match tokens.splitOn .pipe with
    | [] => .error .noCommand
    | first :: rest =>
      match readSegment .empty first with
      | .ok head => (readPipeline head rest).map .command
      | .error fault => .error fault

/-- The non-empty token sequences between semicolons. -/
def statements (tokens : List Token) : List (List Token) :=
  (tokens.splitOn .semicolon).filter (!·.isEmpty)

def parse (line : String) : Except LineFault (List Statement) :=
  match Token.ofLine line.toList with
  | .ok tokens => (statements tokens).mapM readStatement
  | .error fault => .error fault

end Pipework.CommandLine
