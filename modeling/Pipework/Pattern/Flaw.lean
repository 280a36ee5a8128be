/-!
# Flaws of patterns

What can be wrong with a pattern, where, and the notice that shows the place: the pattern with
carets under the offending stretch. A pattern of several lines is shown with line numbers between
two rulers.
-/

namespace Pipework.Pattern

/-- A place in a pattern; lines and columns count characters from one. -/
structure Place where
  line : Nat
  column : Nat
  deriving DecidableEq, Repr

def Place.start : Place := ⟨1, 1⟩

def Place.after (p : Place) (c : Char) : Place :=
  if c = '\n' then ⟨p.line + 1, 1⟩ else ⟨p.line, p.column + 1⟩

structure Span where
  start : Place
  stop : Place
  deriving DecidableEq, Repr

inductive Flaw where
  | classEscape
  | classRange
  | classRangeLiteral
  | classUnclosed
  | decimalEmpty
  | decimalInvalid
  | hexEmpty
  | hexInvalid
  | hexDigit
  | escapeCut
  | escapeUnknown
  | flagDanglingNegation
  | flagTwice
  | flagNegationTwice
  | flagCut
  | flagUnknown
  | nameTwice
  | nameEmpty
  | nameInvalid
  | nameCut
  | groupUnclosed
  | groupUnopened
  | nesting (limit : Nat)
  | countOrder
  | countEmpty
  | countUnclosed
  | nothingToRepeat
  | boundaryUnclosed
  | boundaryUnknown
  | boundaryCut
  | propertyInvalid
  | backreference
  | lookAround
  | unicodeNotAllowed
  | invalidUtf8
  | propertyUnknown
  | propertyValueUnknown
  deriving DecidableEq, Repr

def Flaw.message : Flaw → String
  | .classEscape => "invalid escape sequence found in character class"
  | .classRange => "invalid character class range, the start must be <= the end"
  | .classRangeLiteral => "invalid range boundary, must be a literal"
  | .classUnclosed => "unclosed character class"
  | .decimalEmpty => "decimal literal empty"
  | .decimalInvalid => "decimal literal invalid"
  | .hexEmpty => "hexadecimal literal empty"
  | .hexInvalid => "hexadecimal literal is not a Unicode scalar value"
  | .hexDigit => "invalid hexadecimal digit"
  | .escapeCut => "incomplete escape sequence, reached end of pattern prematurely"
  | .escapeUnknown => "unrecognized escape sequence"
  | .flagDanglingNegation => "dangling flag negation operator"
  | .flagTwice => "duplicate flag"
  | .flagNegationTwice => "flag negation operator repeated"
  | .flagCut => "expected flag but got end of regex"
  | .flagUnknown => "unrecognized flag"
  | .nameTwice => "duplicate capture group name"
  | .nameEmpty => "empty capture group name"
  | .nameInvalid => "invalid capture group character"
  | .nameCut => "unclosed capture group name"
  | .groupUnclosed => "unclosed group"
  | .groupUnopened => "unopened group"
  | .nesting limit => s!"exceed the maximum number of nested parentheses/brackets ({limit})"
  | .countOrder => "invalid repetition count range, the start must be <= the end"
  | .countEmpty => "repetition quantifier expects a valid decimal"
  | .countUnclosed => "unclosed counted repetition"
  | .nothingToRepeat => "repetition operator missing expression"
  | .boundaryUnclosed =>
    "special word boundary assertion is either unclosed or contains an invalid character"
  | .boundaryUnknown =>
    "unrecognized special word boundary assertion, valid choices are: start, end, start-half " ++
      "or end-half"
  | .boundaryCut =>
    "found either the beginning of a special word boundary or a bounded repetition on a \\b with " ++
      "an opening brace, but no closing brace"
  | .propertyInvalid => "invalid Unicode character class"
  | .backreference => "backreferences are not supported"
  | .lookAround => "look-around, including look-ahead and look-behind, is not supported"
  | .unicodeNotAllowed => "Unicode not allowed here"
  | .invalidUtf8 => "pattern can match invalid UTF-8"
  | .propertyUnknown => "Unicode property not found"
  | .propertyValueUnknown => "Unicode property value not found"

/-- A flaw with the stretch it is about, and an earlier stretch that it refers to. -/
structure Defect where
  flaw : Flaw
  span : Span
  earlier : Option Span := none
  deriving DecidableEq, Repr

namespace Defect

def spaces (n : Nat) : List Char := List.replicate n ' '

/-- Carets under the given stretches of one line, which are in order; every one has a caret. -/
def carets : Nat → List Span → List Char
  | _, [] => []
  | position, span :: rest =>
    let lead := span.start.column - 1 - position
    let width := max 1 (span.stop.column - span.start.column)
    spaces lead ++ List.replicate width '^' ++ carets (position + lead + width) rest

def isBefore (a b : Span) : Bool :=
  a.start.line < b.start.line || (a.start.line == b.start.line && a.start.column ≤ b.start.column)

def spans (d : Defect) : List Span :=
  match d.earlier with
  | none => [d.span]
  | some e => if isBefore e d.span then [e, d.span] else [d.span, e]

/-- One line of the pattern, and the line of carets under it when a stretch lies in it. -/
def noteLine (d : Defect) (width index : Nat) (line : List Char) : List Char :=
  let number := (toString index).toList
  let lead := if width = 0 then spaces 4 else spaces (width - number.length) ++ number ++ [':', ' ']
  let here := d.spans.filter fun s => s.start.line == index && s.stop.line == index
  let under :=
    if here.isEmpty then []
    else spaces (if width = 0 then 4 else width + 2) ++ carets 0 here ++ ['\n']
  lead ++ line ++ '\n' :: under

/-- The lines of a pattern; a carriage return before a newline is no part of its line. -/
def linesOf (pattern : List Char) : List (List Char) :=
  let pieces := pattern.splitOn '\n'
  let strip (piece : List Char) := if piece.getLast? = some '\r' then piece.dropLast else piece
  let last := pieces.getLastD []
  pieces.dropLast.map strip ++ (if last.isEmpty then [] else [last])

def notice (d : Defect) (pattern : List Char) : String :=
  let lines := linesOf pattern
  let severalLines := pattern.contains '\n'
  let count := lines.length + (if pattern.getLast? = some '\n' then 1 else 0)
  let width := if count ≤ 1 then 0 else (toString count).length
  let body := (lines.zipIdx 1).flatMap fun (line, index) => d.noteLine width index line
  let ruler := if severalLines then List.replicate 79 '~' ++ ['\n'] else []
  let across := (d.spans.filter fun s => s.start.line != s.stop.line).map fun s =>
    s!"on line {s.start.line} (column {s.start.column}) through line {s.stop.line} " ++
      s!"(column {s.stop.column - 1})"
  let notes := if severalLines && !across.isEmpty then "\n".intercalate across ++ "\n" else ""
  "regex parse error:\n" ++ String.ofList (ruler ++ body ++ ruler) ++ notes ++ "error: " ++
    d.flaw.message

end Defect

end Pipework.Pattern
