/-!
# Tokens of a command line

Words are made of bare characters, quoted parts and escaped characters standing next to each
other. Single quotes keep everything; double quotes let a backslash escape a quote, a backslash, a
dollar sign and a backquote. A number sign that does not stand inside a word starts a comment.
-/

namespace Pipework

/-- Why a line cannot be read. `afterPipe` marks a fault in a segment that is not the first. -/
inductive LineFault where
  | openSingleQuote
  | openDoubleQuote
  | danglingBackslash
  | missingTarget (operator : String)
  | noCommand
  | afterPipe (inner : LineFault)
  deriving DecidableEq, Repr

def LineFault.message : LineFault → String
  | .openSingleQuote => "unterminated single quote"
  | .openDoubleQuote => "unterminated double quote"
  | .danglingBackslash => "trailing backslash"
  | .missingTarget op => "syntax error: missing target after `" ++ op ++ "`"
  | .noCommand => "syntax error: empty command"
  | .afterPipe inner => "after `|`: " ++ inner.message

/-- Constructs that are recognised and not run. -/
inductive Construct where
  | subshell
  | conditionalList
  | background
  deriving DecidableEq, Repr

def Construct.name : Construct → String
  | .subshell => "subshell"
  | .conditionalList => "and_or_list"
  | .background => "background_job"

/-- A word is `quoted` when it starts with a quote. -/
inductive Token where
  | word (text : List Char) (quoted : Bool)
  | pipe
  | semicolon
  | redirect (operator : String)
  | foreign (construct : Construct)
  deriving DecidableEq, Repr

namespace Token

/-- A word being read, its characters in reverse. -/
structure Draft where
  reversed : List Char
  quoted : Bool
  deriving DecidableEq, Repr

/-- Where the reader stands between two characters. -/
inductive Mode where
  | bare
  | escaped
  | single
  | double
  | doubleEscaped
  deriving DecidableEq, Repr

def openQuoted (draft : Option Draft) : Option Draft := some (draft.getD ⟨[], true⟩)

def openBare (draft : Option Draft) : Option Draft := some (draft.getD ⟨[], false⟩)

def put (c : Char) (draft : Option Draft) : Option Draft :=
  let d := draft.getD ⟨[], false⟩
  some { d with reversed := c :: d.reversed }

/-- The tokens read so far, in reverse, with the word being read added. -/
def close (done : List Token) : Option Draft → List Token
  | none => done
  | some d => .word d.reversed.reverse d.quoted :: done

def isSeparator (c : Char) : Bool := c == ' ' || c == '\t' || c == '\r' || c == '\n'

/-- What a backslash inside double quotes may escape. -/
def isEscapable (c : Char) : Bool := c == '"' || c == '\\' || c == '$' || c == '\x60'

def read (done : List Token) (draft : Option Draft) :
    Mode → List Char → Except LineFault (List Token)
  | .bare, [] => .ok (close done draft).reverse
  | .escaped, [] => .error .danglingBackslash
  | .single, [] => .error .openSingleQuote
  | .double, [] | .doubleEscaped, [] => .error .openDoubleQuote
  | .escaped, c :: rest => read done (put c draft) .bare rest
  | .single, c :: rest =>
    if c = '\'' then read done draft .bare rest else read done (put c draft) .single rest
  | .double, c :: rest =>
    if c = '"' then read done draft .bare rest
    else if c = '\\' then read done draft .doubleEscaped rest
    else read done (put c draft) .double rest
  | .doubleEscaped, c :: rest =>
    if isEscapable c then read done (put c draft) .double rest
    else read done (put c (put '\\' draft)) .double rest
  | .bare, '|' :: '|' :: rest =>
    read (.foreign .conditionalList :: close done draft) none .bare rest
  | .bare, '&' :: '&' :: rest =>
    read (.foreign .conditionalList :: close done draft) none .bare rest
  | .bare, '>' :: '>' :: rest => read (.redirect ">>" :: close done draft) none .bare rest
  | .bare, c :: rest =>
    if isSeparator c then read (close done draft) none .bare rest
    else if c = '#' ∧ draft = none then .ok done.reverse
    else if c = '\'' then read done (openQuoted draft) .single rest
    else if c = '"' then read done (openQuoted draft) .double rest
    else if c = '\\' then read done (openBare draft) .escaped rest
    else if c = '|' then read (.pipe :: close done draft) none .bare rest
    else if c = '&' then read (.foreign .background :: close done draft) none .bare rest
    else if c = ';' then read (.semicolon :: close done draft) none .bare rest
    else if c = '(' ∨ c = ')' then read (.foreign .subshell :: close done draft) none .bare rest
    else if c = '>' then read (.redirect ">" :: close done draft) none .bare rest
    else if c = '<' then read (.redirect "<" :: close done draft) none .bare rest
    else read done (put c draft) .bare rest

def ofLine (line : List Char) : Except LineFault (List Token) := read [] none .bare line

end Token

end Pipework
