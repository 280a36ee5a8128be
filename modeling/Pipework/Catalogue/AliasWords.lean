/-!
# Words of an alias line

Words are separated by spaces, tabs and newlines. Quotes and backslashes work as in a shell, a
backslash before a newline stands for nothing, and a number sign where a word would start begins a
comment. A line whose quotes do not close has no words.
-/

namespace Pipework.AliasWords

inductive Mode where
  | between
  | comment
  | bare
  | escaped
  | single
  | double
  | doubleEscaped
  deriving DecidableEq, Repr

def isSeparator (c : Char) : Bool := c == ' ' || c == '\t' || c == '\n'

/-- What a backslash inside double quotes may escape. -/
def isEscapable (c : Char) : Bool := c == '$' || c == '\x60' || c == '"' || c == '\\'

/-- `done` are the finished words and `word` the characters of the present one, both last first. -/
def read (done : List String) (word : List Char) : Mode → List Char → Option (List String)
  | .between, [] | .comment, [] => some done.reverse
  | .bare, [] => some (String.ofList word.reverse :: done).reverse
  | .escaped, [] | .single, [] | .double, [] | .doubleEscaped, [] => none
  | .comment, c :: rest => read done [] (if c = '\n' then .between else .comment) rest
  | .escaped, c :: rest => read done (if c = '\n' then word else c :: word) .bare rest
  | .single, c :: rest =>
    if c = '\'' then read done word .bare rest else read done (c :: word) .single rest
  | .double, c :: rest =>
    if c = '"' then read done word .bare rest
    else if c = '\\' then read done word .doubleEscaped rest
    else read done (c :: word) .double rest
  | .doubleEscaped, c :: rest =>
    if isEscapable c then read done (c :: word) .double rest
    else if c = '\n' then read done word .double rest
    else read done (c :: '\\' :: word) .double rest
  | .between, c :: rest =>
    if isSeparator c then read done [] .between rest
    else if c = '#' then read done [] .comment rest
    else if c = '\'' then read done [] .single rest
    else if c = '"' then read done [] .double rest
    else if c = '\\' then read done [] .escaped rest
    else read done [c] .bare rest
  | .bare, c :: rest =>
    if isSeparator c then read (String.ofList word.reverse :: done) [] .between rest
    else if c = '\'' then read done word .single rest
    else if c = '"' then read done word .double rest
    else if c = '\\' then read done word .escaped rest
    else read done (c :: word) .bare rest

def split? (line : String) : Option (List String) := read [] [] .between line.toList

end Pipework.AliasWords
