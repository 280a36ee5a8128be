import Pipework.Pattern.Basic
import Pipework.Text.Blank
import Pipework.Text.Numeral
import Pipework.Unicode.Property

/-!
# Log filters

A log filter is a list of directives between commas. Each names a level, a target, a span with
fields, or some of these together; only whether one can be used matters here. A directive is walked
through without the blanks around it, but its parts are cut out of the text with them, at the same
positions, which count bytes: blanks in front shift all parts, and wide ones can put a cut inside a
character.
-/

namespace Pipework.LogFilter

/-- Why a directive cannot be used. -/
inductive Flaw where
  | malformed
  /-- A part would begin or end inside a character. -/
  | cutCharacter
  deriving DecidableEq, Repr

/-! ## Parts of a text by their positions -/

/-- The text behind a number of bytes; nothing when that is inside a character. -/
def behind? : Nat → List Char → Option (List Char)
  | 0, cs => some cs
  | _ + 1, [] => none
  | n + 1, c :: rest => if c.utf8Size ≤ n + 1 then behind? (n + 1 - c.utf8Size) rest else none

/-- The text of the first so many bytes. -/
def before? : Nat → List Char → Option (List Char)
  | 0, _ => some []
  | _ + 1, [] => none
  | n + 1, c :: rest =>
    if c.utf8Size ≤ n + 1 then (before? (n + 1 - c.utf8Size) rest).map (c :: ·) else none

def part (text : List Char) (first last : Nat) : Except Flaw (List Char) :=
  match (behind? first text).bind (before? (last - first)) with
  | some cs => .ok cs
  | none => .error .cutCharacter

/-! ## Levels and fields -/

def lower (s : List Char) : String := String.ofList (s.map Char.toLower)

/-- A level is a word or its number. -/
def isLevel (text : List Char) : Bool :=
  text.isEmpty || ["error", "warn", "info", "debug", "trace", "off"].contains (lower text) ||
    match Numeral.parse (String.ofList text) with
    | .ok n => n ≤ 5
    | .error _ => false

def isAlphanumeric (c : Char) : Bool :=
  Unicode.Property.alphabetic.contains c || Unicode.Property.numeric.contains c

def unsigned (cs : List Char) : List Char :=
  match cs with
  | '+' :: rest | '-' :: rest => rest
  | cs => cs

/-- What may follow the digits of a number: nothing, or a power of ten. -/
def isPower : List Char → Bool
  | [] => true
  | c :: rest =>
    let digits := unsigned rest
    c.toLower == 'e' && !digits.isEmpty && digits.all Char.isDigit

def isNumber (text : List Char) : Bool :=
  let cs := unsigned text
  let rest := cs.dropWhile Char.isDigit
  ["inf", "infinity", "nan"].contains (lower cs) ||
    match rest with
    | '.' :: fraction =>
      (cs.head?.any Char.isDigit || fraction.head?.any Char.isDigit) &&
        isPower (fraction.dropWhile Char.isDigit)
    | rest => cs.head?.any Char.isDigit && isPower rest

/-- The value of a field is a number or has to match a pattern, which cannot look for the ends of
words in all scripts. -/
def isValue (text : List Char) : Bool :=
  isNumber text ||
    match Pattern.read text false with
    | .ok expr => !expr.looksAtUnicodeWords
    | .error _ => false

/-- The text of a field: a name, or a name and what its value has to look like. -/
def isField (text : List Char) : Bool :=
  !text.isEmpty &&
    match text.splitOn '=' with
    | _ :: value :: _ => isValue value
    | _ => true

/-! ## Directives -/

/-- How far a directive has been read; parts under way have the position of their beginning. -/
inductive State where
  | start
  | target
  | span (first : Nat)
  | field (first : Nat)
  | fields
  | closed
  | level (first : Nat)
  deriving DecidableEq, Repr

/-- The stand behind a character at a position of the text. -/
def State.next (text : List Char) (position : Nat) (c : Char) : State → Except Flaw State
  | .start =>
    if c == '[' then .ok (.span (position + 1))
    else if c == '-' || c == ':' || c == '_' || isAlphanumeric c then .ok .target
    else .error .malformed
  | .target =>
    if c == '=' then do
      let _ ← part text 0 position
      pure (.level (position + 1))
    else if c == '[' then do
      let _ ← part text 0 position
      pure (.span (position + 1))
    else .ok .target
  | .span first =>
    if c == ']' then do
      let _ ← part text first position
      pure .closed
    else if c == '\x7b' then do
      let _ ← part text first position
      pure (.field (position + 1))
    else .ok (.span first)
  | .field first =>
    if c == '\x7d' then do
      if isField (← part text first position) then pure .fields else .error .malformed
    else .ok (.field first)
  | .fields => if c == ']' then .ok .closed else .error .malformed
  | .closed => if c == '=' then .ok (.level (position + 1)) else .error .malformed
  | .level first => .ok (.level first)

def states (text : List Char) : Nat → State → List Char → Except Flaw State
  | _, s, [] => .ok s
  | position, s, c :: rest => do
    states text (position + c.utf8Size) (← s.next text position c) rest

def directive (text : List Char) : Except Flaw Unit := do
  match ← states text 0 .start (Blank.trimEnd (Blank.trimStart text)) with
  | .target | .closed => pure ()
  | .level first =>
    match behind? first text with
    | some level => if isLevel level then pure () else .error .malformed
    | none => .error .cutCharacter
  | _ => .error .malformed

def directives (text : String) : List (List Char) :=
  (text.toList.splitOn ',').filter (!·.isEmpty)

/-- The first flaw of a filter. -/
def flaw? (text : String) : Option Flaw :=
  (directives text).findSome? fun d =>
    match directive d with
    | .ok () => none
    | .error why => some why

/-- Whether some directive cuts a character, the malformed ones being passed over. -/
def cutsCharacter (text : String) : Bool :=
  (directives text).any fun d => directive d matches .error .cutCharacter

end Pipework.LogFilter
