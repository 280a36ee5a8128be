import Pipework.Pattern.Tree
import Pipework.Text.Blank
import Pipework.Unicode.Property

/-!
# Reading patterns

From the text of a pattern to its tree. The reader goes from left to right and reports the first
flaw it meets; whatever is left open at the end is reported at the place where it was opened.
-/

namespace Pipework.Pattern

namespace Reader

structure State where
  rest : List Char
  place : Place
  verbose : Bool
  /-- Names of groups, with the places they were given at. -/
  names : List (String × Span)
  /-- How many numbered groups were opened. -/
  groups : Nat

abbrev Read (α : Type) := StateT State (Except Defect) α

/-! ## Characters -/

def fail {α : Type} (flaw : Flaw) (span : Span) (earlier : Option Span := none) : Read α :=
  throw ⟨flaw, span, earlier⟩

def peek? : Read (Option Char) := return (← get).rest.head?

def here : Read Place := return (← get).place

/-- The empty stretch at the present place. -/
def hereSpan : Read Span := do
  let p ← here
  return ⟨p, p⟩

def spanFrom (start : Place) : Read Span := return ⟨start, ← here⟩

/-- The stretch of the next character. -/
def charSpan : Read Span := do
  let p ← here
  match ← peek? with
  | some c => return ⟨p, p.after c⟩
  | none => return ⟨p, p⟩

/-- Passes one character; false when the pattern ends there. -/
def bump : Read Bool := do
  let s ← get
  match s.rest with
  | [] => return false
  | c :: rest =>
    set { s with rest := rest, place := s.place.after c }
    return !rest.isEmpty

/-- Blanks and comments, which a verbose pattern may hold between its parts. -/
def skipped (inComment : Bool) (place : Place) : List Char → Place × List Char
  | [] => (place, [])
  | c :: rest =>
    if inComment then skipped (c != '\n') (place.after c) rest
    else if Blank.isBlank c then skipped false (place.after c) rest
    else if c = '#' then skipped true (place.after c) rest
    else (place, c :: rest)

def skip : Read Unit := do
  let s ← get
  if s.verbose then
    let (place, rest) := skipped false s.place s.rest
    set { s with place := place, rest := rest }

def bumpAndSkip : Read Bool := do
  if ← bump then
    skip
    return !(← get).rest.isEmpty
  else return false

/-- Passes the given text if it comes next. -/
def bumpIf (text : List Char) : Read Bool := do
  if text.isPrefixOf (← get).rest then
    for _ in text do
      let _ ← bump
    return true
  else return false

/-- Passes the first of the given texts that comes next; the others are not tried behind it. -/
def bumpAny : List (List Char) → Read Bool
  | [] => return false
  | text :: texts => do if ← bumpIf text then return true else bumpAny texts

/-- The character behind the next one. -/
def peekSecond? : Read (Option Char) := return (← get).rest[1]?

/-- In a verbose pattern, the character behind the next one and the blanks behind that. -/
def peekSecondSolid? : Read (Option Char) := do
  let s ← get
  if s.verbose then
    let after := s.rest.drop 1
    match after.dropWhile Blank.isBlank with
    | '#' :: more =>
      match more.dropWhile Blank.isBlank with
      | [] => return after.head?
      | c :: _ => return some c
    | [] => return after.head?
    | c :: _ => return some c
  else return s.rest[1]?

/-- As many characters as have a property, blanks of a verbose pattern passed over between them;
`fuel` bounds their number. -/
def takeWhile (accept : Char → Bool) : Nat → List Char → Read (List Char)
  | 0, taken => return taken.reverse
  | fuel + 1, taken => do
    match ← peek? with
    | some c =>
      if accept c then
        let _ ← bumpAndSkip
        takeWhile accept fuel (c :: taken)
      else return taken.reverse
    | none => return taken.reverse

def length : Read Nat := return (← get).rest.length

/-! ## Numbers and escapes -/

def passBlanks : Read Unit := do
  let s ← get
  let blanks := s.rest.takeWhile Blank.isBlank
  set { s with
    rest := s.rest.dropWhile Blank.isBlank
    place := blanks.foldl Place.after s.place }

def decimalLimit : Nat := UInt32.size

/-- A decimal number of 32 bits, or what is wrong with it. -/
def decimal : Read (Except Defect Nat) := do
  passBlanks
  let start ← here
  let digits ← takeWhile Char.isDigit (← length) []
  let span ← spanFrom start
  let _ ← takeWhile Blank.isBlank (← length) []
  let n := digits.foldl (fun n c => n * 10 + (c.toNat - 48)) 0
  if digits.isEmpty then return .error ⟨.countEmpty, span, none⟩
  else if n < decimalLimit then return .ok n
  else return .error ⟨.decimalInvalid, span, none⟩

def isHex (c : Char) : Bool :=
  c.isDigit || ('a' ≤ c && c ≤ 'f') || ('A' ≤ c && c ≤ 'F')

def hexValue (digits : List Char) : Nat :=
  digits.foldl (fun n c =>
    n * 16 + (if c.isDigit then c.toNat - 48 else c.toNat % 32 + 9)) 0

/-- The character with a code point, if there is one. -/
def scalar? (n : Nat) : Option Char := if n.isValidChar then some (Char.ofNat n) else none

def hexDigits (start : Place) (isByte : Bool) : Nat → List Char → Read Literal
  | 0, digits => do
    let _ ← bumpAndSkip
    return ⟨⟨start, ← here⟩, '\x00', isByte && digits.isEmpty⟩
  | count + 1, digits => do
    match ← peek? with
    | none => fail .escapeCut (← hereSpan)
    | some c =>
      if isHex c then
        if count = 0 then
          let _ ← bumpAndSkip
          let span ← spanFrom start
          match scalar? (hexValue (digits ++ [c])) with
          | some char => return ⟨span, char, isByte⟩
          | none => fail .hexInvalid span
        else
          if ← bumpAndSkip then hexDigits start isByte count (digits ++ [c])
          else fail .escapeCut (← hereSpan)
      else fail .hexDigit (← charSpan)

def hexBraced (brace inner : Place) : Nat → List Char → Read Literal
  | 0, _ => do fail .escapeCut (← spanFrom brace)
  | fuel + 1, digits => do
    let more ← bumpAndSkip
    match ← peek? with
    | some '}' =>
      let stop ← here
      let _ ← bumpAndSkip
      if digits.isEmpty then fail .hexEmpty (← spanFrom brace)
      match scalar? (hexValue digits) with
      | some char => return ⟨⟨inner, stop⟩, char, false⟩
      | none => fail .hexInvalid ⟨inner, stop⟩
    | some c =>
      if more then
        if isHex c then hexBraced brace inner fuel (digits ++ [c])
        else fail .hexDigit (← charSpan)
      else fail .escapeCut (← spanFrom brace)
    | none => fail .escapeCut (← spanFrom brace)

/-- A character by its number, behind `\x`, `\u` or `\U`. -/
def hex (start : Place) (letter : Char) : Read Literal := do
  let digits := if letter = 'x' then 2 else if letter = 'u' then 4 else 8
  if !(← bumpAndSkip) then fail .escapeCut (← hereSpan)
  let literal ← match ← peek? with
    | some '{' => do hexBraced (← here) (← charSpan).stop (← length) []
    | _ => do hexDigits (← here) (letter == 'x') digits []
  return { literal with span := ⟨start, ← here⟩ }

def cutAt (mark : List Char) (text : List Char) : Option (List Char × List Char) :=
  (List.range text.length).findSome? fun i =>
    if mark.isPrefixOf (text.drop i) then some (text.take i, text.drop (i + mark.length)) else none

def propertyName (text : List Char) : PropertyName :=
  let valued (cut : List Char × List Char) (equal : Bool) :=
    PropertyName.valued (String.ofList cut.1) (String.ofList cut.2) equal
  match cutAt ['!', '='] text, cutAt [':'] text, cutAt ['='] text with
  | some cut, _, _ => valued cut false
  | none, some cut, _ => valued cut true
  | none, none, some cut => valued cut true
  | none, none, none => .named (String.ofList text)

def bracedName : Nat → List Char → Read (List Char)
  | 0, _ => do fail .escapeCut (← hereSpan)
  | fuel + 1, taken => do
    let _ ← bumpAndSkip
    match ← peek? with
    | some '}' => return taken.reverse
    | some c => bracedName fuel (c :: taken)
    | none => fail .escapeCut (← hereSpan)

/-- The name behind `\p` or `\P`. -/
def property : Read PropertyName := do
  if !(← bumpAndSkip) then fail .escapeCut (← hereSpan)
  match ← peek? with
  | some '{' =>
    let name ← bracedName (← length) []
    let _ ← bump
    return propertyName name
  | some '\\' => fail .propertyInvalid (← charSpan)
  | some c =>
    let _ ← bumpAndSkip
    return .named c.toString
  | none => fail .escapeCut (← hereSpan)

/-- What an escape stands for. -/
inductive Piece where
  | literal (l : Literal)
  | anchor (span : Span) (kind : Anchor)
  | shorthand (span : Span) (kind : Shorthand) (negated : Bool)
  | property (span : Span) (name : PropertyName) (negated : Bool)

def Piece.span : Piece → Span
  | .literal l => l.span
  | .anchor s _ | .shorthand s _ _ | .property s _ _ => s

/-- Characters that mean something outside classes or inside them. -/
def isMeta (c : Char) : Bool := "\\.+*?()|[]\x7b\x7d^$#&-~".toList.contains c

/-- Characters that a backslash may stand before without changing them. -/
def isEscapable (c : Char) : Bool :=
  isMeta c || (c.toNat < 128 && !c.isAlphanum && c != '<' && c != '>')

def isBoundaryChar (c : Char) : Bool := c.isAlpha || c == '-'

/-- What stands in braces behind `\b`; nothing if it does not start like a name. -/
def namedBoundary? (start : Place) : Read (Option Anchor) := do
  let saved ← get
  let brace ← here
  if !(← bumpAndSkip) then fail .boundaryCut (← spanFrom start)
  let inner ← here
  match ← peek? with
  | some c =>
    if isBoundaryChar c then
      let name ← takeWhile isBoundaryChar (← length) []
      if (← peek?) != some '}' then fail .boundaryUnclosed (← spanFrom brace)
      let stop ← here
      let _ ← bump
      match String.ofList name with
      | "start" => return some .wordStart
      | "end" => return some .wordEnd
      | "start-half" => return some .wordStartHalf
      | "end-half" => return some .wordEndHalf
      | _ => fail .boundaryUnknown ⟨inner, stop⟩
    else
      set saved
      return none
  | none =>
    set saved
    return none

def control? : Char → Option Char
  | 'a' => some '\x07'
  | 'f' => some '\x0c'
  | 't' => some '\t'
  | 'n' => some '\n'
  | 'r' => some '\r'
  | 'v' => some '\x0b'
  | _ => none

def anchor? : Char → Option Anchor
  | 'A' => some .textStart
  | 'z' => some .textEnd
  | 'B' => some .notBoundary
  | '<' => some .wordStart
  | '>' => some .wordEnd
  | _ => none

def shorthand? : Char → Option (Shorthand × Bool)
  | 'd' => some (.digit, false)
  | 'D' => some (.digit, true)
  | 's' => some (.space, false)
  | 'S' => some (.space, true)
  | 'w' => some (.word, false)
  | 'W' => some (.word, true)
  | _ => none

/-- An escape that is one letter or sign behind the backslash. -/
def simpleEscape (start : Place) (c : Char) : Read Piece := do
  let _ ← bump
  let span ← spanFrom start
  if isEscapable c then return .literal ⟨span, c, false⟩
  match control? c, anchor? c with
  | some char, _ => return .literal ⟨span, char, false⟩
  | none, some kind => return .anchor span kind
  | none, none =>
    if c = 'b' then
      if (← peek?) = some '{' then
        match ← namedBoundary? start with
        | some kind => return .anchor (← spanFrom start) kind
        | none => return .anchor span .boundary
      else return .anchor span .boundary
    else fail .escapeUnknown span

def escape : Read Piece := do
  let start ← here
  if !(← bump) then fail .escapeCut (← spanFrom start)
  match ← peek? with
  | none => fail .escapeCut (← spanFrom start)
  | some c =>
    if c.isDigit then fail .backreference ⟨start, (← charSpan).stop⟩
    else if c = 'x' ∨ c = 'u' ∨ c = 'U' then return .literal (← hex start c)
    else if c = 'p' ∨ c = 'P' then
      let name ← property
      return .property (← spanFrom start) name (c == 'P')
    else match shorthand? c with
      | some (kind, negated) =>
        let _ ← bump
        return .shorthand (← spanFrom start) kind negated
      | none => simpleEscape start c

/-! ## Classes in brackets -/

/-- One level of open brackets: what was read of it so far. -/
structure Level where
  span : Span
  negated : Bool
  /-- The left side and operator that the items being read are the right side of. -/
  left : Option (SetOp × ClassNode)
  /-- Where the items being read begin. -/
  start : Place
  /-- Items in reverse. -/
  items : List ClassNode

def Level.item (l : Level) (stop : Place) : ClassNode :=
  match l.items with
  | [one] => one
  | items => .union ⟨l.start, stop⟩ items.reverse

/-- The class read so far, with the operator that was waiting for its right side. -/
def Level.value (l : Level) (stop : Place) : ClassNode :=
  let right := l.item stop
  match l.left with
  | none => right
  | some (op, left) => .binary ⟨left.span.start, right.span.stop⟩ op left right

def Level.add (l : Level) (item : ClassNode) : Level := { l with items := item :: l.items }

def Level.addOp (l : Level) (op : SetOp) (stop next : Place) : Level :=
  { l with left := some (op, l.value stop), start := next, items := [] }

def posixNames : List String :=
  ["alnum", "alpha", "ascii", "blank", "cntrl", "digit", "graph", "lower", "print", "punct",
    "space", "upper", "word", "xdigit"]

/-- A class such as `[:alpha:]`; nothing is read if there is none. -/
def posix? : Read (Option ClassNode) := do
  let start ← here
  let rest := (← get).rest
  match rest with
  | '[' :: ':' :: more =>
    let negated := more.head? == some '^'
    let more := if negated then more.drop 1 else more
    let name := more.takeWhile (· != ':')
    match more.dropWhile (· != ':') with
    | ':' :: ']' :: _ =>
      if posixNames.contains (String.ofList name) then
        let width := name.length + 4 + (if negated then 1 else 0)
        for _ in List.range width do
          let _ ← bump
        return some (.posix (← spanFrom start) (String.ofList name) negated)
      else return none
    | _ => return none
  | _ => return none

/-- Passes leading hyphens, which stand for themselves. -/
def leadingHyphens (start : Place) : Nat → List ClassNode → Read (List ClassNode)
  | 0, items => return items
  | fuel + 1, items => do
    if (← peek?) = some '-' then
      let span ← charSpan
      if !(← bumpAndSkip) then fail .classUnclosed ⟨start, start⟩
      leadingHyphens start fuel (.literal ⟨span, '-', false⟩ :: items)
    else return items

/-- An opening bracket, with what may stand only directly behind it. -/
def openBracket : Read Level := do
  let start ← here
  if !(← bumpAndSkip) then fail .classUnclosed (← spanFrom start)
  let negated := (← peek?) == some '^'
  if negated then
    if !(← bumpAndSkip) then fail .classUnclosed (← spanFrom start)
  let first ← here
  let items ← leadingHyphens start (← length) []
  let items ←
    if items.isEmpty && (← peek?) == some ']' then do
      let span ← charSpan
      if !(← bumpAndSkip) then fail .classUnclosed (← spanFrom start)
      pure [ClassNode.literal ⟨span, ']', false⟩]
    else pure items
  return ⟨← spanFrom start, negated, none, first, items⟩

def classPiece : Read Piece := do
  match ← peek? with
  | some '\\' => escape
  | some c =>
    let span ← charSpan
    let _ ← bump
    return .literal ⟨span, c, false⟩
  | none => fail .classUnclosed (← hereSpan)

def Piece.classNode : Piece → Read ClassNode
  | .literal l => return .literal l
  | .shorthand s kind negated => return .shorthand s kind negated
  | .property s name negated => return .property s name negated
  | .anchor s _ => fail .classEscape s

def Piece.endpoint : Piece → Read Literal
  | .literal l => return l
  | piece => fail .classRangeLiteral piece.span

/-- A single item or a range. -/
def classItem (unclosed : Span) : Read ClassNode := do
  let first ← classPiece
  skip
  match ← peek? with
  | none => fail .classUnclosed unclosed
  | some c =>
    let second ← peekSecondSolid?
    if c != '-' || second == some ']' || second == some '-' then first.classNode
    else
      if !(← bumpAndSkip) then fail .classUnclosed unclosed
      let last ← classPiece
      let span : Span := ⟨first.span.start, last.span.stop⟩
      let first ← first.endpoint
      let last ← last.endpoint
      if first.char ≤ last.char then return .range span first last else fail .classRange span

def setOp? (c : Char) : Option SetOp :=
  if c = '&' then some .intersection
  else if c = '-' then some .difference
  else if c = '~' then some .symmetricDifference
  else none

/-- Reads the rest of a class; `outer` are the levels around the present one. -/
def classRest : Nat → List Level → Level → Read ClassNode
  | 0, _, level => fail .classUnclosed level.span
  | fuel + 1, outer, level => do
    skip
    match ← peek? with
    | none => fail .classUnclosed level.span
    | some '[' =>
      match ← posix? with
      | some item => classRest fuel outer (level.add item)
      | none => do
        let inner ← openBracket
        classRest fuel (level :: outer) inner
    | some ']' =>
      let value := level.value (← here)
      let _ ← bump
      let closed := ClassNode.bracketed ⟨level.span.start, ← here⟩ level.negated value
      match outer with
      | [] => return closed
      | around :: outer => classRest fuel outer (around.add closed)
    | some c =>
      match setOp? c with
      | some op =>
        if (← peekSecond?) = some c then
          let stop ← here
          let _ ← bump
          let _ ← bump
          classRest fuel outer (level.addOp op stop (← here))
        else do
          let item ← classItem level.span
          classRest fuel outer (level.add item)
      | none => do
        let item ← classItem level.span
        classRest fuel outer (level.add item)

def bracketClass : Read Node := do
  let fuel ← length
  let level ← openBracket
  match ← classRest (fuel + 1) [] level with
  | .bracketed span negated inner => return .bracketed span negated inner
  | other => return .bracketed other.span false other

/-! ## Groups and repetitions -/

def flagOf? : Char → Option Flag
  | 'i' => some .ignoreCase
  | 'm' => some .multiLine
  | 's' => some .dotAll
  | 'U' => some .swapGreed
  | 'u' => some .unicode
  | 'R' => some .crlf
  | 'x' => some .verbose
  | _ => none

structure FlagList where
  /-- Flags before and behind the hyphen, with their places. -/
  seen : List (Flag × Span)
  on : List Flag
  off : List Flag
  hyphen : Option Span

/-- Flags up to a colon or closing parenthesis. -/
def flagList : Nat → FlagList → Option Span → Read Switches
  | 0, _, _ => do fail .flagCut (← hereSpan)
  | fuel + 1, list, dangling => do
    match ← peek? with
    | none => fail .flagCut (← hereSpan)
    | some c =>
      if c = ':' ∨ c = ')' then
        match dangling with
        | some span => fail .flagDanglingNegation span
        | none => return ⟨list.on, list.off⟩
      else
        let span ← charSpan
        let (list, dangling) ←
          if c = '-' then
            match list.hyphen with
            | some first => fail .flagNegationTwice span (some first)
            | none => pure ({ list with hyphen := some span }, some span)
          else match flagOf? c with
            | none => fail .flagUnknown span
            | some flag =>
              match list.seen.lookup flag with
              | some first => fail .flagTwice span (some first)
              | none =>
                let list := { list with seen := (flag, span) :: list.seen }
                if list.hyphen.isSome then pure ({ list with off := flag :: list.off }, none)
                else pure ({ list with on := flag :: list.on }, none)
        if !(← bump) then fail .flagCut (← hereSpan)
        flagList fuel list dangling

def isNameChar (first : Bool) (c : Char) : Bool :=
  c == '_' || Unicode.Property.alphabetic.contains c ||
    (!first && (c == '.' || c == '[' || c == ']' || Unicode.Property.numeric.contains c))

def nameChars : Nat → List Char → Read (List Char)
  | 0, _ => do fail .nameCut (← hereSpan)
  | fuel + 1, taken => do
    match ← peek? with
    | none => fail .nameCut (← hereSpan)
    | some '>' => return taken.reverse
    | some c =>
      if isNameChar taken.isEmpty c then
        let _ ← bump
        nameChars fuel (c :: taken)
      else fail .nameInvalid (← charSpan)

def groupName : Read Unit := do
  let start ← here
  let name := String.ofList (← nameChars ((← length) + 1) [])
  let span ← spanFrom start
  let _ ← bump
  if name.isEmpty then fail .nameEmpty ⟨start, start⟩
  let s ← get
  match s.names.lookup name with
  | some first => fail .nameTwice span (some first)
  | none => set { s with names := (name, span) :: s.names }

/-- What an opening parenthesis begins: a group, or a change of flags in the present one. -/
inductive Opening where
  | group (span : Span) (number : Option Nat) (switches : Switches)
  | flags (span : Span) (switches : Switches)

/-- The number of the group that is being opened. -/
def nextNumber : Read Nat := do
  let s ← get
  set { s with groups := s.groups + 1 }
  return s.groups + 1

def opening : Read Opening := do
  let paren ← charSpan
  let _ ← bump
  skip
  if ← bumpAny [['?', '='], ['?', '!'], ['?', '<', '='], ['?', '<', '!']] then
    fail .lookAround (← spanFrom paren.start)
  let inner ← hereSpan
  if ← bumpAny [['?', 'P', '<'], ['?', '<']] then
    groupName
    return .group paren (some (← nextNumber)) ⟨[], []⟩
  else if ← bumpIf ['?'] then
    if (← peek?).isNone then fail .groupUnclosed paren
    let switches ← flagList ((← length) + 1) ⟨[], [], [], none⟩ none
    let last ← peek?
    let _ ← bump
    if last = some ')' then
      if switches.on.isEmpty && switches.off.isEmpty then fail .nothingToRepeat inner
      return .flags (← spanFrom paren.start) switches
    else return .group paren none switches
  else return .group paren (some (← nextNumber)) ⟨[], []⟩

/-- The part that a repetition sign applies to; flags are nothing to repeat. -/
def repeatable (items : List Node) : Read (Node × List Node) := do
  match items with
  | [] | .flags .. :: _ => fail .nothingToRepeat (← hereSpan)
  | item :: rest => return (item, rest)

/-- Passes a question mark behind a repetition sign, which makes the repetition lazy and changes no
match; whether there was none. -/
def isGreedy : Read Bool := do
  if (← peek?) = some '?' then
    let _ ← bump
    return false
  else return true

def repeatSign (items : List Node) (least : Nat) (most : Option Nat) : Read (List Node) := do
  let (item, rest) ← repeatable items
  let _ ← bump
  let greedy ← isGreedy
  return .repeated ⟨item.span.start, ← here⟩ least most greedy item :: rest

/-- The counts between braces: exactly, at least, or from one number to another. What is wrong with
the first number is told only after the sign behind it has been seen. -/
def counts (start : Place) : Read (Nat × Option Nat) := do
  let first ← decimal
  match ← peek? with
  | none => fail .countUnclosed (← spanFrom start)
  | some ',' =>
    if !(← bumpAndSkip) then fail .countUnclosed (← spanFrom start)
    let least ← first
    if (← peek?) = some '}' then return (least, none)
    let most ← (← decimal)
    return (least, some most)
  | some _ =>
    let count ← first
    return (count, some count)

def repeatCounted (items : List Node) : Read (List Node) := do
  let start ← here
  let (item, rest) ← repeatable items
  if !(← bumpAndSkip) then fail .countUnclosed (← spanFrom start)
  let (least, most) ← counts start
  if (← peek?) != some '}' then fail .countUnclosed (← spanFrom start)
  let greedy ← if ← bumpAndSkip then isGreedy else pure true
  let span ← spanFrom start
  if let some m := most then
    if m < least then fail .countOrder span
  return .repeated ⟨item.span.start, ← here⟩ least most greedy item :: rest

def Piece.node : Piece → Node
  | .literal l => .literal l
  | .anchor s kind => .anchor s kind
  | .shorthand s kind negated => .shorthand s kind negated
  | .property s name negated => .property s name negated

/-! ## The whole pattern -/

/-- Parts in a row; a single part stands for itself. -/
def concat (start stop : Place) (items : List Node) : Node :=
  match items with
  | [one] => one
  | items => .concat ⟨start, stop⟩ items.reverse

/-- What has been read of the innermost open group: where it starts, the finished branches and the
parts of the present branch, both last first. -/
structure Body where
  start : Place
  branchStart : Place
  branches : List Node
  items : List Node

def Body.finish (b : Body) (stop : Place) : Node :=
  let last := concat b.branchStart stop b.items
  match b.branches with
  | [] => last
  | branches => .alternation ⟨b.start, stop⟩ (last :: branches).reverse

def Body.add (b : Body) (item : Node) : Body := { b with items := item :: b.items }

/-- Reads up to the parenthesis that closes the group opened at `opened`, or to the end. -/
def body : Nat → Option Span → Body → Read Node
  | 0, _, b => return b.finish (← here)
  | fuel + 1, opened, b => do
    skip
    match ← peek? with
    | none =>
      match opened with
      | some span => fail .groupUnclosed span
      | none => return b.finish (← here)
    | some '(' =>
      let outerVerbose := (← get).verbose
      match ← opening with
      | .flags span switches =>
        let verbose := (switches.state? .verbose).getD outerVerbose
        modify fun s => { s with verbose := verbose }
        body fuel opened (b.add (.flags span switches))
      | .group span number switches =>
        let verbose := (switches.state? .verbose).getD outerVerbose
        modify fun s => { s with verbose := verbose }
        let start ← here
        let inner ← body fuel (some span) ⟨start, start, [], []⟩
        modify fun s => { s with verbose := outerVerbose }
        let _ ← bump
        body fuel opened (b.add (.group ⟨span.start, ← here⟩ number switches inner))
    | some ')' =>
      match opened with
      | some _ => return b.finish (← here)
      | none => fail .groupUnopened (← charSpan)
    | some '|' =>
      let branch := concat b.branchStart (← here) b.items
      let _ ← bump
      body fuel opened ⟨b.start, ← here, branch :: b.branches, []⟩
    | some '[' => do
      let node ← bracketClass
      body fuel opened (b.add node)
    | some '?' => do
      let items ← repeatSign b.items 0 (some 1)
      body fuel opened { b with items := items }
    | some '*' => do
      let items ← repeatSign b.items 0 none
      body fuel opened { b with items := items }
    | some '+' => do
      let items ← repeatSign b.items 1 none
      body fuel opened { b with items := items }
    | some '{' => do
      let items ← repeatCounted b.items
      body fuel opened { b with items := items }
    | some '\\' => do
      let piece ← escape
      body fuel opened (b.add piece.node)
    | some c =>
      let span ← charSpan
      let _ ← bump
      let node := if c = '.' then Node.dot span
        else if c = '^' then .anchor span .lineStart
        else if c = '$' then .anchor span .lineEnd
        else .literal ⟨span, c, false⟩
      body fuel opened (b.add node)

end Reader

/-- Parts may lie this deep in each other. -/
def nestingLimit : Nat := 250

def Node.ofText (pattern : List Char) : Except Defect Node :=
  let start : Reader.State := ⟨pattern, .start, false, [], 0⟩
  match (Reader.body (pattern.length + 1) none ⟨.start, .start, [], []⟩).run start with
  | .error defect => .error defect
  | .ok (node, _) =>
    match node.tooDeep? nestingLimit with
    | some span => .error ⟨.nesting nestingLimit, span, none⟩
    | none => .ok node

end Pipework.Pattern
