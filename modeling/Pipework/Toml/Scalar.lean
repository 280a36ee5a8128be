import Pipework.Toml.Basic

/-!
# TOML scalars

Readers for numbers, for dates and times, and for quoted text. A reader takes a scalar off the front
of a text and leaves what is behind it; whether that may stand there is for the caller to see.
-/

namespace Pipework.Toml

/-- Where reading stopped, as what is left of the document from there on. -/
structure Flaw where
  cause : Cause
  rest : List Char

abbrev Reader (α : Type) := List Char → Except Flaw (α × List Char)

def fail {α : Type} (cause : Cause) (rest : List Char) : Except Flaw α := .error ⟨cause, rest⟩

/-! ## Numbers -/

/-- Digits with single underscores between them, up to the first character that is neither. -/
def digits (isDigit : Char → Bool) : List Char → List Char × List Char
  | '_' :: c :: rest =>
    if isDigit c then
      let (more, rest) := digits isDigit rest
      (c :: more, rest)
    else ([], '_' :: c :: rest)
  | c :: rest =>
    if isDigit c then
      let (more, rest) := digits isDigit rest
      (c :: more, rest)
    else ([], c :: rest)
  | [] => ([], [])

/-- One digit or more; an underscore does not come first. -/
def someDigits? (isDigit : Char → Bool) (cs : List Char) : Option (List Char × List Char) :=
  match cs with
  | c :: _ => if isDigit c then some (digits isDigit cs) else none
  | [] => none

def digitValue (c : Char) : Nat :=
  if c.isDigit then c.toNat - 48 else if c.isUpper then c.toNat - 55 else c.toNat - 87

def valueOf (base : Nat) (ds : List Char) : Nat := ds.foldl (fun n c => n * base + digitValue c) 0

def isHexDigit (c : Char) : Bool := c.isDigit || ('a' ≤ c && c ≤ 'f') || ('A' ≤ c && c ≤ 'F')

/-- The whole part of a decimal number: a nought alone, or digits that do not begin with one. -/
def whole? : List Char → Option (List Char × List Char)
  | '0' :: rest => some (['0'], rest)
  | cs => someDigits? Char.isDigit cs

def fraction? : List Char → Option (List Char × List Char)
  | '.' :: rest => someDigits? Char.isDigit rest
  | _ => none

def signOf : List Char → Bool × List Char
  | '-' :: rest => (true, rest)
  | '+' :: rest => (false, rest)
  | cs => (false, cs)

def exponent? : List Char → Option (Int × List Char)
  | c :: rest =>
    if c == 'e' || c == 'E' then
      let (negative, rest) := signOf rest
      (someDigits? Char.isDigit rest).map fun (ds, rest) =>
        (if negative then -(valueOf 10 ds : Int) else valueOf 10 ds, rest)
    else none
  | [] => none

/-- Whether `mantissa * 10 ^ exponent` lies beyond the largest number of 64 bits with a fraction,
once rounded. -/
def exceedsFloat (mantissa : Nat) (exponent : Int) : Bool :=
  let length : Int := (toString mantissa).length
  let bound := Nat.pow 2 1024 - Nat.pow 2 970
  if mantissa = 0 || length + exponent < 309 then false
  else if 310 < length + exponent then true
  else if exponent < 0 then bound * Nat.pow 10 (-exponent).toNat ≤ mantissa
  else bound ≤ mantissa * Nat.pow 10 exponent.toNat

/-- Integers have 64 bits with a sign. -/
def asInteger (n : Int) (start rest : List Char) : Except Flaw (Toml × List Char) :=
  if Int64.minValue.toInt ≤ n && n ≤ Int64.maxValue.toInt then .ok (.integer n, rest) else fail .outOfRange start

def asFloat (negative : Bool) (mantissa : Nat) (exponent : Int) (start rest : List Char) :
    Except Flaw (Toml × List Char) :=
  if !negative && exceedsFloat mantissa exponent then fail .outOfRange start else .ok (.float, rest)

def decimal : Reader Toml := fun start =>
  let (negative, cs) := signOf start
  match whole? cs with
  | none => fail .unexpected cs
  | some (ds, rest) =>
    match fraction? rest, exponent? rest with
    | some (places, rest), _ =>
      let mantissa := valueOf 10 (ds ++ places)
      let (shift, rest) := (exponent? rest).getD (0, rest)
      asFloat negative mantissa (shift - places.length) start rest
    | none, some (shift, rest) => asFloat negative (valueOf 10 ds) shift start rest
    | none, none =>
      asInteger (if negative then -(valueOf 10 ds : Int) else valueOf 10 ds) start rest

def based (base : Nat) (isDigit : Char → Bool) : Reader Toml := fun start =>
  match someDigits? isDigit start with
  | some (ds, rest) => asInteger (valueOf base ds) start rest
  | none => fail .unexpected start

def number : Reader Toml := fun start =>
  match start with
  | '0' :: 'x' :: rest => based 16 isHexDigit rest
  | '0' :: 'o' :: rest => based 8 (fun c => '0' ≤ c && c ≤ '7') rest
  | '0' :: 'b' :: rest => based 2 (fun c => c == '0' || c == '1') rest
  | _ =>
    match (signOf start).2 with
    | 'i' :: 'n' :: 'f' :: rest | 'n' :: 'a' :: 'n' :: rest => .ok (.float, rest)
    | _ => decimal start

/-! ## Dates and times -/

/-- Exactly so many digits. -/
def fixed? (width : Nat) (cs : List Char) : Option (Nat × List Char) :=
  let ds := cs.take width
  if ds.length = width && ds.all Char.isDigit then some (valueOf 10 ds, cs.drop width) else none

def fixedIn? (width low high : Nat) (cs : List Char) : Option (Nat × List Char) :=
  (fixed? width cs).filter fun (n, _) => low ≤ n && n ≤ high

def mark? (c : Char) : List Char → Option (List Char)
  | d :: rest => if d == c then some rest else none
  | [] => none

def isLeap (year : Nat) : Bool := year % 4 == 0 && (year % 100 != 0 || year % 400 == 0)

def daysIn (year month : Nat) : Nat :=
  if month = 2 then (if isLeap year then 29 else 28)
  else if month = 4 || month = 6 || month = 9 || month = 11 then 30 else 31

/-- A date and the text behind it. -/
def date? (start : List Char) : Option (List Char × List Char) := do
  let (year, cs) ← fixed? 4 start
  let cs ← mark? '-' cs
  let (month, cs) ← fixedIn? 2 1 12 cs
  let cs ← mark? '-' cs
  let (_, cs) ← fixedIn? 2 1 (daysIn year month) cs
  return (start.take 10, cs)

/-- Parts of a second are kept down to a thousandth of a millionth, without noughts at the end. -/
def secondPart (ds : List Char) : List Char :=
  let kept := ((ds.take 9).reverse.dropWhile (· == '0')).reverse
  if kept.isEmpty then [] else '.' :: kept

/-- A time of day with seconds; a minute may have a leap second. -/
def time? (start : List Char) : Option (List Char × List Char) := do
  let (_, cs) ← fixedIn? 2 0 23 start
  let cs ← mark? ':' cs
  let (_, cs) ← fixedIn? 2 0 59 cs
  let cs ← mark? ':' cs
  let (_, cs) ← fixedIn? 2 0 60 cs
  match cs with
  | '.' :: rest =>
    let ds := rest.takeWhile Char.isDigit
    if ds.isEmpty then none
    else return (start.take 8 ++ secondPart ds, rest.dropWhile Char.isDigit)
  | cs => return (start.take 8, cs)

/-- An offset from universal time, if there is one. -/
def offset? (cs : List Char) : Option (List Char × List Char) :=
  match cs with
  | c :: rest =>
    if c == 'Z' || c == 'z' then some (['Z'], rest)
    else if c == '+' || c == '-' then do
      let (hours, behind) ← fixedIn? 2 0 23 rest
      let behind ← mark? ':' behind
      let (minutes, behind) ← fixedIn? 2 0 59 behind
      return ((if hours + minutes = 0 then '+' else c) :: rest.take 5, behind)
    else some ([], cs)
  | [] => some ([], [])

/-- A date that a time may follow, or a time alone. -/
def moment? (cs : List Char) : Option (String × List Char) :=
  match date? cs with
  | none => (time? cs).map fun (time, rest) => (String.ofList time, rest)
  | some (date, rest) =>
    match rest with
    | c :: more =>
      if c == 'T' || c == 't' || c == ' ' then
        match time? more with
        | some (time, rest) => (offset? rest).map fun (offset, rest) =>
          (String.ofList (date ++ 'T' :: time ++ offset), rest)
        | none => some (String.ofList date, rest)
      else some (String.ofList date, rest)
    | [] => some (String.ofList date, [])

/-! ## Text -/

def isPlain (c : Char) : Bool := c == '\t' || (32 ≤ c.toNat && c.toNat != 127)

def isSpace (c : Char) : Bool := c == ' ' || c == '\t'

def newline? : List Char → Option (List Char)
  | '\n' :: rest => some rest
  | '\r' :: '\n' :: rest => some rest
  | _ => none

/-- A character given by exactly so many hexadecimal digits. -/
def codePoint? (width : Nat) (cs : List Char) : Option (Char × List Char) :=
  let ds := cs.take width
  let n := valueOf 16 ds
  if ds.length = width && ds.all isHexDigit && n.isValidChar then some (Char.ofNat n, cs.drop width)
  else none

/-- What stands behind a backslash. -/
def escape? : List Char → Option (Char × List Char)
  | 'b' :: rest => some ('\x08', rest)
  | 'f' :: rest => some ('\x0c', rest)
  | 'n' :: rest => some ('\n', rest)
  | 'r' :: rest => some ('\r', rest)
  | 't' :: rest => some ('\t', rest)
  | '"' :: rest => some ('"', rest)
  | '\\' :: rest => some ('\\', rest)
  | 'u' :: rest => codePoint? 4 rest
  | 'U' :: rest => codePoint? 8 rest
  | _ => none

/-- The rest of a text on one line, behind the opening quote; `taken` is what came before, last
first. Only between double quotes does a backslash have a meaning. -/
def lineText (quote : Char) (escapes : Bool) : Nat → List Char → Reader String
  | 0, _, cs => fail .unexpected cs
  | fuel + 1, taken, cs =>
    match cs with
    | [] => fail .unexpected []
    | c :: rest =>
      if c == quote then .ok (String.ofList taken.reverse, rest)
      else if c == '\\' && escapes then
        match escape? rest with
        | some (c, rest) => lineText quote escapes fuel (c :: taken) rest
        | none => fail .unexpected cs
      else if isPlain c then lineText quote escapes fuel (c :: taken) rest
      else fail .unexpected cs

/-- The text behind a backslash at the end of a line: all blanks and newlines are left out. -/
def continued? (cs : List Char) : Option (List Char) :=
  (newline? (cs.dropWhile isSpace)).map fun rest => skip rest.length rest
where
  skip : Nat → List Char → List Char
    | 0, cs => cs
    | fuel + 1, cs =>
      match newline? cs with
      | some rest => skip fuel rest
      | none =>
        match cs with
        | c :: rest => if isSpace c then skip fuel rest else cs
        | [] => []

/-- The rest of a text over several lines, behind its opening quotes. Three quotes end it, and one
or two before them belong to it. -/
def blockText (quote : Char) (escapes : Bool) : Nat → List Char → Reader String
  | 0, _, cs => fail .unexpected cs
  | fuel + 1, taken, cs =>
    let run := (cs.takeWhile (· == quote)).length
    if 5 < run then fail .unexpected cs
    else if 3 ≤ run then
      .ok (String.ofList (taken.reverse ++ List.replicate (run - 3) quote), cs.drop run)
    else
      match newline? cs with
      | some rest => blockText quote escapes fuel ('\n' :: taken) rest
      | none =>
        match cs with
        | [] => fail .unexpected []
        | c :: rest =>
          if c == '\\' && escapes then
            match continued? rest, escape? rest with
            | some rest, _ => blockText quote escapes fuel taken rest
            | none, some (c, rest) => blockText quote escapes fuel (c :: taken) rest
            | none, none => fail .unexpected cs
          else if isPlain c then blockText quote escapes fuel (c :: taken) rest
          else fail .unexpected cs

/-- A newline right behind the opening quotes is left out. -/
def block (quote : Char) (escapes : Bool) : Reader String := fun cs =>
  blockText quote escapes (cs.length + 1) [] ((newline? cs).getD cs)

def line (quote : Char) (escapes : Bool) : Reader String := fun cs =>
  lineText quote escapes (cs.length + 1) [] cs

def quoted : Reader String
  | '"' :: '"' :: '"' :: rest => block '"' true rest
  | '"' :: rest => line '"' true rest
  | '\'' :: '\'' :: '\'' :: rest => block '\'' false rest
  | '\'' :: rest => line '\'' false rest
  | cs => fail .unexpected cs

end Pipework.Toml
