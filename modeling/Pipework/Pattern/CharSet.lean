import Pipework.Pattern.Tree
import Pipework.Unicode.CaseFold
import Pipework.Unicode.Kind

/-!
# Sets of characters

The sets that classes denote: the named ones, those of properties, and what the operations and
flags of classes make of them.
-/

namespace Pipework.Pattern

open Unicode (RangeSet)

namespace CharSet

def negatedIf (negated : Bool) (s : RangeSet) : RangeSet := if negated then s.complement else s

def apply : SetOp → RangeSet → RangeSet → RangeSet
  | .intersection, a, b => a ∩ b
  | .difference, a, b => a \ b
  | .symmetricDifference, a, b => (a \ b) ∪ (b \ a)

def asciiUpper : RangeSet := .range 'A' 'Z'

def asciiLower : RangeSet := .range 'a' 'z'

/-- The set with both cases of its ASCII letters. -/
def foldedAscii (s : RangeSet) : RangeSet :=
  let shifted (letters : RangeSet) (shift : Int) : RangeSet :=
    .ofPairs ((s ∩ letters).toList.map fun (n, m) => ((n + shift).toNat, (m + shift).toNat))
  s ∪ shifted asciiUpper 32 ∪ shifted asciiLower (-32)

/-! ## Named sets -/

def asciiDigit : RangeSet := .range '0' '9'

def asciiLetter : RangeSet := asciiUpper ∪ asciiLower

def asciiWord : RangeSet := asciiDigit ∪ asciiLetter ∪ .single '_'

def asciiSpace : RangeSet := .range '\t' '\r' ∪ .single ' '

def posix (name : String) : RangeSet :=
  match name with
  | "alnum" => asciiDigit ∪ asciiLetter
  | "alpha" => asciiLetter
  | "ascii" => .range '\x00' '\x7f'
  | "blank" => .ofChars ['\t', ' ']
  | "cntrl" => .range '\x00' '\x1f' ∪ .single '\x7f'
  | "digit" => asciiDigit
  | "graph" => .range '!' '~'
  | "lower" => asciiLower
  | "print" => .range ' ' '~'
  | "punct" => .range '!' '~' \ (asciiDigit ∪ asciiLetter)
  | "space" => asciiSpace
  | "upper" => asciiUpper
  | "word" => asciiWord
  | "xdigit" => asciiDigit ∪ .range 'A' 'F' ∪ .range 'a' 'f'
  | _ => ∅

def shorthand : Shorthand → RangeSet
  | .digit => Unicode.Property.digit
  | .space => Unicode.Listed.whiteSpace
  | .word => Unicode.Property.word

def asciiShorthand : Shorthand → RangeSet
  | .digit => asciiDigit
  | .space => asciiSpace
  | .word => asciiWord

/-- Letter case, blanks, hyphens and underscores do not matter in names, nor does an "is" that a name
begins with as it is written. -/
def plainName (name : String) : String :=
  let plain (cs : List Char) : String :=
    String.ofList ((cs.filter fun c => c.toNat < 128 && !(" -_".toList.contains c)).map Char.toLower)
  match name.toList with
  | i :: s :: rest =>
    if i.toLower = 'i' ∧ s.toLower = 's' then
      let name := plain rest
      if name == "c" then "isc" else name
    else plain name.toList
  | cs => plain cs

/-- Short names of categories that are names of properties too; a category is meant by them. -/
def ambiguous : List String := ["cf", "lc", "sc"]

def nominal : List String := Unicode.Category.nominal ++ Unicode.Script.nominal

/-- A two-valued property by its own name, else a category, else a script. -/
def named (name : String) : Except Flaw RangeSet :=
  match if ambiguous.contains name then none else Unicode.Kind.named? name with
  | some (.twoValued set) => .ok set
  | some _ => .error .propertyUnknown
  | none =>
    match Unicode.Kind.category? name <|> Unicode.Kind.script? name with
    | some set => .ok set
    | none => .error (if nominal.contains name then .propertyValueUnknown else .propertyUnknown)

def property? : PropertyName → Except Flaw RangeSet
  | .named name => named (plainName name)
  | .valued name value equal =>
    match Unicode.Kind.named? (plainName name) with
    | none => .error .propertyUnknown
    | some kind =>
      match kind.value? (plainName value) with
      | some set => .ok (negatedIf (!equal) set)
      | none => .error .propertyValueUnknown

end CharSet

end Pipework.Pattern
