/-!
# Decimal counts

Counts are below 2^64. A text is a count when it is a non-empty run of ASCII digits, one plus sign
before it allowed. Digits are taken from the left, and whichever fault shows first is reported.
-/

namespace Pipework.Numeral

inductive Flaw where
  | empty
  | notDigit
  | tooLarge
  deriving DecidableEq, Repr

def Flaw.message : Flaw → String
  | .empty => "cannot parse integer from empty string"
  | .notDigit => "invalid digit found in string"
  | .tooLarge => "number too large to fit in target type"

def limit : Nat := UInt64.size

def digits (value : Nat) : List Char → Except Flaw Nat
  | [] => .ok value
  | c :: rest =>
    if c.isDigit then
      let next := value * 10 + (c.toNat - 48)
      if next < limit then digits next rest else .error .tooLarge
    else .error .notDigit

def parse (s : String) : Except Flaw Nat :=
  match s.toList with
  | [] => .error .empty
  | ['+'] => .error .notDigit
  | '+' :: rest => digits 0 rest
  | cs => digits 0 cs

/-- A number right-aligned in a field of the given width. -/
def padLeft (width n : Nat) : String :=
  let digits := (toString n).toList
  String.ofList (List.replicate (width - digits.length) ' ' ++ digits)

end Pipework.Numeral
