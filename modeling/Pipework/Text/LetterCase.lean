import Pipework.Unicode.CaseMap
import Pipework.Unicode.Property

/-!
# Upper and lower case of texts

Every character is mapped on its own, with one exception: a capital sigma becomes a final sigma
when a cased letter stands before it and none stands behind it, case-ignorable characters being
passed over on both sides.
-/

namespace Pipework.LetterCase

open Unicode

def upper (s : String) : String := String.ofList (s.toList.flatMap upperChar)

/-- Behind its case-ignorable characters the text goes on with a cased one. -/
def startsCased (cs : List Char) : Bool :=
  match cs.dropWhile Property.caseIgnorable.contains with
  | c :: _ => Property.cased.contains c
  | [] => false

/-- `before` is the text to the left, last character first; so is the result. -/
def lowerFrom (before done : List Char) : List Char → List Char
  | [] => done
  | c :: rest =>
    let image :=
      if c = 'Σ' then [if startsCased before && !startsCased rest then 'ς' else 'σ']
      else lowerChar c
    lowerFrom (c :: before) (image.reverse ++ done) rest

def lower (s : String) : String := String.ofList (lowerFrom [] [] s.toList).reverse

end Pipework.LetterCase
