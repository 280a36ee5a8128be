import Pipework.Unicode.Property
import Pipework.Unicode.Script

/-!
# Boundary properties

What a character contributes to the boundaries of visible units, words and sentences. Each property
is given by the sets of its values, under the names of the values.
-/

namespace Pipework.Unicode.Boundary

open Category (among)
open Property (graphemeExtend)

abbrev Values := List (List String × RangeSet)

def joiner : RangeSet := .single '\u200d'

def carriageReturn : RangeSet := .single '\r'

def lineFeed : RangeSet := .single '\n'

/-- Hangul syllables begin at U+AC00; every 28th has no trailing consonant. -/
def hangulOpen : RangeSet := .ofCodes ((List.range 399).map fun i => 0xAC00 + 28 * i)

def hangulClosed : RangeSet := .ofPairs [(0xAC00, 0xD7A3)] \ hangulOpen

/-- Format characters that neither join nor stand before others nor make up tags. -/
def format : RangeSet :=
  among ["Cf"] \ (.ofChars ['\u200c', '\u200d'] ∪ Listed.tag ∪ Listed.prependedMark)

/-! ## Visible units -/

def control : RangeSet :=
  format ∪ (among ["Cc", "Zl", "Zp"] \ (carriageReturn ∪ lineFeed)) ∪
    (among ["Cn"] ∩ Property.defaultIgnorable)

def extend : RangeSet := (graphemeExtend ∪ Listed.emojiModifier) \ joiner

def spacingMark : RangeSet :=
  (among ["Mc"] ∪ .ofChars ['\u0e33', '\u0eb3']) \ (graphemeExtend ∪ Listed.unspacing)

def grapheme : Values :=
  [(["cn", "control"], control), (["cr"], carriageReturn), (["ex", "extend"], extend),
   (["l"], Listed.hangulLead), (["lf"], lineFeed), (["lv"], hangulOpen), (["lvt"], hangulClosed),
   (["pp", "prepend"], Listed.prepended), (["ri", "regionalindicator"], Listed.regionalIndicator),
   (["sm", "spacingmark"], spacingMark), (["t"], Listed.hangulTail), (["v"], Listed.hangulVowel),
   (["zwj"], joiner)]

/-! ## Words -/

def hebrewLetter : RangeSet := Script.set "Hebr" ∩ among ["Lo"]

def wordExtend : RangeSet := among ["Mc"] ∪ extend

def wordLetter : RangeSet :=
  (Property.alphabetic \ (Listed.ideographic ∪ Listed.katakanaWord ∪ Script.set "Hira" ∪
    wordExtend ∪ hebrewLetter ∪ Listed.unspacedLetter)) ∪ Listed.letterThough

def words : Values :=
  [(["le", "aletter"], wordLetter), (["cr"], carriageReturn),
   (["dq", "doublequote"], .single '"'), (["extend"], wordExtend),
   (["ex", "extendnumlet"], among ["Pc"] ∪ .single '\u202f'),
   (["fo", "format"], format \ .single '\u200b'), (["hl", "hebrewletter"], hebrewLetter),
   (["ka", "katakana"], Listed.katakanaWord), (["lf"], lineFeed),
   (["ml", "midletter"], Listed.midLetter), (["mn", "midnum"], Listed.midNumber),
   (["mb", "midnumlet"], Listed.midEither),
   (["nl", "newline"], .ofChars ['\x0b', '\x0c', '\u0085', '\u2028', '\u2029']),
   (["nu", "numeric"], Listed.wordNumeric),
   (["ri", "regionalindicator"], Listed.regionalIndicator), (["sq", "singlequote"], .single '\''),
   (["wsegspace"], Listed.segmentSpace), (["zwj"], joiner)]

/-! ## Sentences -/

def lineEnd : RangeSet := .ofChars ['\u0085', '\u2028', '\u2029']

def sentenceExtend : RangeSet := graphemeExtend ∪ among ["Mc"] ∪ joiner

def sentenceLower : RangeSet := Property.lowercase \ (graphemeExtend ∪ Listed.titlecaseKept)

/-- Capitals of scripts that begin sentences with them, which Georgian does not. -/
def sentenceUpper : RangeSet :=
  (Property.uppercase ∪ among ["Lt"]) \ .ofPairs [(0x1C90, 0x1CBF)]

def sentences : Values :=
  [(["at", "aterm"], Listed.fullStop),
   (["cl", "close"], among ["Ps", "Pe", "Pi", "Pf"] ∪ Listed.ornamentalBracket),
   (["cr"], carriageReturn), (["ex", "extend"], sentenceExtend),
   (["fo", "format"], format ∪ .single '\u070f'),
   (["le", "oletter"], (Property.alphabetic ∪ .single '\u05f3') \
      (sentenceLower ∪ sentenceUpper ∪ sentenceExtend)),
   (["lf"], lineFeed), (["lo", "lower"], sentenceLower),
   (["nu", "numeric"], Listed.wordNumeric ∪ .single '\u066c'),
   (["sc", "scontinue"], Listed.sentenceContinue), (["se", "sep"], lineEnd),
   (["sp"], Listed.whiteSpace \ (carriageReturn ∪ lineFeed ∪ lineEnd)),
   (["st", "sterm"], Listed.sentenceTerminal \ Listed.fullStop), (["up", "upper"], sentenceUpper)]

end Pipework.Unicode.Boundary
