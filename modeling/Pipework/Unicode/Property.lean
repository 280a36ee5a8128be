import Pipework.Unicode.CaseMap
import Pipework.Unicode.Category
import Pipework.Unicode.Listed

/-!
# Properties of characters

The properties that follow from the listed ones, the general category and the case mappings, each by
the rule that Unicode gives for it.
-/

namespace Pipework.Unicode.Property

open Category (among)

def letter : RangeSet := among ["Lu", "Ll", "Lt", "Lm", "Lo"]

/-- Decimal digits of all scripts. -/
def digit : RangeSet := among ["Nd"]

/-- Numbers of every kind. -/
def numeric : RangeSet := among ["Nd", "Nl", "No"]

def math : RangeSet := among ["Sm"] ∪ Listed.otherMath

/-! ## Letters and their case -/

def lowercase : RangeSet := among ["Ll"] ∪ Listed.otherLowercase

def uppercase : RangeSet := among ["Lu"] ∪ Listed.otherUppercase

def cased : RangeSet := among ["Lt"] ∪ lowercase ∪ uppercase

def alphabetic : RangeSet :=
  letter ∪ among ["Nl"] ∪ Listed.otherLowercase ∪ Listed.otherUppercase ∪ Listed.otherAlphabetic

/-- Characters that are passed over when the neighbours of a letter decide its case. -/
def caseIgnorable : RangeSet :=
  among ["Mn", "Me", "Cf", "Lm", "Sk"] ∪ .single '\'' ∪ Listed.midLetter ∪ Listed.midEither

def changesWhenLowercased : RangeSet := caseDomain lowerExpansions lowerSegments

def changesWhenUppercased : RangeSet := caseDomain upperExpansions upperSegments

def changesWhenTitlecased : RangeSet :=
  (changesWhenUppercased \ (among ["Lt"] ∪ Listed.titlecaseKept)) ∪ Listed.titlecaseChanged

def changesWhenCasemapped : RangeSet :=
  changesWhenLowercased ∪ changesWhenTitlecased ∪ changesWhenUppercased

def changesWhenCasefolded : RangeSet :=
  (changesWhenLowercased \ Listed.unfoldedThough) ∪ Listed.foldedThough

/-! ## Words and names -/

/-- Letters, marks, decimal digits, connectors and joiners: what a word is made of. -/
def word : RangeSet := alphabetic ∪ among ["Mn", "Mc", "Me", "Nd", "Pc"] ∪ Listed.joinControl

def patternReserved : RangeSet := Listed.patternSyntax ∪ Listed.patternWhiteSpace

def identifierStart : RangeSet :=
  (letter ∪ among ["Nl"] ∪ Listed.otherIdStart) \ patternReserved

def identifierContinue : RangeSet :=
  (letter ∪ among ["Nl", "Mn", "Mc", "Nd", "Pc"] ∪ Listed.otherIdStart ∪ Listed.otherIdContinue) \
    patternReserved

/-- What begins a name and still does so after normalization. -/
def stableStart : RangeSet := identifierStart \ Listed.notInitial

/-- What goes on a name and still does so after normalization. -/
def stableContinue : RangeSet := identifierContinue \ Listed.notInside

/-! ## Visible units -/

/-- Marks between the lines of text and controls of hieroglyphs are visible. -/
def visibleFormat : RangeSet :=
  Listed.prependedMark ∪ .ofPairs [(0xFFF9, 0xFFFB), (0x13430, 0x1343F)]

def defaultIgnorable : RangeSet :=
  (among ["Cf"] \ visibleFormat) ∪ Listed.otherDefaultIgnorable ∪ Listed.variationSelector

def graphemeExtend : RangeSet := among ["Me", "Mn"] ∪ Listed.otherGraphemeExtend

def graphemeBase : RangeSet :=
  .all \ (among ["Cc", "Cf", "Co", "Cn", "Zl", "Zp"] ∪ graphemeExtend)

/-- All properties under their names, which stand without case and separators. -/
def named : List (List String × RangeSet) :=
  open Listed in
  [(["ahex", "asciihexdigit"], asciiHexDigit), (["alpha", "alphabetic"], alphabetic),
   (["bidic", "bidicontrol"], bidiControl), (["bidim", "bidimirrored"], bidiMirrored),
   (["ci", "caseignorable"], caseIgnorable), (["cased"], cased),
   (["cwcf", "changeswhencasefolded"], changesWhenCasefolded),
   (["cwcm", "changeswhencasemapped"], changesWhenCasemapped),
   (["cwl", "changeswhenlowercased"], changesWhenLowercased),
   (["cwt", "changeswhentitlecased"], changesWhenTitlecased),
   (["cwu", "changeswhenuppercased"], changesWhenUppercased), (["dash"], dash),
   (["di", "defaultignorablecodepoint"], defaultIgnorable), (["dep", "deprecated"], deprecated),
   (["dia", "diacritic"], diacritic), (["emoji"], emoji),
   (["ecomp", "emojicomponent"], emojiComponent), (["emod", "emojimodifier"], emojiModifier),
   (["ebase", "emojimodifierbase"], emojiModifierBase),
   (["epres", "emojipresentation"], emojiPresentation),
   (["extpict", "extendedpictographic"], extendedPictographic), (["ext", "extender"], extender),
   (["grbase", "graphemebase"], graphemeBase), (["grext", "graphemeextend"], graphemeExtend),
   (["grlink", "graphemelink"], graphemeLink), (["hex", "hexdigit"], hexDigit),
   (["hyphen"], hyphen), (["idsb", "idsbinaryoperator"], binaryDescription),
   (["idst", "idstrinaryoperator"], trinaryDescription),
   (["idsu", "idsunaryoperator"], unaryDescription), (["idcompatmathcontinue"], mathContinue),
   (["idcompatmathstart"], mathStart), (["idc", "idcontinue"], identifierContinue),
   (["ids", "idstart"], identifierStart), (["ideo", "ideographic"], ideographic),
   (["joinc", "joincontrol"], joinControl),
   (["loe", "logicalorderexception"], logicalOrderException), (["lower", "lowercase"], lowercase),
   (["math"], math), (["mcm", "modifiercombiningmark"], modifierCombiningMark),
   (["nchar", "noncharactercodepoint"], noncharacter),
   (["oalpha", "otheralphabetic"], otherAlphabetic),
   (["odi", "otherdefaultignorablecodepoint"], otherDefaultIgnorable),
   (["ogrext", "othergraphemeextend"], otherGraphemeExtend),
   (["oidc", "otheridcontinue"], otherIdContinue), (["oids", "otheridstart"], otherIdStart),
   (["olower", "otherlowercase"], otherLowercase), (["omath", "othermath"], otherMath),
   (["oupper", "otheruppercase"], otherUppercase), (["patsyn", "patternsyntax"], patternSyntax),
   (["patws", "patternwhitespace"], patternWhiteSpace),
   (["pcm", "prependedconcatenationmark"], prependedMark),
   (["qmark", "quotationmark"], quotationMark), (["radical"], radical),
   (["ri", "regionalindicator"], regionalIndicator),
   (["sterm", "sentenceterminal"], sentenceTerminal), (["sd", "softdotted"], softDotted),
   (["term", "terminalpunctuation"], terminalPunctuation),
   (["uideo", "unifiedideograph"], unifiedIdeograph), (["upper", "uppercase"], uppercase),
   (["vs", "variationselector"], variationSelector),
   (["space", "wspace", "whitespace"], whiteSpace), (["xidc", "xidcontinue"], stableContinue),
   (["xids", "xidstart"], stableStart)]

end Pipework.Unicode.Property
