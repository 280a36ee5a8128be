import Pipework.Unicode.Age
import Pipework.Unicode.Boundary
import Pipework.Unicode.Category
import Pipework.Unicode.Property
import Pipework.Unicode.Script
import Pipework.Unicode.ScriptExtension

/-!
# Kinds of properties

What the name of a property stands for, and the sets that its values have. Names stand without case
and separators.
-/

namespace Pipework.Unicode

inductive Kind where
  | twoValued (set : RangeSet)
  | category
  | script
  | scriptExtension
  | age
  | boundary (values : Boundary.Values)
  /-- A property without classes. -/
  | other

namespace Kind

/-- The names of properties without classes. -/
def otherNames : List String :=
  ["bc", "bidiclass", "bidimirroringglyph", "bidipairedbracket", "bidipairedbrackettype", "blk",
   "block", "bmg", "bpb", "bpt", "canonicalcombiningclass", "casefolding", "ccc", "ce", "cf",
   "changeswhennfkccasefolded", "cjkaccountingnumeric", "cjkcompatibilityvariant", "cjkiicore",
   "cjkirggsource", "cjkirghsource", "cjkirgjsource", "cjkirgkpsource", "cjkirgksource",
   "cjkirgmsource", "cjkirgssource", "cjkirgtsource", "cjkirguksource", "cjkirgusource",
   "cjkirgvsource", "cjkothernumeric", "cjkprimarynumeric", "cjkrsunicode", "compex",
   "compositionexclusion", "cwkcf", "decompositionmapping", "decompositiontype", "dm", "dt", "ea",
   "eastasianwidth", "equideo", "equivalentunifiedideograph", "expandsonnfc", "expandsonnfd",
   "expandsonnfkc", "expandsonnfkd", "fcnfkc", "fcnfkcclosure", "fullcompositionexclusion",
   "hangulsyllabletype", "hst", "incb", "indicconjunctbreak", "indicpositionalcategory",
   "indicsyllabiccategory", "inpc", "insc", "isc", "jamoshortname", "jg", "joininggroup",
   "joiningtype", "jsn", "jt", "kaccountingnumeric", "kcompatibilityvariant", "kehcat", "kehdesc",
   "kehhg", "kehifao", "kehjsesh", "kehnomirror", "kehnorotate", "kiicore", "kirggsource",
   "kirghsource", "kirgjsource", "kirgkpsource", "kirgksource", "kirgmsource", "kirgssource",
   "kirgtsource", "kirguksource", "kirgusource", "kirgvsource", "kothernumeric",
   "kprimarynumeric", "krsunicode", "lb", "lc", "linebreak", "lowercasemapping", "na", "na1",
   "name", "namealias", "nfcqc", "nfcquickcheck", "nfdqc", "nfdquickcheck", "nfkccasefold",
   "nfkccf", "nfkcqc", "nfkcquickcheck", "nfkcscf", "nfkcsimplecasefold", "nfkdqc",
   "nfkdquickcheck", "nt", "numerictype", "numericvalue", "nv", "ocomment", "scf", "sfc",
   "simplecasefolding", "simplelowercasemapping", "simpletitlecasemapping",
   "simpleuppercasemapping", "slc", "stc", "suc", "tc", "titlecasemapping", "uc", "unicode1name",
   "unicoderadicalstroke", "uppercasemapping", "urs", "verticalorientation", "vo", "xonfc",
   "xonfd", "xonfkc", "xonfkd"]

def several : List (List String × Kind) :=
  [(["gc", "generalcategory"], .category), (["sc", "script"], .script),
   (["scx", "scriptextensions"], .scriptExtension), (["age"], .age),
   (["gcb", "graphemeclusterbreak"], .boundary Boundary.grapheme),
   (["wb", "wordbreak"], .boundary Boundary.words),
   (["sb", "sentencebreak"], .boundary Boundary.sentences)]

def find? {α : Type} (entries : List (List String × α)) (name : String) : Option α :=
  (entries.find? (·.1.contains name)).map (·.2)

def named? (name : String) : Option Kind :=
  (find? Property.named name).map .twoValued <|> find? several name <|>
    if otherNames.contains name then some .other else none

/-- The characters of a category or of one of the three sets that are named like categories. -/
def category? : String → Option RangeSet
  | "any" => some .all
  | "assigned" => some (Category.among ["Cn"]).complement
  | "ascii" => some (.range '\x00' '\x7f')
  | name => (Category.named? name).map Category.among

def script? (name : String) : Option RangeSet := (Script.named? name).map Script.set

/-- The characters for which a property has the named value. -/
def value? : Kind → String → Option RangeSet
  | .category, name => category? name
  | .script, name => script? name
  | .scriptExtension, name => (Script.named? name).map ScriptExtension.set
  | .age, name => (Age.named? name).map Age.set
  | .boundary values, name => find? values name
  | .twoValued _, _ | .other, _ => none

end Kind

end Pipework.Unicode
