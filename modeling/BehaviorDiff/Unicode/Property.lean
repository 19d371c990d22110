import BehaviorDiff.Unicode.Age
import BehaviorDiff.Unicode.BinaryProperty
import BehaviorDiff.Unicode.CodeRanges
import BehaviorDiff.Unicode.GeneralCategory
import BehaviorDiff.Unicode.GraphemeBreak
import BehaviorDiff.Unicode.Script
import BehaviorDiff.Unicode.ScriptExtension
import BehaviorDiff.Unicode.SentenceBreak
import BehaviorDiff.Unicode.WordBreak

set_option autoImplicit false

/-!
Sets of code points by the names of properties and of their values. Names are compared without
regard to case and separators, and an `is` in front of a name does not count.
-/

namespace BehaviorDiff.Unicode

/-- Why a name stands for no set. -/
inductive PropertyError where
  | noProperty
  | noValue
  deriving DecidableEq, Repr

/-- The highest code point. -/
def highest : Nat := 0x10FFFF

/-- A name without case and separators. -/
def normalizeName (name : String) : String :=
  let lowered := name.toList.map Char.toLower
  let hasIs := lowered.take 2 == ['i', 's']
  let bare := (if hasIs then lowered.drop 2 else lowered).filter fun c =>
    c ≠ ' ' && c ≠ '_' && c ≠ '-' && c.toNat < 0x80
  if hasIs && bare == ['c'] then "isc" else String.ofList bare

/-- What is listed under a name. -/
def tableOf? {α : Type} (name : String) (tables : List (List String × α)) : Option α :=
  (tables.find? fun table => table.1.contains name).map Prod.snd

/-- The set that is listed under a name. -/
def listed? (name : String) (tables : List (List String × String)) : Option CodeRanges :=
  (tableOf? name tables).map CodeRanges.ofText

/-- The code points of a general category, or of a group of them. -/
def generalCategory? (name : String) : Option CodeRanges :=
  match name with
  | "any" => some [(0, highest)]
  | "ascii" => some [(0, 0x7F)]
  | "assigned" => (listed? "cn" generalCategories).map (.complement highest)
  | _ =>
    match tableOf? name generalCategoryGroups with
    | some members =>
      some (.ofList (members.filterMap fun member => listed? member generalCategories).flatten)
    | none => listed? name generalCategories

/-- The code points of a script. -/
def script? (name : String) : Option CodeRanges := listed? name scripts

/-- The code points that are used with a script. -/
def scriptExtension? (name : String) : Option CodeRanges :=
  (listed? name scriptExtensions).or (script? name)

/-- The code points that were there in a version. -/
def age? (name : String) : Option CodeRanges :=
  (ages.findIdx? fun age => age.1.contains name).map fun index =>
    .ofList ((ages.take (index + 1)).map fun age => CodeRanges.ofText age.2).flatten

/-- Properties for which no sets are known. -/
def otherProperties : List String :=
  [ "bc", "bidiclass", "bidimirroringglyph", "bidipairedbracket", "bidipairedbrackettype", "blk",
    "block", "bmg", "bpb", "bpt", "canonicalcombiningclass", "casefolding", "ccc", "ce", "cf",
    "changeswhennfkccasefolded", "cjkaccountingnumeric", "cjkcompatibilityvariant", "cjkiicore",
    "cjkirggsource", "cjkirghsource", "cjkirgjsource", "cjkirgkpsource", "cjkirgksource",
    "cjkirgmsource", "cjkirgssource", "cjkirgtsource", "cjkirguksource", "cjkirgusource",
    "cjkirgvsource", "cjkothernumeric", "cjkprimarynumeric", "cjkrsunicode", "compex",
    "compositionexclusion", "cwkcf", "decompositionmapping", "decompositiontype", "dm", "dt",
    "ea", "eastasianwidth", "equideo", "equivalentunifiedideograph", "expandsonnfc",
    "expandsonnfd", "expandsonnfkc", "expandsonnfkd", "fcnfkc", "fcnfkcclosure",
    "fullcompositionexclusion", "hangulsyllabletype", "hst", "incb", "indicconjunctbreak",
    "indicpositionalcategory", "indicsyllabiccategory", "inpc", "insc", "isc", "jamoshortname",
    "jg", "joininggroup", "joiningtype", "jsn", "jt", "kaccountingnumeric",
    "kcompatibilityvariant", "kehcat", "kehdesc", "kehhg", "kehifao", "kehjsesh", "kehnomirror",
    "kehnorotate", "kiicore", "kirggsource", "kirghsource", "kirgjsource", "kirgkpsource",
    "kirgksource", "kirgmsource", "kirgssource", "kirgtsource", "kirguksource", "kirgusource",
    "kirgvsource", "kothernumeric", "kprimarynumeric", "krsunicode", "lb", "lc", "linebreak",
    "lowercasemapping", "na", "na1", "name", "namealias", "nfcqc", "nfcquickcheck", "nfdqc",
    "nfdquickcheck", "nfkccasefold", "nfkccf", "nfkcqc", "nfkcquickcheck", "nfkcscf",
    "nfkcsimplecasefold", "nfkdqc", "nfkdquickcheck", "nt", "numerictype", "numericvalue", "nv",
    "ocomment", "scf", "sfc", "simplecasefolding", "simplelowercasemapping",
    "simpletitlecasemapping", "simpleuppercasemapping", "slc", "stc", "suc", "tc",
    "titlecasemapping", "uc", "unicode1name", "unicoderadicalstroke", "uppercasemapping", "urs",
    "verticalorientation", "vo", "xonfc", "xonfd", "xonfkc", "xonfkd" ]

/-- The set that a single name stands for: a property, a general category or a script. Three names
of properties are taken for the category of the same name. -/
def propertySet (name : String) : Except PropertyError CodeRanges :=
  let name := normalizeName name
  let binary :=
    if name = "cf" || name = "sc" || name = "lc" then none else listed? name binaryProperties
  match binary.or ((generalCategory? name).or (script? name)) with
  | some set => .ok set
  | none =>
    if emptyGeneralCategories.contains name || emptyScripts.contains name then .error .noValue
    else .error .noProperty

/-- The set of the code points for which a property has a value. -/
def propertyValueSet (name value : String) : Except PropertyError CodeRanges :=
  let name := normalizeName name
  let value := normalizeName value
  let orNoValue (set? : Option CodeRanges) : Except PropertyError CodeRanges :=
    match set? with
    | some set => .ok set
    | none => .error .noValue
  match name with
  | "gc" | "generalcategory" => orNoValue (generalCategory? value)
  | "sc" | "script" => orNoValue (script? value)
  | "scx" | "scriptextensions" => orNoValue (scriptExtension? value)
  | "age" => orNoValue (age? value)
  | "gcb" | "graphemeclusterbreak" => orNoValue (listed? value graphemeBreaks)
  | "wb" | "wordbreak" => orNoValue (listed? value wordBreaks)
  | "sb" | "sentencebreak" => orNoValue (listed? value sentenceBreaks)
  | _ =>
    if otherProperties.contains name || (tableOf? name binaryProperties).isSome then .error .noValue
    else .error .noProperty

end BehaviorDiff.Unicode
