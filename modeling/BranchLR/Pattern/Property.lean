import BranchLR.Pattern.CharSet
import BranchLR.Text.Blank
import BranchLR.Text.Casing
import BranchLR.Text.Category.Letter
import BranchLR.Text.Category.Mark
import BranchLR.Text.Category.Number
import BranchLR.Text.Category.Punctuation
import BranchLR.Text.Category.Separator
import BranchLR.Text.Category.Symbol
import BranchLR.Text.Feature
import BranchLR.Text.Script

/-!
# Properties of characters by name

Patterns can ask for the characters with a property: a general category, a script, or one of the
properties that a character has or lacks. Names are compared without regard to case, to spaces,
hyphens and underscores, and to a leading `is`.
-/

namespace BranchLR.Pattern.Property

open Category Casing Feature

/-! ### General categories -/

/-- The letters with case. -/
def casedLetters : CharSet :=
  .unionAll [⟨uppercaseLetters⟩, ⟨lowercaseLetters⟩, ⟨titlecaseLetters⟩]

/-- The letters. -/
def letters : CharSet := .unionAll [casedLetters, ⟨modifierLetters⟩, ⟨otherLetters⟩]

/-- The marks. -/
def marks : CharSet := .unionAll [⟨nonspacingMarks⟩, ⟨spacingMarks⟩, ⟨enclosingMarks⟩]

/-- The numbers. -/
def numbers : CharSet := .unionAll [⟨decimalNumbers⟩, ⟨letterNumbers⟩, ⟨otherNumbers⟩]

/-- The punctuation. -/
def punctuation : CharSet :=
  .unionAll [⟨connectorPunctuation⟩, ⟨dashPunctuation⟩, ⟨openPunctuation⟩, ⟨closePunctuation⟩,
    ⟨initialPunctuation⟩, ⟨finalPunctuation⟩, ⟨otherPunctuation⟩]

/-- The symbols. -/
def symbols : CharSet :=
  .unionAll [⟨mathSymbols⟩, ⟨currencySymbols⟩, ⟨modifierSymbols⟩, ⟨otherSymbols⟩]

/-- The separators. -/
def separators : CharSet :=
  .unionAll [⟨spaceSeparators⟩, ⟨lineSeparators⟩, ⟨paragraphSeparators⟩]

/-- The characters of all categories but the unassigned. -/
def assigned : CharSet :=
  .unionAll [letters, marks, numbers, punctuation, symbols, separators, ⟨controls⟩, ⟨formats⟩,
    ⟨privateUse⟩]

/-- The general categories and the groups of them, by the names they go by. -/
def categories : List (List String × CharSet) :=
  [(["any"], CharSet.none.complement),
   (["assigned"], assigned),
   (["ascii"], ⟨[(0x00, 0x7F)]⟩),
   (["l", "letter"], letters),
   (["lc", "casedletter"], casedLetters),
   (["lu", "uppercaseletter"], ⟨uppercaseLetters⟩),
   (["ll", "lowercaseletter"], ⟨lowercaseLetters⟩),
   (["lt", "titlecaseletter"], ⟨titlecaseLetters⟩),
   (["lm", "modifierletter"], ⟨modifierLetters⟩),
   (["lo", "otherletter"], ⟨otherLetters⟩),
   (["m", "mark", "combiningmark"], marks),
   (["mn", "nonspacingmark"], ⟨nonspacingMarks⟩),
   (["mc", "spacingmark"], ⟨spacingMarks⟩),
   (["me", "enclosingmark"], ⟨enclosingMarks⟩),
   (["n", "number"], numbers),
   (["nd", "decimalnumber", "digit"], ⟨decimalNumbers⟩),
   (["nl", "letternumber"], ⟨letterNumbers⟩),
   (["no", "othernumber"], ⟨otherNumbers⟩),
   (["p", "punctuation", "punct"], punctuation),
   (["pc", "connectorpunctuation"], ⟨connectorPunctuation⟩),
   (["pd", "dashpunctuation"], ⟨dashPunctuation⟩),
   (["ps", "openpunctuation"], ⟨openPunctuation⟩),
   (["pe", "closepunctuation"], ⟨closePunctuation⟩),
   (["pi", "initialpunctuation"], ⟨initialPunctuation⟩),
   (["pf", "finalpunctuation"], ⟨finalPunctuation⟩),
   (["po", "otherpunctuation"], ⟨otherPunctuation⟩),
   (["s", "symbol"], symbols),
   (["sm", "mathsymbol"], ⟨mathSymbols⟩),
   (["sc", "currencysymbol"], ⟨currencySymbols⟩),
   (["sk", "modifiersymbol"], ⟨modifierSymbols⟩),
   (["so", "othersymbol"], ⟨otherSymbols⟩),
   (["z", "separator"], separators),
   (["zs", "spaceseparator"], ⟨spaceSeparators⟩),
   (["zl", "lineseparator"], ⟨lineSeparators⟩),
   (["zp", "paragraphseparator"], ⟨paragraphSeparators⟩),
   (["c", "other"], .union assigned.complement (.unionAll [⟨controls⟩, ⟨formats⟩, ⟨privateUse⟩])),
   (["cc", "control", "cntrl"], ⟨controls⟩),
   (["cf", "format"], ⟨formats⟩),
   (["co", "privateuse"], ⟨privateUse⟩),
   (["cn", "unassigned"], assigned.complement)]

/-! ### Properties that a character has or lacks -/

/-- The characters that spell words. -/
def alphabetic : CharSet := .unionAll [letters, ⟨letterNumbers⟩, ⟨otherAlphabetic⟩]

/-- The lower-case characters. -/
def lowercase : CharSet := .union ⟨lowercaseLetters⟩ ⟨otherLowercase⟩

/-- The upper-case characters. -/
def uppercase : CharSet := .union ⟨uppercaseLetters⟩ ⟨otherUppercase⟩

/-- The characters with case. -/
def cased : CharSet := .unionAll [lowercase, uppercase, ⟨titlecaseLetters⟩]

/-- The characters that are ignored where case is decided. -/
def caseIgnorable : CharSet :=
  .unionAll [⟨nonspacingMarks⟩, ⟨enclosingMarks⟩, ⟨formats⟩, ⟨modifierLetters⟩, ⟨modifierSymbols⟩,
    ⟨otherCaseIgnorable⟩]

/-- The characters that have a lower case. -/
def lowercased : CharSet :=
  ((CharSet.union ⟨uppercaseLetters⟩ ⟨titlecaseLetters⟩).difference ⟨lowercasedExceptions⟩).union
    ⟨otherLowercased⟩

/-- The characters that have an upper case. -/
def uppercased : CharSet :=
  (CharSet.difference ⟨lowercaseLetters⟩ ⟨uppercasedExceptions⟩).union ⟨otherUppercased⟩

/-- The characters that have a title case. -/
def titlecased : CharSet := (uppercased.difference ⟨titlecasedExceptions⟩).union ⟨otherTitlecased⟩

/-- The characters that case folding changes. -/
def folded : CharSet := (lowercased.difference ⟨foldedExceptions⟩).union ⟨otherFolded⟩

/-- The characters that extend a grapheme. -/
def graphemeExtend : CharSet :=
  .unionAll [⟨nonspacingMarks⟩, ⟨enclosingMarks⟩, ⟨otherGraphemeExtend⟩]

/-- The characters that a grapheme can start with. -/
def graphemeBase : CharSet :=
  assigned.difference (.unionAll [⟨controls⟩, ⟨formats⟩, ⟨privateUse⟩, ⟨lineSeparators⟩,
    ⟨paragraphSeparators⟩, graphemeExtend])

/-- The characters that start an identifier. -/
def idStart : CharSet :=
  ((letters.union ⟨letterNumbers⟩).difference (.union ⟨patternSyntax⟩ ⟨patternWhiteSpace⟩)).union
    ⟨otherIdStart⟩

/-- The characters of identifiers. -/
def idContinue : CharSet :=
  .unionAll [idStart, ⟨nonspacingMarks⟩, ⟨spacingMarks⟩, ⟨decimalNumbers⟩, ⟨connectorPunctuation⟩,
    ⟨otherIdContinue⟩]

/-- The properties that a character has or lacks, by the names they go by. -/
def binary : List (List String × CharSet) :=
  [(["asciihexdigit", "ahex"], ⟨asciiHexDigits⟩),
   (["alphabetic", "alpha"], alphabetic),
   (["bidicontrol", "bidic"], ⟨bidiControls⟩),
   (["bidimirrored", "bidim"], ⟨bidiMirrored⟩),
   (["caseignorable", "ci"], caseIgnorable),
   (["cased"], cased),
   (["changeswhencasefolded", "cwcf"], folded),
   (["changeswhencasemapped", "cwcm"], .unionAll [lowercased, uppercased, titlecased]),
   (["changeswhenlowercased", "cwl"], lowercased),
   (["changeswhentitlecased", "cwt"], titlecased),
   (["changeswhenuppercased", "cwu"], uppercased),
   (["dash"], ⟨dashes⟩),
   (["defaultignorablecodepoint", "di"], ⟨defaultIgnorable⟩),
   (["deprecated", "dep"], ⟨deprecatedCodePoints⟩),
   (["diacritic", "dia"], ⟨diacritics⟩),
   (["emoji"], ⟨emoji⟩),
   (["emojicomponent", "ecomp"], ⟨emojiComponents⟩),
   (["emojimodifier", "emod"], ⟨emojiModifiers⟩),
   (["emojimodifierbase", "ebase"], ⟨emojiModifierBases⟩),
   (["emojipresentation", "epres"], ⟨emojiPresentation⟩),
   (["extendedpictographic", "extpict"], ⟨extendedPictographic⟩),
   (["extender", "ext"], ⟨lengthExtenders⟩),
   (["graphemebase", "grbase"], graphemeBase),
   (["graphemeextend", "grext"], graphemeExtend),
   (["hexdigit", "hex"], ⟨hexDigits⟩),
   (["idsbinaryoperator", "idsb"], ⟨idsBinaryOperators⟩),
   (["idstrinaryoperator", "idst"], ⟨idsTrinaryOperators⟩),
   (["idcontinue", "idc"], idContinue),
   (["idstart", "ids"], idStart),
   (["ideographic", "ideo"], ⟨ideographs⟩),
   (["joincontrol", "joinc"], ⟨joinControls⟩),
   (["logicalorderexception", "loe"], ⟨logicalOrderExceptions⟩),
   (["lowercase", "lower"], lowercase),
   (["math"], .union ⟨mathSymbols⟩ ⟨otherMath⟩),
   (["noncharactercodepoint", "nchar"], ⟨noncharacters⟩),
   (["patternsyntax", "patsyn"], ⟨patternSyntax⟩),
   (["patternwhitespace", "patws"], ⟨patternWhiteSpace⟩),
   (["prependedconcatenationmark", "pcm"], ⟨prependedMarks⟩),
   (["quotationmark", "qmark"], ⟨quotationMarks⟩),
   (["radical"], ⟨radicals⟩),
   (["regionalindicator", "ri"], ⟨regionalIndicators⟩),
   (["sentenceterminal", "sterm"], ⟨sentenceTerminals⟩),
   (["softdotted", "sd"], ⟨softDotted⟩),
   (["terminalpunctuation", "term"], ⟨terminalPunctuation⟩),
   (["unifiedideograph", "uideo"], ⟨unifiedIdeographs⟩),
   (["uppercase", "upper"], uppercase),
   (["variationselector", "vs"], ⟨variationSelectors⟩),
   (["whitespace", "wspace", "space"], ⟨blankRanges⟩),
   (["xidcontinue", "xidc"], idContinue.difference ⟨xidContinueExceptions⟩),
   (["xidstart", "xids"], idStart.difference ⟨xidStartExceptions⟩)]

/-! ### Looking up names -/

/-- A name as it is compared. What remains of `is` before a single `c` keeps it, so that the name
is not taken for the category `C`. -/
def normalName (name : List Char) : String :=
  let (rest, cut) := match name with
    | a :: b :: rest =>
      if (a == 'i' || a == 'I') && (b == 's' || b == 'S') then (rest, true) else (name, false)
    | _ => (name, false)
  let kept := rest.filter fun c =>
    decide (c.toNat < 0x80) && c != ' ' && c != '_' && c != '-'
  match cut, kept.map Char.toLower with
  | true, ['c'] => "isc"
  | _, kept => String.ofList kept

/-- The set that goes by a name in a list. -/
def lookUp (entries : List (List String × CharSet)) (name : String) : Option CharSet :=
  (entries.find? fun entry => entry.1.contains name).map Prod.snd

/-- The characters of a script. -/
def script? (name : String) : Option CharSet :=
  (Script.all.find? fun s => s.names.contains name).map (⟨·.ranges⟩)

/-- The characters that a script uses, whether or not others use them too. -/
def scriptExtensions? (name : String) : Option CharSet :=
  (Script.all.find? fun s => s.names.contains name).map fun s =>
    let uses (shared : Script) : Bool := shared.names.any s.names.contains
    let all := CharSet.ofRanges (Script.shared.flatMap Script.ranges)
    let used := CharSet.ofRanges ((Script.shared.filter uses).flatMap Script.ranges)
    (CharSet.difference ⟨s.ranges⟩ all).union used

/-- The set that a name stands for on its own. -/
def named? (name : List Char) : Option CharSet :=
  let name := normalName name
  lookUp binary name <|> lookUp categories name <|> script? name

/-- The set of the characters for which a property has a value. -/
def valued? (property value : List Char) : Option CharSet :=
  let value := normalName value
  match normalName property with
  | "gc" => lookUp categories value
  | "generalcategory" => lookUp categories value
  | "sc" => script? value
  | "script" => script? value
  | "scx" => scriptExtensions? value
  | "scriptextensions" => scriptExtensions? value
  | _ => none

end BranchLR.Pattern.Property
