import SqlTemplate.Regex.CharSet
import SqlTemplate.Unicode.Age
import SqlTemplate.Unicode.Break.Grapheme
import SqlTemplate.Unicode.Break.Sentence
import SqlTemplate.Unicode.Break.Word
import SqlTemplate.Unicode.CaseMapping
import SqlTemplate.Unicode.Identifier
import SqlTemplate.Unicode.Ideograph
import SqlTemplate.Unicode.ScriptExtension
import SqlTemplate.Unicode.ScriptTable

/-!
# SqlTemplate.Regex.PropertyName

The names by which patterns call Unicode properties and their values, in lower case and without
blanks, hyphens and underscores. What is missing here names nothing.
-/

namespace SqlTemplate.Regex.PropertyName

open Unicode (Age Category Script)
open Unicode.Break (GraphemeClass SentenceClass WordClass)

/-- Finds an entry by any of its names. -/
def lookup? {α : Type} (entries : List (List String × α)) (name : String) : Option α :=
  (entries.find? fun entry => entry.1.contains name).map Prod.snd

def listed (codePoints : Unicode.InversionList) : CharSet :=
  fun c => codePoints.includes c.toNat

/-- The properties that a character has or has not. -/
def binaryProperties : List (List String × CharSet) :=
  [(["alphabetic", "alpha"], Unicode.isAlphabetic),
   (["asciihexdigit", "ahex"], fun c => c.isDigit || CharSet.range 'a' 'f' c.toLower),
   (["bidicontrol", "bidic"], listed Unicode.Usage.bidiControl),
   (["bidimirrored", "bidim"], listed Unicode.Usage.bidiMirrored),
   (["caseignorable", "ci"], Unicode.Break.isCaseIgnorable),
   (["cased"], Unicode.isCased),
   (["changeswhencasefolded", "cwcf"], Unicode.CaseMapping.changesWhenCasefolded),
   (["changeswhencasemapped", "cwcm"], Unicode.CaseMapping.changesWhenCasemapped),
   (["changeswhenlowercased", "cwl"], Unicode.CaseMapping.changesWhenLowercased),
   (["changeswhentitlecased", "cwt"], Unicode.CaseMapping.changesWhenTitlecased),
   (["changeswhenuppercased", "cwu"], Unicode.CaseMapping.changesWhenUppercased),
   (["dash"], listed Unicode.Usage.dash),
   (["defaultignorablecodepoint", "di"], Unicode.isDefaultIgnorable),
   (["deprecated", "dep"], listed Unicode.Usage.deprecated),
   (["diacritic", "dia"], listed Unicode.Usage.diacritic),
   (["emoji"], listed Unicode.Emoji.emoji),
   (["emojicomponent", "ecomp"], listed Unicode.Emoji.component),
   (["emojimodifier", "emod"], listed Unicode.Emoji.modifier),
   (["emojimodifierbase", "ebase"], listed Unicode.Emoji.modifierBase),
   (["emojipresentation", "epres"], listed Unicode.Emoji.presentation),
   (["extendedpictographic", "extpict"], listed Unicode.Emoji.pictographic),
   (["extender", "ext"], listed Unicode.Usage.extender),
   (["graphemebase", "grbase"], Unicode.isGraphemeBase),
   (["graphemeextend", "grext"], Unicode.extendsGrapheme),
   (["graphemelink", "grlink"], listed Unicode.Usage.graphemeLink),
   (["hexdigit", "hex"], listed Unicode.Usage.hexDigit),
   (["hyphen"], listed Unicode.Usage.hyphen),
   (["idcompatmathcontinue"], listed Unicode.Identifier.mathContinue),
   (["idcompatmathstart"], listed Unicode.Identifier.mathStart),
   (["idcontinue", "idc"], Unicode.Identifier.isContinue),
   (["idstart", "ids"], Unicode.Identifier.isStart),
   (["ideographic", "ideo"], listed Unicode.Ideograph.ideographic),
   (["idsbinaryoperator", "idsb"], listed Unicode.Ideograph.binaryOperator),
   (["idstrinaryoperator", "idst"], listed Unicode.Ideograph.trinaryOperator),
   (["idsunaryoperator", "idsu"], listed Unicode.Ideograph.unaryOperator),
   (["joincontrol", "joinc"], Unicode.isJoinControl),
   (["logicalorderexception", "loe"], listed Unicode.Usage.logicalOrderException),
   (["lowercase", "lower"], Unicode.isLowercase),
   (["math"], Unicode.isMath),
   (["modifiercombiningmark", "mcm"], listed Unicode.Usage.modifierCombiningMark),
   (["noncharactercodepoint", "nchar"], listed Unicode.Usage.noncharacter),
   (["otheralphabetic", "oalpha"], listed Unicode.Contributory.otherAlphabetic),
   (["otherdefaultignorablecodepoint", "odi"],
    listed Unicode.Contributory.otherDefaultIgnorable),
   (["othergraphemeextend", "ogrext"], listed Unicode.Contributory.otherGraphemeExtend),
   (["otheridcontinue", "oidc"], listed Unicode.Contributory.otherIdContinue),
   (["otheridstart", "oids"], listed Unicode.Contributory.otherIdStart),
   (["otherlowercase", "olower"], listed Unicode.Contributory.otherLowercase),
   (["othermath", "omath"], listed Unicode.Contributory.otherMath),
   (["otheruppercase", "oupper"], listed Unicode.Contributory.otherUppercase),
   (["patternsyntax", "patsyn"], listed Unicode.Identifier.patternPunctuation),
   (["patternwhitespace", "patws"], listed Unicode.Identifier.patternWhiteSpace),
   (["prependedconcatenationmark", "pcm"], listed Unicode.Usage.prependedConcatenationMark),
   (["quotationmark", "qmark"], listed Unicode.Usage.quotationMark),
   (["radical"], listed Unicode.Ideograph.radical),
   (["regionalindicator", "ri"], listed Unicode.Emoji.regionalIndicator),
   (["sentenceterminal", "sterm"], listed Unicode.Usage.sentenceTerminal),
   (["softdotted", "sd"], listed Unicode.Usage.softDotted),
   (["terminalpunctuation", "term"], listed Unicode.Usage.terminalPunctuation),
   (["unifiedideograph", "uideo"], listed Unicode.Ideograph.unified),
   (["uppercase", "upper"], Unicode.isUppercase),
   (["variationselector", "vs"], listed Unicode.Usage.variationSelector),
   (["whitespace", "wspace", "space"], Unicode.isWhiteSpace),
   (["xidcontinue", "xidc"], Unicode.Identifier.isStableContinue),
   (["xidstart", "xids"], Unicode.Identifier.isStableStart)]

/-- The general categories, groups of categories included. -/
def categories : List (List String × List Category) :=
  [(["l", "letter"], Category.letters),
   (["lc", "casedletter"], [.uppercaseLetter, .lowercaseLetter, .titlecaseLetter]),
   (["lu", "uppercaseletter"], [.uppercaseLetter]),
   (["ll", "lowercaseletter"], [.lowercaseLetter]),
   (["lt", "titlecaseletter"], [.titlecaseLetter]),
   (["lm", "modifierletter"], [.modifierLetter]),
   (["lo", "otherletter"], [.otherLetter]),
   (["m", "mark", "combiningmark"], Category.marks),
   (["mn", "nonspacingmark"], [.nonspacingMark]),
   (["mc", "spacingmark"], [.spacingMark]),
   (["me", "enclosingmark"], [.enclosingMark]),
   (["n", "number"], Category.numbers),
   (["nd", "decimalnumber", "digit"], [.decimalNumber]),
   (["nl", "letternumber"], [.letterNumber]),
   (["no", "othernumber"], [.otherNumber]),
   (["p", "punctuation", "punct"], Category.punctuation),
   (["pc", "connectorpunctuation"], [.connectorPunctuation]),
   (["pd", "dashpunctuation"], [.dashPunctuation]),
   (["ps", "openpunctuation"], [.openPunctuation]),
   (["pe", "closepunctuation"], [.closePunctuation]),
   (["pi", "initialpunctuation"], [.initialPunctuation]),
   (["pf", "finalpunctuation"], [.finalPunctuation]),
   (["po", "otherpunctuation"], [.otherPunctuation]),
   (["s", "symbol"], Category.symbols),
   (["sm", "mathsymbol"], [.mathSymbol]),
   (["sc", "currencysymbol"], [.currencySymbol]),
   (["sk", "modifiersymbol"], [.modifierSymbol]),
   (["so", "othersymbol"], [.otherSymbol]),
   (["z", "separator"], Category.separators),
   (["zs", "spaceseparator"], [.spaceSeparator]),
   (["zl", "lineseparator"], [.lineSeparator]),
   (["zp", "paragraphseparator"], [.paragraphSeparator]),
   (["c", "other"], Category.others),
   (["cc", "control", "cntrl"], [.control]),
   (["cf", "format"], [.format]),
   (["co", "privateuse"], [.privateUse]),
   (["cn", "unassigned"], [.unassigned])]

def graphemeClasses : List (List String × GraphemeClass) :=
  [(["cr"], .carriageReturn),
   (["lf"], .lineFeed),
   (["control", "cn"], .control),
   (["extend", "ex"], .extend),
   (["zwj"], .zeroWidthJoiner),
   (["regionalindicator", "ri"], .regionalIndicator),
   (["prepend", "pp"], .prepend),
   (["spacingmark", "sm"], .spacingMark),
   (["l"], .leadingJamo),
   (["v"], .vowelJamo),
   (["t"], .trailingJamo),
   (["lv"], .syllable),
   (["lvt"], .closedSyllable)]

def wordClasses : List (List String × WordClass) :=
  [(["cr"], .carriageReturn),
   (["lf"], .lineFeed),
   (["newline", "nl"], .newline),
   (["extend"], .extend),
   (["zwj"], .zeroWidthJoiner),
   (["regionalindicator", "ri"], .regionalIndicator),
   (["format", "fo"], .format),
   (["katakana", "ka"], .katakana),
   (["hebrewletter", "hl"], .hebrewLetter),
   (["aletter", "le"], .letter),
   (["singlequote", "sq"], .singleQuote),
   (["doublequote", "dq"], .doubleQuote),
   (["midnumlet", "mb"], .midNumberLetter),
   (["midletter", "ml"], .midLetter),
   (["midnum", "mn"], .midNumber),
   (["numeric", "nu"], .numeric),
   (["extendnumlet", "ex"], .connector),
   (["wsegspace"], .space)]

def sentenceClasses : List (List String × SentenceClass) :=
  [(["cr"], .carriageReturn),
   (["lf"], .lineFeed),
   (["extend", "ex"], .extend),
   (["sep", "se"], .separator),
   (["format", "fo"], .format),
   (["sp"], .space),
   (["lower", "lo"], .lower),
   (["upper", "up"], .upper),
   (["oletter", "le"], .letter),
   (["numeric", "nu"], .numeric),
   (["aterm", "at"], .ambiguousTerminator),
   (["scontinue", "sc"], .sentenceContinue),
   (["sterm", "st"], .terminator),
   (["close", "cl"], .close)]

def categorySet? (name : String) : Option CharSet :=
  if name = "any" then some fun _ => true
  else if name = "assigned" then some (CharSet.compl (Category.holds .unassigned))
  else if name = "ascii" then some CharSet.isAscii
  else (lookup? categories name).map Category.anyHolds

/-- The properties of which a value is asked for. -/
inductive ValuedProperty where
  | category | script | scriptExtensions | age | grapheme | word | sentence
deriving DecidableEq, Repr

def valuedProperties : List (List String × ValuedProperty) :=
  [(["generalcategory", "gc"], .category),
   (["script", "sc"], .script),
   (["scriptextensions", "scx"], .scriptExtensions),
   (["age"], .age),
   (["graphemeclusterbreak", "gcb"], .grapheme),
   (["wordbreak", "wb"], .word),
   (["sentencebreak", "sb"], .sentence)]

def ValuedProperty.set? (property : ValuedProperty) (value : String) : Option CharSet :=
  match property with
  | .category => categorySet? value
  | .script => (Unicode.script? value).map Script.holds
  | .scriptExtensions => (Unicode.script? value).map Script.uses
  | .age => (Unicode.age? value).map Age.holds
  | .grapheme => (lookup? graphemeClasses value).map GraphemeClass.holds
  | .word => (lookup? wordClasses value).map WordClass.holds
  | .sentence => (lookup? sentenceClasses value).map SentenceClass.holds

/-- What a value of a property stands for. -/
def valueSet? (name value : String) : Option CharSet :=
  match lookup? valuedProperties name with
  | none => none
  | some property => property.set? value

/-- A name that stands alone is that of a property, else of a category, else of a script. -/
def set? (name : String) : Option CharSet :=
  match lookup? binaryProperties name with
  | some set => some set
  | none =>
    match categorySet? name with
    | some set => some set
    | none => (Unicode.script? name).map Script.holds

end SqlTemplate.Regex.PropertyName
