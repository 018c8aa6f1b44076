import RecordRules.Text.Edition
import RecordRules.Text.ScriptUse
import RecordRules.Text.Segment

/-!
# Sets named by a property

The names that patterns may use between `\p` and its braces: general categories and
their groups, properties, scripts, and values of a few properties more.  Capitals,
blanks, hyphens and underscores in a name make no difference, and neither does a leading
`is`.
-/

namespace RecordRules

namespace Category

/-- The categories that a name stands for; there are short names, full names and names
of groups. -/
def named? : String → Option (List Category)
  | "lu" | "uppercaseletter" => some [uppercaseLetter]
  | "ll" | "lowercaseletter" => some [lowercaseLetter]
  | "lt" | "titlecaseletter" => some [titlecaseLetter]
  | "lc" | "casedletter" => some [uppercaseLetter, lowercaseLetter, titlecaseLetter]
  | "lm" | "modifierletter" => some [modifierLetter]
  | "lo" | "otherletter" => some [otherLetter]
  | "l" | "letter" =>
    some [uppercaseLetter, lowercaseLetter, titlecaseLetter, modifierLetter, otherLetter]
  | "mn" | "nonspacingmark" => some [nonspacingMark]
  | "mc" | "spacingmark" => some [spacingMark]
  | "me" | "enclosingmark" => some [enclosingMark]
  | "m" | "mark" | "combiningmark" => some [nonspacingMark, spacingMark, enclosingMark]
  | "nd" | "decimalnumber" | "digit" => some [decimalNumber]
  | "nl" | "letternumber" => some [letterNumber]
  | "no" | "othernumber" => some [otherNumber]
  | "n" | "number" => some [decimalNumber, letterNumber, otherNumber]
  | "pc" | "connectorpunctuation" => some [connectorPunctuation]
  | "pd" | "dashpunctuation" => some [dashPunctuation]
  | "ps" | "openpunctuation" => some [openPunctuation]
  | "pe" | "closepunctuation" => some [closePunctuation]
  | "pi" | "initialpunctuation" => some [initialPunctuation]
  | "pf" | "finalpunctuation" => some [finalPunctuation]
  | "po" | "otherpunctuation" => some [otherPunctuation]
  | "p" | "punct" | "punctuation" =>
    some [connectorPunctuation, dashPunctuation, openPunctuation, closePunctuation,
      initialPunctuation, finalPunctuation, otherPunctuation]
  | "sm" | "mathsymbol" => some [mathSymbol]
  | "sc" | "currencysymbol" => some [currencySymbol]
  | "sk" | "modifiersymbol" => some [modifierSymbol]
  | "so" | "othersymbol" => some [otherSymbol]
  | "s" | "symbol" => some [mathSymbol, currencySymbol, modifierSymbol, otherSymbol]
  | "zs" | "spaceseparator" => some [spaceSeparator]
  | "zl" | "lineseparator" => some [lineSeparator]
  | "zp" | "paragraphseparator" => some [paragraphSeparator]
  | "z" | "separator" => some [spaceSeparator, lineSeparator, paragraphSeparator]
  | "cc" | "control" | "cntrl" => some [control]
  | "cf" | "format" => some [format]
  | "co" | "privateuse" => some [privateUse]
  | "cn" | "unassigned" => some [unassigned]
  | "c" | "other" => some [control, format, privateUse, surrogate, unassigned]
  | _ => none

end Category

namespace ListedProperty

/-- The property under a name or a short name, without capitals and separators. -/
def named? : String → Option ListedProperty
  | "ahex" | "asciihexdigit" => some asciiHexDigit
  | "bidic" | "bidicontrol" => some bidiControl
  | "bidim" | "bidimirrored" => some bidiMirrored
  | "dash" => some dash
  | "dep" | "deprecated" => some deprecated
  | "dia" | "diacritic" => some diacritic
  | "emoji" => some emoji
  | "ecomp" | "emojicomponent" => some emojiComponent
  | "emod" | "emojimodifier" => some emojiModifier
  | "ebase" | "emojimodifierbase" => some emojiModifierBase
  | "epres" | "emojipresentation" => some emojiPresentation
  | "extpict" | "extendedpictographic" => some extendedPictographic
  | "ext" | "extender" => some extender
  | "grlink" | "graphemelink" => some graphemeLink
  | "hex" | "hexdigit" => some hexDigit
  | "hyphen" => some hyphen
  | "idsb" | "idsbinaryoperator" => some idsBinaryOperator
  | "idst" | "idstrinaryoperator" => some idsTrinaryOperator
  | "idsu" | "idsunaryoperator" => some idsUnaryOperator
  | "idcompatmathcontinue" => some mathContinue
  | "idcompatmathstart" => some mathStart
  | "ideo" | "ideographic" => some ideographic
  | "joinc" | "joincontrol" => some joinControl
  | "loe" | "logicalorderexception" => some logicalOrderException
  | "mcm" | "modifiercombiningmark" => some modifierCombiningMark
  | "nchar" | "noncharactercodepoint" => some noncharacter
  | "oalpha" | "otheralphabetic" => some otherAlphabetic
  | "odi" | "otherdefaultignorablecodepoint" => some otherDefaultIgnorable
  | "ogrext" | "othergraphemeextend" => some otherGraphemeExtend
  | "oidc" | "otheridcontinue" => some otherIdContinue
  | "oids" | "otheridstart" => some otherIdStart
  | "olower" | "otherlowercase" => some otherLowercase
  | "omath" | "othermath" => some otherMath
  | "oupper" | "otheruppercase" => some otherUppercase
  | "patsyn" | "patternsyntax" => some patternSyntax
  | "patws" | "patternwhitespace" => some patternWhiteSpace
  | "pcm" | "prependedconcatenationmark" => some prependedConcatenationMark
  | "qmark" | "quotationmark" => some quotationMark
  | "radical" => some radical
  | "ri" | "regionalindicator" => some regionalIndicator
  | "sterm" | "sentenceterminal" => some sentenceTerminal
  | "sd" | "softdotted" => some softDotted
  | "term" | "terminalpunctuation" => some terminalPunctuation
  | "uideo" | "unifiedideograph" => some unifiedIdeograph
  | "vs" | "variationselector" => some variationSelector
  | "space" | "wspace" | "whitespace" => some whiteSpace
  | _ => none

end ListedProperty

namespace CharSet

/-- A name without what makes no difference. -/
def plainName (name : String) : String :=
  let kept := name.toList.filter fun c => c < '\x80' && c ≠ ' ' && c ≠ '_' && c ≠ '-'
  let plain := kept.map Char.toLower
  match name.toList.map Char.toLower with
  | 'i' :: 's' :: _ => if plain = ['i', 's', 'c'] then "isc" else String.ofList (plain.drop 2)
  | _ => String.ofList plain

/-- The set of a property under a name or a short name. -/
def ofProperty? : String → Option CharSet
  | "alpha" | "alphabetic" => some alphabetic
  | "lower" | "lowercase" => some lowercase
  | "upper" | "uppercase" => some uppercase
  | "cased" => some cased
  | "ci" | "caseignorable" => some caseIgnorable
  | "cwl" | "changeswhenlowercased" => some changesWhenLowercased
  | "cwu" | "changeswhenuppercased" => some changesWhenUppercased
  | "cwt" | "changeswhentitlecased" => some changesWhenTitlecased
  | "cwcf" | "changeswhencasefolded" => some changesWhenCasefolded
  | "cwcm" | "changeswhencasemapped" => some changesWhenCasemapped
  | "di" | "defaultignorablecodepoint" => some defaultIgnorable
  | "grbase" | "graphemebase" => some graphemeBase
  | "grext" | "graphemeextend" => some graphemeExtend
  | "math" => some mathematical
  | "ids" | "idstart" => some identifierStart
  | "idc" | "idcontinue" => some identifierContinue
  | "xids" | "xidstart" => some stableStart
  | "xidc" | "xidcontinue" => some stableContinue
  | name => (ListedProperty.named? name).map ListedProperty.set

/-- The set of a category or a group of them. -/
def ofCategory? : String → Option CharSet
  | "any" => some all
  | "ascii" => some (range '\x00' '\x7f')
  | "assigned" => some Category.unassigned.set.compl
  | name => (Category.named? name).map Category.setOf

/-- The set of a script. -/
def ofScript? (name : String) : Option CharSet :=
  (Script.named? name).map Script.set

/-- The set that a name alone stands for.  Three short names of categories are names of
properties too; they mean the categories. -/
def ofName? (name : String) : Option CharSet :=
  let name := plainName name
  let ofProperty := if name = "cf" || name = "sc" || name = "lc" then none else ofProperty? name
  ofProperty.or ((ofCategory? name).or (ofScript? name))

/-- The set of the characters for which a property has a value. -/
def ofValue? (property value : String) : Option CharSet :=
  let value := plainName value
  match plainName property with
  | "gc" | "generalcategory" => ofCategory? value
  | "sc" | "script" => ofScript? value
  | "scx" | "scriptextensions" => (Script.named? value).map Script.usedSet
  | "age" => Edition.set? value
  | "gcb" | "graphemeclusterbreak" => (GraphemeBreak.named? value).map GraphemeBreak.set
  | "wb" | "wordbreak" => (WordBreak.named? value).map WordBreak.set
  | "sb" | "sentencebreak" => (SentenceBreak.named? value).map SentenceBreak.set
  | _ => none

end CharSet

end RecordRules
