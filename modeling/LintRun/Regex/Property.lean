import LintRun.Regex.CharSet
import LintRun.Unicode.Binary
import LintRun.Unicode.Script

/-!
# Classes by property

A pattern names a class of characters by a general category, a script or another property of
version 16.0 of the character standard.  Names are compared without a leading `is` and without
regard to case, spaces, hyphens and underscores.  Not every property is a class: that of the
version in which a character was added and those of the breaks between characters, words and
sentences are left out, and a pattern with one of them is refused like one with an unknown name.
-/

set_option autoImplicit false

namespace LintRun.Regex.Property

open Unicode

/-- The form in which names of properties are compared. Of the names with a leading `is`, only the
abbreviation `isc` keeps it. -/
def looseName (name : List Char) : String :=
  let plain (cs : List Char) : List Char :=
    (cs.filter fun c => c.toNat < 0x80 && c != ' ' && c != '_' && c != '-').map Char.toLower
  match name with
  | i :: s :: rest =>
    if (i = 'i' ∨ i = 'I') ∧ (s = 's' ∨ s = 'S') then
      if plain rest = ['c'] then "isc" else .ofList (plain rest)
    else .ofList (plain name)
  | _ => .ofList (plain name)

/-- The letters of any kind. -/
def letter : Ranges :=
  uppercaseLetter ++ lowercaseLetter ++ titlecaseLetter ++ modifierLetter ++ otherLetter

/-- The marks of any kind. -/
def mark : Ranges :=
  nonspacingMark ++ spacingMark ++ enclosingMark

/-- The numbers of any kind. -/
def number : Ranges :=
  decimalNumber ++ letterNumber ++ otherNumber

/-- The punctuation of any kind. -/
def punctuation : Ranges :=
  connectorPunctuation ++ dashPunctuation ++ openPunctuation ++ closePunctuation ++
    initialPunctuation ++ finalPunctuation ++ otherPunctuation

/-- The symbols of any kind. -/
def symbol : Ranges :=
  mathSymbol ++ currencySymbol ++ modifierSymbol ++ otherSymbol

/-- The separators of any kind. -/
def separator : Ranges :=
  spaceSeparator ++ lineSeparator ++ paragraphSeparator

/-- Everything that is in a category, surrogates apart. -/
def assigned : Ranges :=
  letter ++ mark ++ number ++ punctuation ++ symbol ++ separator ++ control ++ formatControl ++
    privateUse

/-- The code points that belong to pairs of words and are no characters. -/
def surrogate : Ranges :=
  [(0xD800, 0xDFFF)]

/-- The code points in no category. -/
def unassigned : Ranges :=
  CharSet.complement CharSet.lastCodePoint (CharSet.ofRanges (assigned ++ surrogate))

/-- The general categories by their short and long names. -/
def categories : List (List String × Ranges) :=
  [(["lu", "uppercaseletter"], uppercaseLetter),
   (["ll", "lowercaseletter"], lowercaseLetter),
   (["lt", "titlecaseletter"], titlecaseLetter),
   (["lc", "casedletter"], uppercaseLetter ++ lowercaseLetter ++ titlecaseLetter),
   (["lm", "modifierletter"], modifierLetter),
   (["lo", "otherletter"], otherLetter),
   (["l", "letter"], letter),
   (["mn", "nonspacingmark"], nonspacingMark),
   (["mc", "spacingmark"], spacingMark),
   (["me", "enclosingmark"], enclosingMark),
   (["m", "mark", "combiningmark"], mark),
   (["nd", "decimalnumber", "digit"], decimalNumber),
   (["nl", "letternumber"], letterNumber),
   (["no", "othernumber"], otherNumber),
   (["n", "number"], number),
   (["pc", "connectorpunctuation"], connectorPunctuation),
   (["pd", "dashpunctuation"], dashPunctuation),
   (["ps", "openpunctuation"], openPunctuation),
   (["pe", "closepunctuation"], closePunctuation),
   (["pi", "initialpunctuation"], initialPunctuation),
   (["pf", "finalpunctuation"], finalPunctuation),
   (["po", "otherpunctuation"], otherPunctuation),
   (["p", "punctuation", "punct"], punctuation),
   (["sm", "mathsymbol"], mathSymbol),
   (["sc", "currencysymbol"], currencySymbol),
   (["sk", "modifiersymbol"], modifierSymbol),
   (["so", "othersymbol"], otherSymbol),
   (["s", "symbol"], symbol),
   (["zs", "spaceseparator"], spaceSeparator),
   (["zl", "lineseparator"], lineSeparator),
   (["zp", "paragraphseparator"], paragraphSeparator),
   (["z", "separator"], separator),
   (["cc", "control", "cntrl"], control),
   (["cf", "format"], formatControl),
   (["co", "privateuse"], privateUse),
   (["cn", "unassigned"], unassigned),
   (["c", "other"], control ++ formatControl ++ privateUse ++ unassigned),
   (["any"], [(0, CharSet.lastCodePoint)]),
   (["assigned"], assigned),
   (["ascii"], [(0, 0x7F)])]

/-- The code points of some ranges that are in none of others, both in any order. -/
def without (ranges others : Ranges) : Ranges :=
  CharSet.diff CharSet.lastCodePoint (CharSet.ofRanges ranges) (CharSet.ofRanges others)

/-- Property `Lowercase`. -/
def lowercase : Ranges :=
  lowercaseLetter ++ otherLowercase

/-- Property `Uppercase`. -/
def uppercase : Ranges :=
  uppercaseLetter ++ otherUppercase

/-- Property `Grapheme_Extend`. -/
def graphemeExtend : Ranges :=
  nonspacingMark ++ enclosingMark ++ otherGraphemeExtend

/-- Property `Grapheme_Base`: what is drawn, and does not extend the character before it. -/
def graphemeBase : Ranges :=
  without (letter ++ mark ++ number ++ punctuation ++ symbol ++ spaceSeparator) graphemeExtend

/-- Property `Changes_When_Uppercased`. -/
def changesWhenUppercased : Ranges :=
  without changesWhenCasemapped uppercase

/-- Property `Changes_When_Lowercased`. -/
def changesWhenLowercased : Ranges :=
  without changesWhenCasemapped (without changesWhenUppercased titlecaseLetter)

/-- Property `Changes_When_Titlecased`. The modern Georgian letters have no title case of their own;
of the digraphs, those in capitals have one. -/
def changesWhenTitlecased : Ranges :=
  without changesWhenUppercased (titlecaseLetter ++ [(0x10D0, 0x10FA), (0x10FD, 0x10FF)]) ++
    [(0x1C4, 0x1C4), (0x1C7, 0x1C7), (0x1CA, 0x1CA), (0x1F1, 0x1F1)]

/-- Property `Changes_When_Casefolded`. The Cherokee letters fold to capitals. -/
def changesWhenCasefolded : Ranges :=
  without changesWhenLowercased [(0x13A0, 0x13F5)] ++ foldedSmall

/-- Property `ID_Start`. -/
def idStart : Ranges :=
  without (letter ++ letterNumber ++ otherIdStart) (patternSyntax ++ patternWhiteSpace)

/-- Property `ID_Continue`. -/
def idContinue : Ranges :=
  idStart ++ without (nonspacingMark ++ spacingMark ++ decimalNumber ++ connectorPunctuation ++
    otherIdContinue) (patternSyntax ++ patternWhiteSpace)

/-- The properties that are either had or not, by their names. -/
def binaries : List (List String × Ranges) :=
  [(["asciihexdigit", "ahex"], asciiHexDigit),
   (["alphabetic", "alpha"], letter ++ letterNumber ++ otherAlphabetic),
   (["bidicontrol", "bidic"], bidiControl),
   (["bidimirrored", "bidim"], bidiMirrored),
   (["caseignorable", "ci"], nonspacingMark ++ enclosingMark ++ formatControl ++
     modifierLetter ++ modifierSymbol ++ otherCaseIgnorable),
   (["cased"], uppercase ++ lowercase ++ titlecaseLetter),
   (["changeswhencasefolded", "cwcf"], changesWhenCasefolded),
   (["changeswhencasemapped", "cwcm"], changesWhenCasemapped),
   (["changeswhenlowercased", "cwl"], changesWhenLowercased),
   (["changeswhentitlecased", "cwt"], changesWhenTitlecased),
   (["changeswhenuppercased", "cwu"], changesWhenUppercased),
   (["dash"], dash),
   (["defaultignorablecodepoint", "di"], defaultIgnorable),
   (["deprecated", "dep"], deprecated),
   (["diacritic", "dia"], diacritic),
   (["emoji"], emoji),
   (["emojicomponent", "ecomp"], emojiComponent),
   (["emojimodifier", "emod"], emojiModifier),
   (["emojimodifierbase", "ebase"], emojiModifierBase),
   (["emojipresentation", "epres"], emojiPresentation),
   (["extendedpictographic", "extpict"], extendedPictographic),
   (["extender", "ext"], extender),
   (["graphemebase", "grbase"], graphemeBase),
   (["graphemeextend", "grext"], graphemeExtend),
   (["graphemelink", "grlink"], graphemeLink),
   (["hexdigit", "hex"], hexDigit),
   (["hyphen"], hyphen),
   (["idsbinaryoperator", "idsb"], idsBinaryOperator),
   (["idstrinaryoperator", "idst"], idsTrinaryOperator),
   (["idsunaryoperator", "idsu"], idsUnaryOperator),
   (["idcompatmathcontinue"], idCompatMathContinue),
   (["idcompatmathstart"], idCompatMathStart),
   (["idcontinue", "idc"], idContinue),
   (["idstart", "ids"], idStart),
   (["ideographic", "ideo"], ideographic),
   (["joincontrol", "joinc"], joinControl),
   (["logicalorderexception", "loe"], logicalOrderException),
   (["lowercase", "lower"], lowercase),
   (["math"], mathSymbol ++ otherMath),
   (["modifiercombiningmark", "mcm"], modifierCombiningMark),
   (["noncharactercodepoint", "nchar"], noncharacter),
   (["otheralphabetic", "oalpha"], otherAlphabetic),
   (["otherdefaultignorablecodepoint", "odi"], otherDefaultIgnorable),
   (["othergraphemeextend", "ogrext"], otherGraphemeExtend),
   (["otheridcontinue", "oidc"], otherIdContinue),
   (["otheridstart", "oids"], otherIdStart),
   (["otherlowercase", "olower"], otherLowercase),
   (["othermath", "omath"], otherMath),
   (["otheruppercase", "oupper"], otherUppercase),
   (["patternsyntax", "patsyn"], patternSyntax),
   (["patternwhitespace", "patws"], patternWhiteSpace),
   (["prependedconcatenationmark", "pcm"], prependedConcatenationMark),
   (["quotationmark", "qmark"], quotationMark),
   (["radical"], radical),
   (["regionalindicator", "ri"], regionalIndicator),
   (["sentenceterminal", "sterm"], sentenceTerminal),
   (["softdotted", "sd"], softDotted),
   (["terminalpunctuation", "term"], terminalPunctuation),
   (["unifiedideograph", "uideo"], unifiedIdeograph),
   (["uppercase", "upper"], uppercase),
   (["variationselector", "vs"], variationSelector),
   (["whitespace", "wspace", "space"], blank),
   (["xidcontinue", "xidc"], without idContinue notXidContinue),
   (["xidstart", "xids"], without idStart notXidStart)]

/-- The ranges under a name in a table. -/
def find? (table : List (List String × Ranges)) (name : String) : Option Ranges :=
  (table.find? (·.1.contains name)).map (·.2)

/-- The characters that a script uses, by the name of the script. Those that some script lists as an
extension are neither common nor inherited here. -/
def scriptExtension? (name : String) : Option Ranges := do
  let (names, own) ← scripts.find? (·.1.contains name)
  if names.contains "common" || names.contains "inherited" then
    return without own (scriptExtensions.flatMap (·.2))
  else
    return own ++ ((scriptExtensions.find? fun more => names.contains more.1).map (·.2)).getD []

/-- The class that a name alone stands for: a category, another property or a script. -/
def ofName? (name : List Char) : Option CharSet :=
  let name := looseName name
  (find? categories name <|> find? binaries name <|> find? scripts name).map CharSet.ofRanges

/-- The class of a value of a named property. -/
def ofValue? (property value : List Char) : Option CharSet :=
  let value := looseName value
  match looseName property with
  | "gc" | "generalcategory" => (find? categories value).map CharSet.ofRanges
  | "sc" | "script" => (find? scripts value).map CharSet.ofRanges
  | "scx" | "scriptextensions" => (scriptExtension? value).map CharSet.ofRanges
  | _ => none

end LintRun.Regex.Property
