import EventRollup.Text.Age
import EventRollup.Text.Segmentation

namespace EventRollup.Pattern

open Text

/-- A name as it is compared: without case, blanks, hyphens, underscores, a leading `is` and
characters beyond ASCII. The letter c alone keeps its `is`, which makes it no category. -/
def plainName (cs : List Char) : String :=
  let isLed := (cs.take 2).map Char.toLower == ['i', 's']
  let kept := (if isLed then cs.drop 2 else cs).filter fun c =>
    c != ' ' && c != '-' && c != '_' && c.toNat < 128
  match isLed, kept.map Char.toLower with
  | true, ['c'] => "isc"
  | _, name => String.ofList name

abbrev NameTable := List (List String × CharSet)

def NameTable.find? (table : NameTable) (name : String) : Option CharSet :=
  (List.find? (fun entry => decide (name ∈ entry.1)) table).map Prod.snd

def categoryGroups : NameTable :=
  [(["any"], .all),
    (["ascii"], .range 0 0x7F),
    (["assigned"], assignedChars),
    (["cn", "unassigned"], unassignedChars),
    (["c", "other"],
      unassignedChars ∪ GeneralCategory.charsOf [.control, .format, .privateUse]),
    (["l", "letter"], GeneralCategory.charsOf GeneralCategory.letters),
    (["lc", "casedletter"],
      GeneralCategory.charsOf [.uppercaseLetter, .lowercaseLetter, .titlecaseLetter]),
    (["m", "mark", "combiningmark"], GeneralCategory.charsOf GeneralCategory.marks),
    (["n", "number"], GeneralCategory.charsOf GeneralCategory.numbers),
    (["p", "punctuation", "punct"], GeneralCategory.charsOf GeneralCategory.punctuation),
    (["s", "symbol"], GeneralCategory.charsOf GeneralCategory.symbols),
    (["z", "separator"], GeneralCategory.charsOf GeneralCategory.separators),
    (["digit"], GeneralCategory.decimalNumberChars),
    (["cntrl"], GeneralCategory.controlChars)]

def categories : NameTable :=
  categoryGroups ++ GeneralCategory.all.map fun g => ([g.abbreviation, g.longName], g.chars)

def scripts : NameTable := Script.all.map fun s => (s.names, s.own)

def scriptExtensions : NameTable := Script.all.map fun s => (s.names, s.extensions)

/-- Versions are named by their numbers with a point, or by all digits after the letter v. -/
def ages : NameTable :=
  Age.all.map fun a =>
    ([toString a.major ++ "." ++ toString a.minor, "v" ++ toString a.major ++ toString a.minor],
      a.chars)

def graphemeBreaks : NameTable :=
  [(["cn", "control"], GraphemeBreak.control),
    (["cr"], GraphemeBreak.cr),
    (["ex", "extend"], GraphemeBreak.extend),
    (["l"], GraphemeBreak.leading),
    (["lf"], GraphemeBreak.lf),
    (["lv"], GraphemeBreak.openSyllable),
    (["lvt"], GraphemeBreak.closedSyllable),
    (["pp", "prepend"], GraphemeBreak.prepend),
    (["ri", "regionalindicator"], Property.regionalIndicator),
    (["sm", "spacingmark"], GraphemeBreak.spacingMark),
    (["t"], GraphemeBreak.trailing),
    (["v"], GraphemeBreak.vowel),
    (["zwj"], GraphemeBreak.joiner)]

def wordBreaks : NameTable :=
  [(["le", "aletter"], WordBreak.letter),
    (["cr"], GraphemeBreak.cr),
    (["dq", "doublequote"], WordBreak.doubleQuote),
    (["extend"], WordBreak.extend),
    (["ex", "extendnumlet"], WordBreak.connector),
    (["fo", "format"], WordBreak.format),
    (["hl", "hebrewletter"], WordBreak.hebrewLetter),
    (["ka", "katakana"], WordBreak.katakana),
    (["lf"], GraphemeBreak.lf),
    (["ml", "midletter"], WordBreak.insideLetters),
    (["mn", "midnum"], WordBreak.insideNumbers),
    (["mb", "midnumlet"], WordBreak.insideBoth),
    (["nl", "newline"], WordBreak.newline),
    (["nu", "numeric"], WordBreak.numeric),
    (["ri", "regionalindicator"], Property.regionalIndicator),
    (["sq", "singlequote"], WordBreak.singleQuote),
    (["wsegspace"], WordBreak.blank),
    (["zwj"], GraphemeBreak.joiner)]

def sentenceBreaks : NameTable :=
  [(["at", "aterm"], SentenceBreak.ambiguousStop),
    (["cl", "close"], SentenceBreak.closing),
    (["cr"], GraphemeBreak.cr),
    (["ex", "extend"], SentenceBreak.extend),
    (["fo", "format"], SentenceBreak.format),
    (["le", "oletter"], SentenceBreak.otherLetter),
    (["lf"], GraphemeBreak.lf),
    (["lo", "lower"], SentenceBreak.lower),
    (["nu", "numeric"], SentenceBreak.numeric),
    (["sc", "scontinue"], SentenceBreak.goesOn),
    (["se", "sep"], SentenceBreak.separator),
    (["sp"], SentenceBreak.blank),
    (["st", "sterm"], SentenceBreak.stop),
    (["up", "upper"], SentenceBreak.upper)]

def binaryProperties : NameTable :=
  [(["ahex", "asciihexdigit"], Property.asciiHexDigit),
    (["alpha", "alphabetic"], Property.alphabetic),
    (["bidic", "bidicontrol"], Property.bidiControl),
    (["bidim", "bidimirrored"], Property.bidiMirrored),
    (["cased"], Property.cased),
    (["ci", "caseignorable"], Property.caseIgnorable),
    (["cwcf", "changeswhencasefolded"], Property.changesWhenCasefolded),
    (["cwcm", "changeswhencasemapped"], Property.changesWhenCasemapped),
    (["cwl", "changeswhenlowercased"], Property.changesWhenLowercased),
    (["cwt", "changeswhentitlecased"], Property.changesWhenTitlecased),
    (["cwu", "changeswhenuppercased"], Property.changesWhenUppercased),
    (["dash"], Property.dash),
    (["dep", "deprecated"], Property.deprecated),
    (["di", "defaultignorablecodepoint"], Property.defaultIgnorable),
    (["dia", "diacritic"], Property.diacritic),
    (["ebase", "emojimodifierbase"], Property.emojiModifierBase),
    (["ecomp", "emojicomponent"], Property.emojiComponent),
    (["emod", "emojimodifier"], Property.emojiModifier),
    (["emoji"], Property.emoji),
    (["epres", "emojipresentation"], Property.emojiPresentation),
    (["ext", "extender"], Property.extender),
    (["extpict", "extendedpictographic"], Property.extendedPictographic),
    (["grbase", "graphemebase"], Property.graphemeBase),
    (["grext", "graphemeextend"], Property.graphemeExtend),
    (["grlink", "graphemelink"], Property.graphemeLink),
    (["hex", "hexdigit"], Property.hexDigit),
    (["hyphen"], Property.hyphen),
    (["idc", "idcontinue"], Property.idContinue),
    (["idcompatmathcontinue"], Property.idCompatMathContinue),
    (["idcompatmathstart"], Property.idCompatMathStart),
    (["ideo", "ideographic"], Property.ideographic),
    (["ids", "idstart"], Property.idStart),
    (["idsb", "idsbinaryoperator"], Property.idsBinaryOperator),
    (["idst", "idstrinaryoperator"], Property.idsTrinaryOperator),
    (["idsu", "idsunaryoperator"], Property.idsUnaryOperator),
    (["joinc", "joincontrol"], Property.joinControl),
    (["loe", "logicalorderexception"], Property.logicalOrderException),
    (["lower", "lowercase"], Property.lowercase),
    (["math"], Property.math),
    (["mcm", "modifiercombiningmark"], Property.modifierCombiningMark),
    (["nchar", "noncharactercodepoint"], Property.noncharacter),
    (["oalpha", "otheralphabetic"], Property.otherAlphabetic),
    (["odi", "otherdefaultignorablecodepoint"], Property.otherDefaultIgnorable),
    (["ogrext", "othergraphemeextend"], Property.otherGraphemeExtend),
    (["oidc", "otheridcontinue"], Property.otherIdContinue),
    (["oids", "otheridstart"], Property.otherIdStart),
    (["olower", "otherlowercase"], Property.otherLowercase),
    (["omath", "othermath"], Property.otherMath),
    (["oupper", "otheruppercase"], Property.otherUppercase),
    (["patsyn", "patternsyntax"], Property.patternSyntax),
    (["patws", "patternwhitespace"], Property.patternWhiteSpace),
    (["pcm", "prependedconcatenationmark"], Property.prependedConcatenationMark),
    (["qmark", "quotationmark"], Property.quotationMark),
    (["radical"], Property.radical),
    (["ri", "regionalindicator"], Property.regionalIndicator),
    (["sd", "softdotted"], Property.softDotted),
    (["sterm", "sentenceterminal"], Property.sentenceTerminal),
    (["term", "terminalpunctuation"], Property.terminalPunctuation),
    (["uideo", "unifiedideograph"], Property.unifiedIdeograph),
    (["upper", "uppercase"], Property.uppercase),
    (["vs", "variationselector"], Property.variationSelector),
    (["wspace", "whitespace", "space"], Property.whiteSpace),
    (["xidc", "xidcontinue"], Property.xidContinue),
    (["xids", "xidstart"], Property.xidStart)]

def valuedProperties : List (List String × NameTable) :=
  [(["gc", "generalcategory"], categories),
    (["sc", "script"], scripts),
    (["scx", "scriptextensions"], scriptExtensions),
    (["age"], ages),
    (["gcb", "graphemeclusterbreak"], graphemeBreaks),
    (["wb", "wordbreak"], wordBreaks),
    (["sb", "sentencebreak"], sentenceBreaks)]

def named? (name : String) : Option CharSet :=
  (binaryProperties ++ categories ++ scripts : NameTable).find? name

def valued? (key value : String) : Option CharSet :=
  match valuedProperties.find? fun entry => decide (key ∈ entry.1) with
  | some (_, values) => values.find? value
  | none => none

def cutAtMark? (mark : List Char) : List Char → Option (List Char × List Char)
  | [] => none
  | c :: r =>
    if mark.isPrefixOf (c :: r) then some ([], (c :: r).drop mark.length)
    else (cutAtMark? mark r).map fun (before, after) => (c :: before, after)

/-- A set as it is written in a property escape, and whether its complement is meant. -/
structure NamedSet where
  chars : CharSet
  negated : Bool

/-- Reads what stands between the braces of a property escape: a name alone, or a property with its
value after `!=`, `:` or `=`, which are looked for in this order. -/
def NamedSet.ofChars? (cs : List Char) : Option NamedSet :=
  let valued (negated : Bool) (parts : List Char × List Char) : Option NamedSet :=
    (valued? (plainName parts.1) (plainName parts.2)).map fun k => ⟨k, negated⟩
  match cutAtMark? ['!', '='] cs, cutAtMark? [':'] cs, cutAtMark? ['='] cs with
  | some parts, _, _ => valued true parts
  | none, some parts, _ => valued false parts
  | none, none, some parts => valued false parts
  | none, none, none => (named? (plainName cs)).map fun k => ⟨k, false⟩

def asciiSets : NameTable :=
  [(["alnum"], ⟨[⟨0x30, 0x39⟩, ⟨0x41, 0x5A⟩, ⟨0x61, 0x7A⟩]⟩),
    (["alpha"], ⟨[⟨0x41, 0x5A⟩, ⟨0x61, 0x7A⟩]⟩),
    (["ascii"], ⟨[⟨0x00, 0x7F⟩]⟩),
    (["blank"], ⟨[⟨0x09, 0x09⟩, ⟨0x20, 0x20⟩]⟩),
    (["cntrl"], ⟨[⟨0x00, 0x1F⟩, ⟨0x7F, 0x7F⟩]⟩),
    (["digit"], ⟨[⟨0x30, 0x39⟩]⟩),
    (["graph"], ⟨[⟨0x21, 0x7E⟩]⟩),
    (["lower"], ⟨[⟨0x61, 0x7A⟩]⟩),
    (["print"], ⟨[⟨0x20, 0x7E⟩]⟩),
    (["punct"], ⟨[⟨0x21, 0x2F⟩, ⟨0x3A, 0x40⟩, ⟨0x5B, 0x60⟩, ⟨0x7B, 0x7E⟩]⟩),
    (["space"], ⟨[⟨0x09, 0x0D⟩, ⟨0x20, 0x20⟩]⟩),
    (["upper"], ⟨[⟨0x41, 0x5A⟩]⟩),
    (["word"], ⟨[⟨0x30, 0x39⟩, ⟨0x41, 0x5A⟩, ⟨0x5F, 0x5F⟩, ⟨0x61, 0x7A⟩]⟩),
    (["xdigit"], ⟨[⟨0x30, 0x39⟩, ⟨0x41, 0x46⟩, ⟨0x61, 0x66⟩]⟩)]

def shorthand? (unicode : Bool) (letter : Char) : Option CharSet :=
  match letter, unicode with
  | 'd', true => some GeneralCategory.decimalNumberChars
  | 's', true => some Property.whiteSpace
  | 'w', true => some Property.word
  | 'd', false => asciiSets.find? "digit"
  | 's', false => asciiSets.find? "space"
  | 'w', false => asciiSets.find? "word"
  | _, _ => none

end EventRollup.Pattern
