import EventRollup.Text.CaseFolding
import EventRollup.Text.GeneralCategory
import EventRollup.Text.Property.Listed

namespace EventRollup.Text.Property

open GeneralCategory

def alphabetic : CharSet := charsOf (.letterNumber :: letters) ∪ otherAlphabetic

def lowercase : CharSet := lowercaseLetterChars ∪ otherLowercase

def uppercase : CharSet := uppercaseLetterChars ∪ otherUppercase

def cased : CharSet := lowercase ∪ uppercase ∪ titlecaseLetterChars

def math : CharSet := mathSymbolChars ∪ otherMath

def word : CharSet :=
  alphabetic ∪ charsOf (.decimalNumber :: .connectorPunctuation :: marks) ∪ joinControl

def insideWords : CharSet :=
  ⟨[⟨0x27, 0x27⟩, ⟨0x2E, 0x2E⟩, ⟨0x3A, 0x3A⟩, ⟨0xB7, 0xB7⟩, ⟨0x387, 0x387⟩, ⟨0x55F, 0x55F⟩,
    ⟨0x5F4, 0x5F4⟩, ⟨0x2018, 0x2019⟩, ⟨0x2024, 0x2024⟩, ⟨0x2027, 0x2027⟩, ⟨0xFE13, 0xFE13⟩,
    ⟨0xFE52, 0xFE52⟩, ⟨0xFE55, 0xFE55⟩, ⟨0xFF07, 0xFF07⟩, ⟨0xFF0E, 0xFF0E⟩, ⟨0xFF1A, 0xFF1A⟩]⟩

def caseIgnorable : CharSet :=
  charsOf [.nonspacingMark, .enclosingMark, .format, .modifierLetter, .modifierSymbol] ∪ insideWords

def expandedInUppercase : CharSet :=
  ⟨[⟨0x149, 0x149⟩, ⟨0x1F0, 0x1F0⟩, ⟨0x587, 0x587⟩, ⟨0x1E96, 0x1E9A⟩, ⟨0x1F50, 0x1F50⟩,
    ⟨0x1F52, 0x1F52⟩, ⟨0x1F54, 0x1F54⟩, ⟨0x1F56, 0x1F56⟩, ⟨0x1FB2, 0x1FB2⟩, ⟨0x1FB4, 0x1FB4⟩,
    ⟨0x1FB6, 0x1FB7⟩, ⟨0x1FC2, 0x1FC2⟩, ⟨0x1FC4, 0x1FC4⟩, ⟨0x1FC6, 0x1FC7⟩, ⟨0x1FD2, 0x1FD2⟩,
    ⟨0x1FD6, 0x1FD7⟩, ⟨0x1FE2, 0x1FE2⟩, ⟨0x1FE4, 0x1FE4⟩, ⟨0x1FE6, 0x1FE7⟩, ⟨0x1FF2, 0x1FF2⟩,
    ⟨0x1FF4, 0x1FF4⟩, ⟨0x1FF6, 0x1FF7⟩, ⟨0xFB00, 0xFB04⟩, ⟨0xFB13, 0xFB17⟩]⟩

def expandedInFolding : CharSet :=
  ⟨[⟨0xDF, 0xDF⟩, ⟨0x130, 0x130⟩, ⟨0x149, 0x149⟩, ⟨0x587, 0x587⟩, ⟨0x1E9A, 0x1E9A⟩,
    ⟨0x1F80, 0x1F87⟩, ⟨0x1F90, 0x1F97⟩, ⟨0x1FA0, 0x1FA7⟩, ⟨0x1FB2, 0x1FB4⟩, ⟨0x1FB7, 0x1FB7⟩,
    ⟨0x1FC2, 0x1FC4⟩, ⟨0x1FC7, 0x1FC7⟩, ⟨0x1FF2, 0x1FF4⟩, ⟨0x1FF7, 0x1FF7⟩, ⟨0xFB00, 0xFB04⟩,
    ⟨0xFB06, 0xFB06⟩, ⟨0xFB13, 0xFB17⟩]⟩

def foldedByDecomposition : CharSet := ⟨[⟨0x1FBE, 0x1FBE⟩, ⟨0x1FD3, 0x1FD3⟩, ⟨0x1FE3, 0x1FE3⟩]⟩

def titlecaseForms : CharSet :=
  ⟨[⟨0x1C5, 0x1C5⟩, ⟨0x1C8, 0x1C8⟩, ⟨0x1CB, 0x1CB⟩, ⟨0x1F2, 0x1F2⟩, ⟨0x1F88, 0x1F8F⟩,
    ⟨0x1F98, 0x1F9F⟩, ⟨0x1FA8, 0x1FAF⟩, ⟨0x1FBC, 0x1FBC⟩, ⟨0x1FCC, 0x1FCC⟩, ⟨0x1FFC, 0x1FFC⟩]⟩

def capitalDigraphs : CharSet := ⟨[⟨0x1C4, 0x1C4⟩, ⟨0x1C7, 0x1C7⟩, ⟨0x1CA, 0x1CA⟩, ⟨0x1F1, 0x1F1⟩]⟩

/-- Lowercase characters whose capital folds to another character: the dotless i and the iota below
a letter. -/
def capitalsFoldElsewhere : CharSet := ⟨[⟨0x131, 0x131⟩, ⟨0x345, 0x345⟩]⟩

def georgianLetters : CharSet := ⟨[⟨0x10D0, 0x10FA⟩, ⟨0x10FD, 0x10FF⟩]⟩

def cherokeeCapitals : CharSet := ⟨[⟨0x13A0, 0x13F5⟩]⟩

def capitalNumbers : CharSet := ⟨[⟨0x2160, 0x216F⟩, ⟨0x24B6, 0x24CF⟩]⟩

def changesWhenCasefolded : CharSet := (foldSources ∪ expandedInFolding) \ foldedByDecomposition

def changesWhenLowercased : CharSet :=
  (foldSources ∩ charsOf [.uppercaseLetter, .titlecaseLetter]) ∪ .single 0x130 ∪
    cherokeeCapitals ∪ capitalNumbers

def withCapital : CharSet :=
  foldTargets ∪ (foldSources ∩ lowercaseLetterChars) ∪ capitalsFoldElsewhere ∪ expandedInUppercase

def changesWhenUppercased : CharSet := (withCapital ∪ titlecaseForms) \ cherokeeCapitals

def changesWhenTitlecased : CharSet :=
  (withCapital ∪ capitalDigraphs) \ (georgianLetters ∪ cherokeeCapitals)

def changesWhenCasemapped : CharSet :=
  foldSources ∪ foldTargets ∪ .range 0x130 0x131 ∪ expandedInUppercase

def visibleFormat : CharSet := ⟨[⟨0xFFF9, 0xFFFB⟩, ⟨0x13430, 0x13440⟩]⟩

def defaultIgnorable : CharSet :=
  (otherDefaultIgnorable ∪ formatChars ∪ variationSelector) \
    (whiteSpace ∪ visibleFormat ∪ prependedConcatenationMark)

def graphemeExtend : CharSet := charsOf [.enclosingMark, .nonspacingMark] ∪ otherGraphemeExtend

def surrogates : CharSet := .range 0xD800 0xDFFF

def graphemeBase : CharSet :=
  (assignedChars \ surrogates) \
    (charsOf [.control, .format, .privateUse, .lineSeparator, .paragraphSeparator] ∪
      graphemeExtend)

def idStart : CharSet :=
  (charsOf (.letterNumber :: letters) ∪ otherIdStart) \ (patternSyntax ∪ patternWhiteSpace)

def idContinue : CharSet :=
  (idStart ∪ charsOf [.nonspacingMark, .spacingMark, .decimalNumber, .connectorPunctuation] ∪
    otherIdContinue) \ (patternSyntax ∪ patternWhiteSpace)

/-- Characters that stop being parts of an identifier when it is normalised. -/
def unstableInside : CharSet :=
  ⟨[⟨0x37A, 0x37A⟩, ⟨0x309B, 0x309C⟩, ⟨0xFC5E, 0xFC63⟩, ⟨0xFDFA, 0xFDFB⟩, ⟨0xFE70, 0xFE70⟩,
    ⟨0xFE72, 0xFE72⟩, ⟨0xFE74, 0xFE74⟩, ⟨0xFE76, 0xFE76⟩, ⟨0xFE78, 0xFE78⟩, ⟨0xFE7A, 0xFE7A⟩,
    ⟨0xFE7C, 0xFE7C⟩, ⟨0xFE7E, 0xFE7E⟩]⟩

def unstableAtStart : CharSet := ⟨[⟨0xE33, 0xE33⟩, ⟨0xEB3, 0xEB3⟩, ⟨0xFF9E, 0xFF9F⟩]⟩

def xidStart : CharSet := idStart \ (unstableInside ∪ unstableAtStart)

def xidContinue : CharSet := idContinue \ unstableInside

def raisedDigitsAndSigns : CharSet :=
  ⟨[⟨0xB2, 0xB3⟩, ⟨0xB9, 0xB9⟩, ⟨0x2070, 0x2070⟩, ⟨0x2074, 0x207E⟩, ⟨0x2080, 0x208E⟩]⟩

def idCompatMathContinue : CharSet := idCompatMathStart ∪ raisedDigitsAndSigns

end EventRollup.Text.Property
