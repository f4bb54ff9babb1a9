import Highlighter.Regex.Property
import Highlighter.Unicode.Age
import Highlighter.Unicode.ScriptExtension

/-!
# Character properties by value

A property can also be asked for by its name and one of its values: the general
category, the script, the scripts a character is used in, the version of the standard
that added it, and what it is for the boundaries between words, between sentences and
between what is drawn as one character.
-/

namespace Highlighter.Property

open Unicode

/-! ## Scripts and ages -/

/-- The characters that are listed with the scripts they are used in. -/
def extended : CharSet := unionOf (Script.extensions.map (·.2))

/-- The characters that are used in a script. Those that are not listed are used in the script they
are assigned to. -/
def scriptExtension? (name : Text) : Option CharSet :=
  (Script.all.find? fun s => s.names.any (·.toList == name)).map fun s =>
    let listed := Script.extensions.filter fun entry => entry.1.any s.names.contains
    .union ((CharSet.table s.ranges).diff extended) (unionOf (listed.map (·.2)))

/-- What the versions up to one with a name have added. -/
def addedUpTo (name : Text) : List (List String × Ranges) → Option (List Ranges)
  | [] => none
  | (names, added) :: rest =>
    if names.any (·.toList == name) then some [added]
    else (addedUpTo name rest).map (added :: ·)

/-- The characters of a version, which has all of the versions before it. -/
def age? (name : Text) : Option CharSet := (addedUpTo name Age.all).map unionOf

/-! ## Boundaries -/

open Unicode.Property

/-- The joiner that makes one character of two. -/
def joiner : CharSet := .only '\u200d'

/-- The characters that are drawn with the one before them. -/
def graphemeExtender : CharSet := unionOf [graphemeExtend, emojiModifier]

/-- The signs before a number that count as digits. The others are read as letters. -/
def numberSign : CharSet := (CharSet.table prependedConcatenationMark).diff (.only '\u070f')

/-- The characters that are no text, and break it everywhere. -/
def graphemeControl : CharSet :=
  (CharSet.union
    (unionOf [Category.control, Category.format, Category.lineSeparator,
      Category.paragraphSeparator])
    (.inter (.complement assigned) (.table defaultIgnorableCodePoint))).diff
  (.union (.ofList ['\r', '\n', '\u200c', '\u200d'])
    (.union (.table prependedConcatenationMark) graphemeExtender))

/-- What characters are for the boundaries of what is drawn as one character. -/
def graphemeBreaks : List (List String × CharSet) := [
  (["cr"], .only '\r'), (["lf"], .only '\n'), (["zwj"], joiner),
  (["control", "cn"], graphemeControl),
  (["extend", "ex"], graphemeExtender),
  (["regionalindicator", "ri"], .table regionalIndicator),
  (["prepend", "pp"], unionOf [Boundary.prefixedConsonant, prependedConcatenationMark]),
  (["spacingmark", "sm"],
    (unionOf [Category.spacingMark, Boundary.otherSpacingMark]).diff
      (.union graphemeExtender (.table Boundary.looseSpacingMark))),
  (["l"], .table Boundary.leadingJamo), (["v"], .table Boundary.vowelJamo),
  (["t"], .table Boundary.trailingJamo), (["lv"], .table Boundary.openSyllable),
  (["lvt"], .table Boundary.closedSyllable)]

/-- The characters that belong to the word of the one before them. -/
def wordExtender : CharSet := unionOf [graphemeExtend, Category.spacingMark, emojiModifier]

/-- The characters of Katakana, with the marks that are read like them. -/
def katakana : CharSet := unionOf [Script.katakana.ranges, Boundary.katakanaMark]

/-- The letters of Hebrew. -/
def hebrewLetter : CharSet := .inter (.table Script.hebrew.ranges) (.table Category.otherLetter)

/-- The letters of scripts that have blanks between words. -/
def wordLetter : CharSet :=
  .union (.table Boundary.otherWordLetter)
    (alphabetic.diff
      (.union (.union wordExtender hebrewLetter)
        (.union katakana
          (unionOf [ideographic, Boundary.complexContext, Script.hiragana.ranges]))))

/-- What characters are for the boundaries of words. -/
def wordBreaks : List (List String × CharSet) := [
  (["cr"], .only '\r'), (["lf"], .only '\n'), (["zwj"], joiner),
  (["newline", "nl"], .table Boundary.newline),
  (["extend"], wordExtender),
  (["format", "fo"],
    (CharSet.table Category.format).diff
      (.union (.union wordExtender (.ofList ['\u200b', '\u200d']))
        (.table prependedConcatenationMark))),
  (["regionalindicator", "ri"], .table regionalIndicator),
  (["katakana", "ka"], katakana), (["hebrewletter", "hl"], hebrewLetter),
  (["aletter", "le"], wordLetter),
  (["singlequote", "sq"], .only '\x27'), (["doublequote", "dq"], .only '\x22'),
  (["midletter", "ml"], .table Boundary.midLetter), (["midnum", "mn"], .table Boundary.midNumber),
  (["midnumlet", "mb"], .table Boundary.midNumberOrLetter),
  (["numeric", "nu"], .union numberSign (unionOf [Category.decimalNumber, [(0x66B, 0x66B)]])),
  (["extendnumlet", "ex"], .table Boundary.extendNumberOrLetter),
  (["wsegspace"], .table Boundary.wordBlank)]

/-- The characters that belong to the sentence of the one before them. -/
def sentenceExtender : CharSet :=
  .union joiner (unionOf [graphemeExtend, Category.spacingMark])

/-- The letters after which a sentence goes on. -/
def sentenceLower : CharSet :=
  lowercase.diff (unionOf [graphemeExtend, Boundary.uncasedGeorgian])

/-- The letters that start a sentence. -/
def sentenceUpper : CharSet :=
  (CharSet.union uppercase (.table Category.titlecaseLetter)).diff
    (.table Boundary.uncasedMtavruli)

/-- What characters are for the boundaries of sentences. -/
def sentenceBreaks : List (List String × CharSet) := [
  (["cr"], .only '\r'), (["lf"], .only '\n'),
  (["sep", "se"], .table Boundary.paragraphSeparator),
  (["extend", "ex"], sentenceExtender),
  (["format", "fo"],
    (CharSet.table Category.format).diff (.union sentenceExtender numberSign)),
  (["sp"], (CharSet.table whiteSpace).diff
    (.union (.ofList ['\r', '\n']) (.table Boundary.paragraphSeparator))),
  (["lower", "lo"], sentenceLower), (["upper", "up"], sentenceUpper),
  (["oletter", "le"], (CharSet.union alphabetic (.only '\u05f3')).diff
    (.union sentenceExtender (.union sentenceLower sentenceUpper))),
  (["numeric", "nu"], .union numberSign (unionOf [Category.decimalNumber, [(0x66B, 0x66C)]])),
  (["aterm", "at"], .table Boundary.sentenceEnd),
  (["sterm", "st"], (CharSet.table sentenceTerminal).diff (.table Boundary.sentenceEnd)),
  (["scontinue", "sc"], .table Boundary.sentenceContinue),
  (["close", "cl"], unionOf [Category.openPunctuation, Category.closePunctuation,
    Category.initialPunctuation, Category.finalPunctuation, Boundary.quotation])]

/-! ## Values -/

/-- The properties that can be asked for by value, with what they answer. -/
def valued : List (List String × (Text → Option CharSet)) := [
  (["gc", "generalcategory"], category?),
  (["sc", "script"], script?),
  (["scx", "scriptextensions"], scriptExtension?),
  (["age"], age?),
  (["gcb", "graphemeclusterbreak"], lookUp graphemeBreaks),
  (["wb", "wordbreak"], lookUp wordBreaks),
  (["sb", "sentencebreak"], lookUp sentenceBreaks)]

/-- The characters for which a property has a value. -/
def findValue? (name value : Text) : Option CharSet :=
  match lookUp valued (normalize name) with
  | some find? => find? (normalize value)
  | none => none

end Highlighter.Property
