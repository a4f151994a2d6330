import FilterChain.Unicode.Property
import FilterChain.Unicode.Script

/-!
# Segmentation of text

Three properties say where a text may be cut: into what a reader takes for one character,
into words, and into sentences.  Their values are put together from other properties as the
Unicode standard defines them.  Characters to which no rule applies have no value.
-/

namespace FilterChain.Unicode

open Property (tabled graphemeExtendChars)

/-- Marks that extend the character before them, and what colours an emoji. -/
def extendingChars : CharSet :=
  (graphemeExtendChars.union (tabled .emojiModifier)).diff (.ofText "200d")

/-- As `extendingChars`, with all spacing marks. -/
def combiningChars : CharSet :=
  extendingChars.union (Category.chars .spacingMark)

inductive GraphemeBreak
  | carriageReturn
  | lineFeed
  | control
  | extend
  | zeroWidthJoiner
  | regionalIndicator
  | prepend
  | spacingMark
  | leadingJamo
  | vowelJamo
  | trailingJamo
  | openSyllable
  | closedSyllable
deriving DecidableEq, Repr

namespace GraphemeBreak

def named : List (List String × GraphemeBreak) :=
  [(["cr"], .carriageReturn),
    (["lf"], .lineFeed),
    (["cn", "control"], .control),
    (["ex", "extend"], .extend),
    (["zwj"], .zeroWidthJoiner),
    (["ri", "regionalindicator"], .regionalIndicator),
    (["pp", "prepend"], .prepend),
    (["sm", "spacingmark"], .spacingMark),
    (["l"], .leadingJamo),
    (["v"], .vowelJamo),
    (["t"], .trailingJamo),
    (["lv"], .openSyllable),
    (["lvt"], .closedSyllable)]

/-- The syllables of Hangul without a trailing consonant: every twenty-eighth one. -/
def openSyllables : CharSet :=
  (List.range 399).map fun i => ⟨0xAC00 + 28 * i, 0xAC00 + 28 * i⟩

def chars : GraphemeBreak → CharSet
  | carriageReturn => .ofText "d"
  | lineFeed => .ofText "a"
  | control =>
    ((Category.charsOf [.lineSeparator, .paragraphSeparator, .control, .format]).union
      ((Category.chars .unassigned).inter (Property.chars .defaultIgnorableCodePoint))).diff
      (CharSet.unionAll [.ofText "a d 200c 200d", tabled .prependedConcatenationMark,
        extendingChars])
  | extend => extendingChars
  | zeroWidthJoiner => .ofText "200d"
  | regionalIndicator => tabled .regionalIndicator
  | prepend =>
    (tabled .prependedConcatenationMark).union
      (.ofText "d4e 111c2-111c3 113d1 1193f 11941 11a3a 11a84-11a89 11d46 11f02")
  | spacingMark =>
    ((Category.chars .spacingMark).diff (extendingChars.union
      (.ofText "102b-102c 1038 1062-1064 1067-106d 1083 1087-108c 108f 109a-109c 1a61 1a63-1a64
        aa7b aa7d 11720-11721"))).union (.ofText "e33 eb3")
  | leadingJamo => .ofText "1100-115f a960-a97c"
  | vowelJamo => .ofText "1160-11a7 d7b0-d7c6 16d63 16d67-16d6a"
  | trailingJamo => .ofText "11a8-11ff d7cb-d7fb"
  | openSyllable => openSyllables
  | closedSyllable => CharSet.diff (.ofText "ac00-d7a3") openSyllables

def charsNamed? (name : String) : Option CharSet :=
  (named.find? fun entry => entry.1.contains name).map fun entry => entry.2.chars

end GraphemeBreak

def charsOfScripts (names : List String) : CharSet :=
  CharSet.unionAll ((names.filterMap Script.named?).map Script.chars)

inductive WordBreak
  | carriageReturn
  | lineFeed
  | newline
  | extend
  | zeroWidthJoiner
  | regionalIndicator
  | format
  | katakana
  | hebrewLetter
  | letter
  | singleQuote
  | doubleQuote
  | midNumLet
  | midLetter
  | midNum
  | numeric
  | extendNumLet
  | space
deriving DecidableEq, Repr

namespace WordBreak

def named : List (List String × WordBreak) :=
  [(["cr"], .carriageReturn),
    (["lf"], .lineFeed),
    (["nl", "newline"], .newline),
    (["extend"], .extend),
    (["zwj"], .zeroWidthJoiner),
    (["ri", "regionalindicator"], .regionalIndicator),
    (["fo", "format"], .format),
    (["ka", "katakana"], .katakana),
    (["hl", "hebrewletter"], .hebrewLetter),
    (["le", "aletter"], .letter),
    (["sq", "singlequote"], .singleQuote),
    (["dq", "doublequote"], .doubleQuote),
    (["mb", "midnumlet"], .midNumLet),
    (["ml", "midletter"], .midLetter),
    (["mn", "midnum"], .midNum),
    (["nu", "numeric"], .numeric),
    (["ex", "extendnumlet"], .extendNumLet),
    (["wsegspace"], .space)]

def katakanaChars : CharSet :=
  (charsOfScripts ["kana"]).union (.ofText "3031-3035 309b-309c 30a0 30fc ff70")

def hebrewLetters : CharSet :=
  (charsOfScripts ["hebr"]).inter (Category.chars .otherLetter)

/-- The scripts whose words are not set apart by spaces. -/
def unspacedScripts : List String :=
  ["thai", "laoo", "khmr", "mymr", "tale", "talu", "lana", "tavt", "ahom"]

def letters : CharSet :=
  ((Property.chars .alphabetic).diff
    (CharSet.unionAll [Property.chars .ideographic, katakanaChars, hebrewLetters,
      charsOfScripts ("hira" :: unspacedScripts), combiningChars])).union
    (.ofText "b8 2c2-2c5 2d2-2d7 2de-2df 2e5-2eb 2ed 2ef-2ff 55a-55c 55e 58a 5f3 70f a708-a716
      a720-a721 a789-a78a ab5b")

def digits : CharSet :=
  (Category.chars .decimalNumber).union
    (.ofText "600-605 66b 6dd 890-891 8e2 19da 110bd 110cd")

def chars : WordBreak → CharSet
  | carriageReturn => .ofText "d"
  | lineFeed => .ofText "a"
  | newline => .ofText "b-c 85 2028-2029"
  | extend => combiningChars
  | zeroWidthJoiner => .ofText "200d"
  | regionalIndicator => tabled .regionalIndicator
  | format =>
    (Category.chars .format).diff (CharSet.unionAll [.ofText "200b-200d",
      tabled .prependedConcatenationMark, combiningChars])
  | katakana => katakanaChars
  | hebrewLetter => hebrewLetters
  | letter => letters
  | singleQuote => .ofText "27"
  | doubleQuote => .ofText "22"
  | midNumLet => .ofText "2e 2018-2019 2024 fe52 ff07 ff0e"
  | midLetter => .ofText "3a b7 387 55f 5f4 2027 fe13 fe55 ff1a"
  | midNum => .ofText "2c 3b 37e 589 60c-60d 66c 7f8 2044 fe50 fe54 ff0c ff1b"
  | numeric => digits
  | extendNumLet => (Category.chars .connectorPunctuation).union (.ofText "202f")
  | space => .ofText "20 1680 2000-2006 2008-200a 205f 3000"

def charsNamed? (name : String) : Option CharSet :=
  (named.find? fun entry => entry.1.contains name).map fun entry => entry.2.chars

end WordBreak

inductive SentenceBreak
  | carriageReturn
  | lineFeed
  | separator
  | extend
  | format
  | space
  | lower
  | upper
  | letter
  | numeric
  | fullStop
  | continuation
  | terminal
  | close
deriving DecidableEq, Repr

namespace SentenceBreak

def named : List (List String × SentenceBreak) :=
  [(["cr"], .carriageReturn),
    (["lf"], .lineFeed),
    (["se", "sep"], .separator),
    (["ex", "extend"], .extend),
    (["fo", "format"], .format),
    (["sp"], .space),
    (["lo", "lower"], .lower),
    (["up", "upper"], .upper),
    (["le", "oletter"], .letter),
    (["nu", "numeric"], .numeric),
    (["at", "aterm"], .fullStop),
    (["sc", "scontinue"], .continuation),
    (["st", "sterm"], .terminal),
    (["cl", "close"], .close)]

def extendChars : CharSet :=
  CharSet.unionAll [graphemeExtendChars, Category.chars .spacingMark, .ofText "200d"]

def lowerChars : CharSet :=
  (Property.chars .lowercase).diff (graphemeExtendChars.union (.ofText "10d0-10fa 10fd-10ff"))

def upperChars : CharSet :=
  ((Category.chars .titlecaseLetter).union (Property.chars .uppercase)).diff
    (.ofText "1c90-1cba 1cbd-1cbf")

def fullStops : CharSet := .ofText "2e 2024 fe52 ff0e"

def chars : SentenceBreak → CharSet
  | carriageReturn => .ofText "d"
  | lineFeed => .ofText "a"
  | separator => .ofText "85 2028-2029"
  | extend => extendChars
  | format =>
    ((Category.chars .format).diff
      (CharSet.unionAll [tabled .prependedConcatenationMark, extendChars])).union (.ofText "70f")
  | space => Property.blanks.diff (.ofText "a d 85 2028-2029")
  | lower => lowerChars
  | upper => upperChars
  | letter =>
    ((Property.chars .alphabetic).union (.ofText "5f3")).diff
      (CharSet.unionAll [lowerChars, upperChars, extendChars])
  | numeric => WordBreak.digits.union (.ofText "66c")
  | fullStop => fullStops
  | continuation =>
    .ofText "2c-2d 3a-3b 37e 55d 60c-60d 7f8 1802 1808 2013-2014 3001 fe10-fe11 fe13-fe14
      fe31-fe32 fe50-fe51 fe54-fe55 fe58 fe63 ff0c-ff0d ff1a-ff1b ff64"
  | terminal => (tabled .sentenceTerminal).diff fullStops
  | close =>
    (CharSet.unionAll [Category.charsOf
        [.openPunctuation, .closePunctuation, .initialPunctuation, .finalPunctuation],
      tabled .quotationMark, .ofText "275b-2760 2e00-2e01 2e06-2e08 2e0b 1f676-1f678"]).diff
      (.ofText "ff02 ff07")

def charsNamed? (name : String) : Option CharSet :=
  (named.find? fun entry => entry.1.contains name).map fun entry => entry.2.chars

end SentenceBreak

end FilterChain.Unicode
