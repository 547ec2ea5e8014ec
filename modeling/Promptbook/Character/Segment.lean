import Promptbook.Character.Binary
import Promptbook.Character.Script

/-! Kinds of characters in segmentation.

Text is cut into what is seen as one character, into words and into sentences by the
kinds of its characters. The kinds follow from other properties; short lists name what
does not. -/
namespace Promptbook.Character

/-! ### What is seen as one character -/

def control : Ranges :=
  ((((withCategory ["Zl", "Zp", "Cc", "Cf"]).union
    ((withCategory ["Cn"]).inter defaultIgnorable)).diff
    (having "prependedconcatenationmark")).diff graphemeExtend).diff (listed ["a d 200c-200d"])

def extending : Ranges := graphemeExtend.union (having "emojimodifier")

/-- Spacing marks that begin something of their own. -/
def freeMarks : Ranges := listed [
  "102b-102c 1038 1062-1064 1067-106d 1083 1087-108c 108f 109a-109c 1a61 1a63-1a64 aa7b aa7d",
  "11720-11721"]

def spacing : Ranges :=
  (((withCategory ["Mc"]).union (listed ["e33 eb3"])).diff extending).diff freeMarks

def prepended : Ranges :=
  (having "prependedconcatenationmark").union (listed
    ["d4e 111c2-111c3 113d1 1193f 11941 11a3a 11a84-11a89 11d46 11f02"])

/-- The syllables of two letters begin every 28 code points. -/
def openSyllables : Ranges :=
  (List.range 399).map fun i => (0xAC00 + 28 * i, 0xAC00 + 28 * i)

def graphemeBreak? : String → Option Ranges
  | "cn" | "control" => some control
  | "cr" => some (listed ["d"])
  | "lf" => some (listed ["a"])
  | "ex" | "extend" => some extending
  | "l" => some (listed ["1100-115f a960-a97c"])
  | "v" => some (listed ["1160-11a7 d7b0-d7c6 16d63 16d67-16d6a"])
  | "t" => some (listed ["11a8-11ff d7cb-d7fb"])
  | "lv" => some openSyllables
  | "lvt" => some ((listed ["ac00-d7a3"]).diff openSyllables)
  | "pp" | "prepend" => some prepended
  | "ri" | "regionalindicator" => some (having "regionalindicator")
  | "sm" | "spacingmark" => some spacing
  | "zwj" => some (listed ["200d"])
  | _ => none

/-! ### Words -/

def numeric : Ranges := (withCategory ["Nd"]).union (listed
  ["600-605 66b 6dd 890-891 8e2 19da 110bd 110cd"])

def marking : Ranges := (extending.union (withCategory ["Mc"])).diff (listed ["200d"])

def formatting : Ranges :=
  (((withCategory ["Cf"]).diff (having "prependedconcatenationmark")).diff marking).diff
    (listed ["200c-200d"])

def katakana : Ranges := (ofScript "Kana").union (listed ["3031-3035 309b-309c 30a0 30fc ff70"])

def hebrewLetter : Ranges := (ofScript "Hebr").inter (withCategory ["Lo"])

/-- Letters of the scripts that part their words without a blank. -/
def runningLetters : Ranges := listed [
  "e01-e30 e32-e33 e40-e46 e81-e82 e84 e86-e8a e8c-ea3 ea5 ea7-eb0 eb2-eb3 ebd ec0-ec4 ec6",
  "edc-edf 1000-102a 103f 1050-1055 105a-105d 1061 1065-1066 106e-1070 1075-1081 108e",
  "1780-17b3 17d7 17dc 1950-196d 1970-1974 1980-19ab 19b0-19c9 1a20-1a54 1aa7 a9e0-a9e4",
  "a9e6-a9ef a9fa-a9fe aa60-aa76 aa7a aa7e-aaaf aab1 aab5-aab6 aab9-aabd aac0 aac2 aadb-aadd",
  "11700-1171a 11740-11746"]

/-- Letters of words beside the alphabetic ones. -/
def otherLetters : Ranges := listed [
  "2c2-2c5 2d2-2d7 2de-2df 2e5-2eb 2ed 2ef-2ff 55a-55c 55e 58a 5f3 70f a708-a716 a720-a721",
  "a789-a78a ab5b"]

def wordLetter : Ranges :=
  ((((((alphabetic.diff (having "ideographic")).diff katakana).diff (ofScript "Hira")).diff
    marking).diff hebrewLetter).diff runningLetters).union otherLetters

def wordBreak? : String → Option Ranges
  | "cr" => some (listed ["d"])
  | "lf" => some (listed ["a"])
  | "nl" | "newline" => some (listed ["b-c 85 2028-2029"])
  | "dq" | "doublequote" => some (listed ["22"])
  | "sq" | "singlequote" => some (listed ["27"])
  | "ex" | "extendnumlet" => some ((withCategory ["Pc"]).union (listed ["202f"]))
  | "extend" => some marking
  | "fo" | "format" => some (formatting.diff (listed ["200b"]))
  | "hl" | "hebrewletter" => some hebrewLetter
  | "ka" | "katakana" => some katakana
  | "le" | "aletter" => some wordLetter
  | "mb" | "midnumlet" => some (listed ["2e 2018-2019 2024 fe52 ff07 ff0e"])
  | "ml" | "midletter" => some (listed ["3a b7 387 55f 5f4 2027 fe13 fe55 ff1a"])
  | "mn" | "midnum" => some (listed
      ["2c 3b 37e 589 60c-60d 66c 7f8 2044 fe50 fe54 ff0c ff1b"])
  | "nu" | "numeric" => some numeric
  | "ri" | "regionalindicator" => some (having "regionalindicator")
  | "wsegspace" => some (listed ["20 1680 2000-2006 2008-200a 205f 3000"])
  | "zwj" => some (listed ["200d"])
  | _ => none

/-! ### Sentences -/

/-- Letters with capitals that are not used to begin a sentence. -/
def evenLetters : Ranges := listed ["10d0-10fa 10fd-10ff"]

def evenCapitals : Ranges := listed ["1c90-1cba 1cbd-1cbf"]

def sentenceLower : Ranges := (lowercase.diff graphemeExtend).diff evenLetters

def sentenceUpper : Ranges := (uppercase.union (withCategory ["Lt"])).diff evenCapitals

def sentenceLetter : Ranges :=
  (((alphabetic.union (listed ["5f3"])).diff sentenceLower).diff sentenceUpper).diff
    (graphemeExtend.union (withCategory ["Mc"]))

def closing : Ranges := (withCategory ["Ps", "Pe", "Pi", "Pf"]).union (listed
  ["22 27 275b-2760 2e00-2e01 2e06-2e08 2e0b 1f676-1f678"])

def sentenceBreak? : String → Option Ranges
  | "cr" => some (listed ["d"])
  | "lf" => some (listed ["a"])
  | "se" | "sep" => some (listed ["85 2028-2029"])
  | "sp" => some ((having "whitespace").diff (listed ["a d 85 2028-2029"]))
  | "ex" | "extend" =>
    some ((graphemeExtend.union (withCategory ["Mc"])).union (listed ["200d"]))
  | "fo" | "format" => some (formatting.union (listed ["70f"]))
  | "lo" | "lower" => some sentenceLower
  | "up" | "upper" => some sentenceUpper
  | "le" | "oletter" => some sentenceLetter
  | "nu" | "numeric" => some (numeric.union (listed ["66c"]))
  | "at" | "aterm" => some (listed ["2e 2024 fe52 ff0e"])
  | "st" | "sterm" => some ((having "sentenceterminal").diff (listed ["2e 2024 fe52 ff0e"]))
  | "cl" | "close" => some closing
  | "sc" | "scontinue" => some (listed
      ["2c-2d 3a-3b 37e 55d 60c-60d 7f8 1802 1808 2013-2014 3001 fe10-fe11 fe13-fe14 fe31-fe32",
        "fe50-fe51 fe54-fe55 fe58 fe63 ff0c-ff0d ff1a-ff1b ff64"])
  | _ => none

end Promptbook.Character
