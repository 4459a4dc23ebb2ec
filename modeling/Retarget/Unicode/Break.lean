import Retarget.Unicode.Blank
import Retarget.Unicode.Category
import Retarget.Unicode.Script
import Retarget.Unicode.Trait

/-!
# Boundary classes

Where a text divides into the characters, words and sentences that a reader sees is told by three classes of its code
points. A class is put together from categories, binary properties and some code points of its own.

* `Break.cluster?`: the classes for characters,
* `Break.word?`: the classes for words,
* `Break.sentence?`: the classes for sentences.

A class has a short and a long name, both in loose form. What belongs to none of the classes has no name here.
-/

namespace Retarget.Unicode.Break

/-- The characters of a script. -/
def written (script : String) : CharSet := (lookUp scripts script).getD .empty

/-! ## Shared parts -/

/-- The non-joiner and the joiner. -/
def joiners : CharSet := codes "200C-200D"

/-- Signs that stand before the numbers that they belong to. -/
def numberSigns : CharSet := codes "600-605 6DD 890-891 8E2 110BD 110CD"

/-- Characters that belong to the character after them. -/
def prepended (_ : Unit) : CharSet :=
  numberSigns.union (codes "70F D4E 111C2-111C3 113D1 1193F 11941 11A3A 11A84-11A89 11D46 11F02")

/-- Marks that belong to the character before them, spacing marks included. -/
def attached (_ : Unit) : CharSet := (having "Gr_Ext").union (ofCategories ["Mc"])

/-- Format characters that neither join nor stand before a number nor extend a character. -/
def formatting (_ : Unit) : CharSet :=
  ((ofCategories ["Cf"]).diff (joiners.union (prepended ()))).diff (having "Gr_Ext")

/-- Decimal digits, the marks within numbers and the signs before them. -/
def numeric (_ : Unit) : CharSet := ((ofCategories ["Nd"]).union (codes "66B-66C")).union numberSigns

/-- Characters that divide lines and paragraphs, the line feed and the carriage return apart. -/
def separators : CharSet := codes "85 2028-2029"

def lineFeed : CharSet := codes "A"

def carriageReturn : CharSet := codes "D"

def joiner : CharSet := codes "200D"

def regional : CharSet := codes "1F1E6-1F1FF"

/-! ## Characters -/

/-- The letters of the blocks of syllables that end in a vowel: each stands before the letters that add a final. -/
def openSyllables (_ : Unit) : CharSet := ⟨(List.range 399).map fun i => (0xAC00 + 28 * i, 0xAC00 + 28 * i)⟩

/-- The control characters of this kind, code points that are kept from being shown among them. -/
def control (_ : Unit) : CharSet :=
  let hidden := assigned.compl.inter (having "DI")
  ((ofCategories ["Zl", "Zp", "Cc", "Cf"]).union hidden).diff
    (((codes "A D").union joiners).union ((prepended ()).union (having "Gr_Ext")))

/-- Spacing marks that belong to the character before them. -/
def spacing (_ : Unit) : CharSet :=
  let apart :=
    codes "102B-102C 1038 1062-1064 1067-106D 1083 1087-108C 108F 109A-109C 1A61 1A63-1A64 AA7B AA7D 11720-11721"
  (((ofCategories ["Mc"]).diff (having "Gr_Ext")).diff apart).union (codes "E33 EB3")

def clusterRows : NamedSets := [
  (["cn", "control"], control),
  (["cr"], fun _ => carriageReturn),
  (["ex", "extend"], fun _ => (having "Gr_Ext").union (having "EMod")),
  (["l"], fun _ => codes "1100-115F A960-A97C"),
  (["lf"], fun _ => lineFeed),
  (["lv"], openSyllables),
  (["lvt"], fun _ => (codes "AC00-D7A3").diff (openSyllables ())),
  (["pp", "prepend"], prepended),
  (["ri", "regionalindicator"], fun _ => regional),
  (["sm", "spacingmark"], spacing),
  (["t"], fun _ => codes "11A8-11FF D7CB-D7FB"),
  (["v"], fun _ => codes "1160-11A7 D7B0-D7C6 16D63 16D67-16D6A"),
  (["zwj"], fun _ => joiner)]

/-- The characters of a class for characters. -/
def cluster? (name : String) : Option CharSet := clusterRows.get? name

/-! ## Words -/

def katakana : CharSet :=
  CharSet.ofLines [
    "3031-3035 309B-309C 30A0-30FA 30FC-30FF 31F0-31FF 32D0-32FE 3300-3357 FF66-FF9D 1AFF0-1AFF3 1AFF5-1AFFB",
    "1AFFD-1AFFE 1B000 1B120-1B122 1B155 1B164-1B167"]

/-- The letters of scripts that are written without blanks between words. -/
def unspaced : CharSet :=
  CharSet.ofLines [
    "E01-E3A E40-E4E E81-E82 E84 E86-E8A E8C-EA3 EA5 EA7-EBD EC0-EC4 EC6 EC8-ECE EDC-EDF 1000-103F 1050-108F",
    "109A-109F 1780-17D3 17D7 17DC-17DD 1950-196D 1970-1974 1980-19AB 19B0-19C9 19DA 19DE-19DF 1A20-1A5E 1A60-1A7C",
    "1AA0-1AAD A9E0-A9EF A9FA-A9FE AA60-AAC2 AADB-AADF 11700-1171A 1171D-1172B 1173A-1173B 1173F-11746"]

def hebrewLetters (_ : Unit) : CharSet := (written "Hebr").inter (ofCategories ["Lo"])

/-- Marks and modifiers that belong to the word before them. -/
def wordExtending (_ : Unit) : CharSet := ((attached ()).union (having "EMod")).diff joiner

/-- Letters of words, and what is used as one. -/
def wordLetters (_ : Unit) : CharSet :=
  let used :=
    codes "2C2-2C5 2D2-2D7 2DE-2DF 2E5-2EB 2ED 2EF-2FF 55A-55C 55E 58A 5F3 70F A708-A716 A720-A721 A789-A78A AB5B"
  let elsewhere := (((having "Ideo").union katakana).union (unspaced.union (written "Hira"))).union
    ((wordExtending ()).union (hebrewLetters ()))
  ((having "Alpha").diff elsewhere).union used

def wordRows : NamedSets := [
  (["cr"], fun _ => carriageReturn),
  (["dq", "doublequote"], fun _ => codes "22"),
  (["ex", "extendnumlet"], fun _ => codes "5F 202F 203F-2040 2054 FE33-FE34 FE4D-FE4F FF3F"),
  (["extend"], wordExtending),
  (["fo", "format"], fun _ => (formatting ()).diff (codes "200B")),
  (["hl", "hebrewletter"], hebrewLetters),
  (["ka", "katakana"], fun _ => katakana),
  (["le", "aletter"], wordLetters),
  (["lf"], fun _ => lineFeed),
  (["mb", "midnumlet"], fun _ => codes "2E 2018-2019 2024 FE52 FF07 FF0E"),
  (["ml", "midletter"], fun _ => codes "3A B7 387 55F 5F4 2027 FE13 FE55 FF1A"),
  (["mn", "midnum"], fun _ => codes "2C 3B 37E 589 60C-60D 66C 7F8 2044 FE10 FE14 FE50 FE54 FF0C FF1B"),
  (["nl", "newline"], fun _ => (codes "B-C").union separators),
  (["nu", "numeric"], fun _ => (numeric ()).diff (codes "66C")),
  (["ri", "regionalindicator"], fun _ => regional),
  (["sq", "singlequote"], fun _ => codes "27"),
  (["wsegspace"], fun _ => codes "20 1680 2000-2006 2008-200A 205F 3000"),
  (["zwj"], fun _ => joiner)]

/-- The characters of a class for words. -/
def word? (name : String) : Option CharSet := wordRows.get? name

/-! ## Sentences -/

/-- Full stops, which may also stand in a number or after an abbreviation. -/
def fullStops : CharSet := codes "2E 2024 FE52 FF0E"

def sentenceExtending (_ : Unit) : CharSet := (attached ()).union joiner

/-- Lower case letters. One script has its lower case used for plain text without capitals. -/
def lowerLetters (_ : Unit) : CharSet := ((having "Lower").diff (having "Gr_Ext")).diff (codes "10D0-10FA 10FD-10FF")

def upperLetters (_ : Unit) : CharSet :=
  ((having "Upper").union (ofCategories ["Lt"])).diff (codes "1C90-1CBA 1CBD-1CBF")

/-- Letters without case. -/
def otherLetters (_ : Unit) : CharSet :=
  ((having "Alpha").union (codes "5F3")).diff
    (((lowerLetters ()).union (upperLetters ())).union (sentenceExtending ()))

/-- Brackets and quotation marks. -/
def closing (_ : Unit) : CharSet :=
  let quotes := (ofCategories ["Pi", "Pf"]).union (codes "22 27 275B-2760 2E00-2E01 2E06-2E08 2E0B 1F676-1F678")
  ((ofCategories ["Ps", "Pe"]).union quotes).diff ((having "STerm").union fullStops)

def sentenceRows : NamedSets := [
  (["at", "aterm"], fun _ => fullStops),
  (["cl", "close"], closing),
  (["cr"], fun _ => carriageReturn),
  (["ex", "extend"], sentenceExtending),
  (["fo", "format"], formatting),
  (["le", "oletter"], otherLetters),
  (["lf"], fun _ => lineFeed),
  (["lo", "lower"], lowerLetters),
  (["nu", "numeric"], numeric),
  (["sc", "scontinue"], fun _ =>
    CharSet.ofLines [
    "2C-2D 3A-3B 37E 55D 60C-60D 7F8 1802 1808 2013-2014 3001 FE10-FE11 FE13-FE14 FE31-FE32 FE50-FE51 FE54-FE55",
    "FE58 FE63 FF0C-FF0D FF1A-FF1B FF64"]),
  (["se", "sep"], fun _ => separators),
  (["sp"], fun _ => blank.diff (separators.union (codes "A D"))),
  (["st", "sterm"], fun _ => (having "STerm").diff fullStops),
  (["up", "upper"], upperLetters)]

/-- The characters of a class for sentences. -/
def sentence? (name : String) : Option CharSet := sentenceRows.get? name

end Retarget.Unicode.Break
