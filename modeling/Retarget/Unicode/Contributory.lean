import Retarget.Unicode.Category
import Retarget.Unicode.Trait

/-!
# Contributory properties

Some binary properties exist to make up others: together with whole categories they give the letters, the marks that
extend a character and so on. Those that are told by the properties that they make up are computed from them.

* `contributory?`: the characters of a contributory property, by its short or long name in loose form.
-/

namespace Retarget.Unicode

/-- The characters of a property outside some categories. -/
def beyond (trait : String) (cats : List String) : CharSet := (having trait).diff (ofCategories cats)

/-- Letters and marks with case that are no cased letters by category, which also count as alphabetic. -/
def casedSigns : CharSet := codes "345 24B6-24E9 1F130-1F149 1F150-1F169 1F170-1F189"

/-- What counts as alphabetic though it is no letter by category and, some signs apart, has no case. -/
def otherAlphabetic (_ : Unit) : CharSet :=
  ((beyond "Alpha" ["Lt", "Lm", "Lo", "Nl"]).diff ((having "Lower").union (having "Upper"))).union casedSigns

def contributorySets : NamedSets := [
  (["grlink", "graphemelink"], fun _ => CharSet.ofLines [
    "94D 9CD A4D ACD B4D BCD C4D CCD D3B-D3C D4D DCA E3A EBA F84 1039-103A 1714-1715 1734 17D2 1A60 1B44 1BAA-1BAB",
    "1BF2-1BF3 2D7F A806 A82C A8C4 A953 A9C0 AAF6 ABED 10A3F 11046 11070 1107F 110B9 11133-11134 111C0 11235 112EA",
    "1134D 113CE-113D0 11442 114C2 115BF 1163F 116B6 1172B 11839 1193D-1193E 119E0 11A34 11A47 11A99 11C3F",
    "11D44-11D45 11D97 11F41-11F42 1612F"]),
  (["hyphen"], fun _ => codes "2D AD 58A 1806 2010-2011 2E17 30FB FE63 FF0D FF65"),
  (["idsu", "idsunaryoperator"], fun _ => codes "2FFE-2FFF"),
  (["idcompatmathstart"], fun _ =>
    codes "2202 2207 221E 1D6C1 1D6DB 1D6FB 1D715 1D735 1D74F 1D76F 1D789 1D7A9 1D7C3"),
  (["idcompatmathcontinue"], fun _ => CharSet.ofLines [
    "B2-B3 B9 2070 2074-207E 2080-208E 2202 2207 221E 1D6C1 1D6DB 1D6FB 1D715 1D735 1D74F 1D76F 1D789 1D7A9 1D7C3"]),
  (["mcm", "modifiercombiningmark"], fun _ => codes "654-655 658 6DC 6E3 6E7-6E8 8CA-8CB 8CD-8CF 8D3 8F3"),
  (["oalpha", "otheralphabetic"], otherAlphabetic),
  (["odi", "otherdefaultignorablecodepoint"], fun _ =>
    codes "34F 115F-1160 17B4-17B5 2065 3164 FFA0 FFF0-FFF8 E0000 E0002-E001F E0080-E00FF E01F0-E0FFF"),
  (["ogrext", "othergraphemeextend"], fun _ => beyond "Gr_Ext" ["Mn", "Me"]),
  (["oidc", "otheridcontinue"], fun _ => codes "B7 387 1369-1371 19DA 200C-200D 30FB FF65"),
  (["oids", "otheridstart"], fun _ => codes "1885-1886 2118 212E 309B-309C"),
  (["olower", "otherlowercase"], fun _ => beyond "Lower" ["Ll"]),
  (["omath", "othermath"], fun _ => beyond "Math" ["Sm"]),
  (["oupper", "otheruppercase"], fun _ => beyond "Upper" ["Lu"]),
  (["pcm", "prependedconcatenationmark"], fun _ => codes "600-605 6DD 70F 890-891 8E2 110BD 110CD")]

/-- The characters of a contributory property. -/
def contributory? (name : String) : Option CharSet := contributorySets.get? name

end Retarget.Unicode
