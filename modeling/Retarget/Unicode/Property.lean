import Retarget.Unicode.Age
import Retarget.Unicode.Break
import Retarget.Unicode.Contributory
import Retarget.Unicode.ScriptExtension

/-!
# Character properties by name

A property is named loosely: case, blanks, underscores, hyphens and a leading `is` do not count (`looseName`). A
name alone is looked up among the binary properties, then the general categories, then the scripts
(`byName?`); a name with a value asks for a general category, a script, a script extension, an age or a boundary class
(`byValue?`).
-/

namespace Retarget.Unicode

/-- Lower case without blanks, underscores and hyphens. -/
def squeeze (name : List Char) : List Char :=
  name.filterMap fun c =>
    if c == ' ' || c == '_' || c == '-' then none
    else if c.toNat < 128 then some c.toLower
    else none

/-- The form under which names are compared. -/
def looseName (name : String) : String :=
  let cs := name.toList
  match cs with
  | i :: s :: rest =>
    if i.toLower == 'i' && s.toLower == 's' then
      let tail := squeeze rest
      if tail == ['c'] then "isc" else String.ofList tail
    else String.ofList (squeeze cs)
  | _ => String.ofList (squeeze cs)

/-- Short and long names of the binary properties, with the key of their table row. -/
def traitNames : List (String × String) := [
  ("ahex", "AHex"), ("asciihexdigit", "AHex"), ("alpha", "Alpha"), ("alphabetic", "Alpha"),
  ("bidic", "Bidi_C"), ("bidicontrol", "Bidi_C"), ("bidim", "Bidi_M"), ("bidimirrored", "Bidi_M"),
  ("ci", "CI"), ("caseignorable", "CI"), ("cased", "Cased"),
  ("cwcf", "CWCF"), ("changeswhencasefolded", "CWCF"), ("cwcm", "CWCM"), ("changeswhencasemapped", "CWCM"),
  ("cwl", "CWL"), ("changeswhenlowercased", "CWL"), ("cwt", "CWT"), ("changeswhentitlecased", "CWT"),
  ("cwu", "CWU"), ("changeswhenuppercased", "CWU"), ("dash", "Dash"),
  ("di", "DI"), ("defaultignorablecodepoint", "DI"), ("dep", "Dep"), ("deprecated", "Dep"),
  ("dia", "Dia"), ("diacritic", "Dia"), ("emoji", "Emoji"), ("ecomp", "EComp"), ("emojicomponent", "EComp"),
  ("emod", "EMod"), ("emojimodifier", "EMod"), ("ebase", "EBase"), ("emojimodifierbase", "EBase"),
  ("epres", "EPres"), ("emojipresentation", "EPres"), ("extpict", "ExtPict"),
  ("extendedpictographic", "ExtPict"), ("ext", "Ext"), ("extender", "Ext"),
  ("grbase", "Gr_Base"), ("graphemebase", "Gr_Base"), ("grext", "Gr_Ext"), ("graphemeextend", "Gr_Ext"),
  ("hex", "Hex"), ("hexdigit", "Hex"), ("idsb", "IDSB"), ("idsbinaryoperator", "IDSB"),
  ("idst", "IDST"), ("idstrinaryoperator", "IDST"), ("idc", "IDC"), ("idcontinue", "IDC"),
  ("ids", "IDS"), ("idstart", "IDS"), ("ideo", "Ideo"), ("ideographic", "Ideo"),
  ("joinc", "Join_C"), ("joincontrol", "Join_C"), ("loe", "LOE"), ("logicalorderexception", "LOE"),
  ("lower", "Lower"), ("lowercase", "Lower"), ("math", "Math"), ("nchar", "NChar"),
  ("noncharactercodepoint", "NChar"), ("patsyn", "Pat_Syn"), ("patternsyntax", "Pat_Syn"),
  ("patws", "Pat_WS"), ("patternwhitespace", "Pat_WS"), ("qmark", "QMark"), ("quotationmark", "QMark"),
  ("radical", "Radical"), ("ri", "RI"), ("regionalindicator", "RI"), ("sterm", "STerm"),
  ("sentenceterminal", "STerm"), ("sd", "SD"), ("softdotted", "SD"), ("term", "Term"),
  ("terminalpunctuation", "Term"), ("uideo", "UIdeo"), ("unifiedideograph", "UIdeo"), ("upper", "Upper"),
  ("uppercase", "Upper"), ("vs", "VS"), ("variationselector", "VS"), ("xidc", "XIDC"), ("xidcontinue", "XIDC"),
  ("xids", "XIDS"), ("xidstart", "XIDS")]

/-- The set of a binary property. -/
def trait? (name : String) : Option CharSet :=
  if name == "space" || name == "wspace" || name == "whitespace" then some blank
  else ((traitNames.lookup name).bind (lookUp traits)).or (contributory? name)

/-- Short and long names of the general categories, with the categories that each stands for. -/
def categoryNames : List (List String × List String) := [
  (["lu", "uppercaseletter"], ["Lu"]), (["ll", "lowercaseletter"], ["Ll"]), (["lt", "titlecaseletter"], ["Lt"]),
  (["lc", "casedletter"], ["Lu", "Ll", "Lt"]), (["lm", "modifierletter"], ["Lm"]), (["lo", "otherletter"], ["Lo"]),
  (["l", "letter"], ["Lu", "Ll", "Lt", "Lm", "Lo"]),
  (["mn", "nonspacingmark"], ["Mn"]), (["mc", "spacingmark"], ["Mc"]), (["me", "enclosingmark"], ["Me"]),
  (["m", "mark", "combiningmark"], ["Mn", "Mc", "Me"]),
  (["nd", "decimalnumber", "digit"], ["Nd"]), (["nl", "letternumber"], ["Nl"]), (["no", "othernumber"], ["No"]),
  (["n", "number"], ["Nd", "Nl", "No"]),
  (["pc", "connectorpunctuation"], ["Pc"]), (["pd", "dashpunctuation"], ["Pd"]),
  (["ps", "openpunctuation"], ["Ps"]), (["pe", "closepunctuation"], ["Pe"]),
  (["pi", "initialpunctuation"], ["Pi"]), (["pf", "finalpunctuation"], ["Pf"]),
  (["po", "otherpunctuation"], ["Po"]),
  (["p", "punctuation", "punct"], ["Pc", "Pd", "Ps", "Pe", "Pi", "Pf", "Po"]),
  (["sm", "mathsymbol"], ["Sm"]), (["sc", "currencysymbol"], ["Sc"]), (["sk", "modifiersymbol"], ["Sk"]),
  (["so", "othersymbol"], ["So"]), (["s", "symbol"], ["Sm", "Sc", "Sk", "So"]),
  (["zs", "spaceseparator"], ["Zs"]), (["zl", "lineseparator"], ["Zl"]), (["zp", "paragraphseparator"], ["Zp"]),
  (["z", "separator"], ["Zs", "Zl", "Zp"]),
  (["cc", "control", "cntrl"], ["Cc"]), (["cf", "format"], ["Cf"]), (["co", "privateuse"], ["Co"])]

/-- The set of a general category, or of `any`, `assigned` and `ascii`. -/
def category? (name : String) : Option CharSet :=
  if name == "any" then some .all
  else if name == "assigned" then some assigned
  else if name == "ascii" then some ⟨[(0, 127)]⟩
  else if name == "cn" || name == "unassigned" then some assigned.compl
  else if name == "c" || name == "other" then
    some (assigned.compl.union (ofCategories ["Cc", "Cf", "Co"]))
  else (categoryNames.find? fun row => row.1.contains name).map fun row => ofCategories row.2

/-- The set of a script. -/
def script? (name : String) : Option CharSet := (scriptNames.lookup name).bind (lookUp scripts)

/-- The set of a script extension. -/
def scriptExtension? (name : String) : Option CharSet :=
  (scriptNames.lookup name).bind fun code => (lookUp scriptExtensions code).or (lookUp scripts code)

/-- The set that a property name alone stands for. -/
def byName? (name : String) : Option CharSet :=
  let n := looseName name
  let trait := if n == "cf" || n == "sc" || n == "lc" then none else trait? n
  trait.or ((category? n).or (script? n))

/-- The set that a property name with a value stands for. -/
def byValue? (name value : String) : Option CharSet :=
  let n := looseName name
  let v := looseName value
  if n == "gc" || n == "generalcategory" then category? v
  else if n == "sc" || n == "script" then script? v
  else if n == "scx" || n == "scriptextensions" then scriptExtension? v
  else if n == "age" then upToAge? v
  else if n == "gcb" || n == "graphemeclusterbreak" then Break.cluster? v
  else if n == "wb" || n == "wordbreak" then Break.word? v
  else if n == "sb" || n == "sentencebreak" then Break.sentence? v
  else none

end Retarget.Unicode
