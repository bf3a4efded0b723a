/-
# Reckon.Pattern.Named — the named classes of characters

Patterns can name classes of characters in three ways: by the ASCII classes of bracket
expressions (`[:alpha:]`), by one-letter escapes (`\d`), and by properties of the character
database. Such a property is named on its own (`\p{Lu}`, `\p{Greek}`, `\p{Dash}`) or with a
value (`\p{Script=Greek}`).

Names of properties are compared without regard to case, spaces, hyphens, underscores and
characters beyond ASCII, and an `is` at the very start does not count.
-/
import Reckon.Pattern.Database.Age
import Reckon.Pattern.Database.Break

namespace Reckon.Pattern

open CharSet
open Reckon.Text (Category)

/-! ## Classes of brackets and escapes -/

/-- The ASCII classes of bracket expressions. -/
def asciiClasses : List (String × CharSet) :=
  [("alnum", ofText ["30-39 41-5A 61-7A"]),
    ("alpha", ofText ["41-5A 61-7A"]),
    ("ascii", ofText ["0-7F"]),
    ("blank", ofText ["9 20"]),
    ("cntrl", ofText ["0-1F 7F"]),
    ("digit", ofText ["30-39"]),
    ("graph", ofText ["21-7E"]),
    ("lower", ofText ["61-7A"]),
    ("print", ofText ["20-7E"]),
    ("punct", ofText ["21-2F 3A-40 5B-60 7B-7E"]),
    ("space", ofText ["9-D 20"]),
    ("upper", ofText ["41-5A"]),
    ("word", ofText ["30-39 41-5A 5F 61-7A"]),
    ("xdigit", ofText ["30-39 41-46 61-66"])]

/-- The class of a one-letter escape, in any script or in ASCII. -/
def escapeClass (unicode : Bool) : Char → CharSet
  | 'd' => if unicode then Database.digits else ofText ["30-39"]
  | 's' => if unicode then Database.whiteSpace else ofText ["9-D 20"]
  | _ => if unicode then Database.wordChars else ofText ["30-39 41-5A 5F 61-7A"]

/-! ## Names of properties -/

/-- The general categories and groups of them. The surrogates have none of their own, since
no character is one; among the others they only join what lies to both sides of them. -/
def categoryNames : List (List String × List Category) :=
  [(["L", "Letter"], [.lu, .ll, .lt, .lm, .lo]),
    (["LC", "Cased_Letter"], [.lu, .ll, .lt]),
    (["Lu", "Uppercase_Letter"], [.lu]), (["Ll", "Lowercase_Letter"], [.ll]),
    (["Lt", "Titlecase_Letter"], [.lt]), (["Lm", "Modifier_Letter"], [.lm]),
    (["Lo", "Other_Letter"], [.lo]),
    (["M", "Mark", "Combining_Mark"], [.mn, .mc, .me]),
    (["Mn", "Nonspacing_Mark"], [.mn]), (["Mc", "Spacing_Mark"], [.mc]),
    (["Me", "Enclosing_Mark"], [.me]),
    (["N", "Number"], [.nd, .nl, .no]),
    (["Nd", "Decimal_Number", "digit"], [.nd]), (["Nl", "Letter_Number"], [.nl]),
    (["No", "Other_Number"], [.no]),
    (["P", "Punctuation", "punct"], [.pc, .pd, .ps, .pe, .pi, .pf, .po]),
    (["Pc", "Connector_Punctuation"], [.pc]), (["Pd", "Dash_Punctuation"], [.pd]),
    (["Ps", "Open_Punctuation"], [.ps]), (["Pe", "Close_Punctuation"], [.pe]),
    (["Pi", "Initial_Punctuation"], [.pi]), (["Pf", "Final_Punctuation"], [.pf]),
    (["Po", "Other_Punctuation"], [.po]),
    (["S", "Symbol"], [.sm, .sc, .sk, .so]),
    (["Sm", "Math_Symbol"], [.sm]), (["Sc", "Currency_Symbol"], [.sc]),
    (["Sk", "Modifier_Symbol"], [.sk]), (["So", "Other_Symbol"], [.so]),
    (["Z", "Separator"], [.zs, .zl, .zp]),
    (["Zs", "Space_Separator"], [.zs]), (["Zl", "Line_Separator"], [.zl]),
    (["Zp", "Paragraph_Separator"], [.zp]),
    (["C", "Other"], [.cc, .cf, .cs, .co, .cn]),
    (["Cc", "Control", "cntrl"], [.cc]), (["Cf", "Format"], [.cf]),
    (["Co", "Private_Use"], [.co]), (["Cn", "Unassigned"], [.cn])]

/-- A name in the form that comparison uses. The name `isc` is that of a property without a
class, and stays apart from `c`. -/
def looseName (name : List Char) : String :=
  let loose (cs : List Char) : List Char :=
    (cs.filter fun c => c.toNat < 0x80 && c != ' ' && c != '-' && c != '_').map Char.toLower
  match name with
  | a :: b :: rest =>
    if a.toLower == 'i' && b.toLower == 's' then
      if loose rest == ['c'] then "isc" else String.ofList (loose rest)
    else String.ofList (loose name)
  | _ => String.ofList (loose name)

/-- The entry of a table under one of whose names a name in loose form is. -/
def entryNamed? {α : Type} (table : List (List String × α)) (name : String) :
    Option (List String × α) :=
  table.find? fun (names, _) => names.any fun n => looseName n.toList == name

/-- The class of a general category. -/
def categoryClass? (name : String) : Option CharSet :=
  match name with
  | "any" => some all
  | "ascii" => some (range 0 0x7F)
  | "assigned" => some (Database.ofCategories [.cn]).complement
  | name => (entryNamed? categoryNames name).map fun (_, members) =>
    Database.ofCategories members

/-- The class of a script. -/
def scriptClass? (name : String) : Option CharSet :=
  (entryNamed? Database.scripts name).map fun (_, ranges) => ofText ranges

/-- The class of the characters that are used with a script. -/
def scriptExtensionClass? (name : String) : Option CharSet :=
  (entryNamed? Database.scripts name).map fun (names, ranges) =>
    Database.ofScriptExtension ((names.drop 1).headD (names.headD "")) ranges

/-- The class of the characters of a version, which is named `6.1` or `V6_1`. -/
def ageClass? (name : String) : Option CharSet :=
  (Database.versions.find? fun (version, _) =>
    name == version || name.toList == 'v' :: version.toList.filter (· != '.')).bind
      fun (version, _) => Database.upToVersion? version

/-- The class of a property that is named on its own: a yes-or-no property, a category or a
script. -/
def propertyClass? (name : List Char) : Option CharSet :=
  let name := looseName name
  ((entryNamed? Database.binaryProperties name).map (·.2)
    <|> categoryClass? name) <|> scriptClass? name

/-- The class of a property that is named with a value. -/
def valueClass? (name value : List Char) : Option CharSet :=
  let value := looseName value
  match looseName name with
  | "gc" | "generalcategory" => categoryClass? value
  | "sc" | "script" => scriptClass? value
  | "scx" | "scriptextensions" => scriptExtensionClass? value
  | "age" => ageClass? value
  | "gcb" | "graphemeclusterbreak" => (entryNamed? Database.graphemeBreaks value).map (·.2)
  | "wb" | "wordbreak" => (entryNamed? Database.wordBreaks value).map (·.2)
  | "sb" | "sentencebreak" => (entryNamed? Database.sentenceBreaks value).map (·.2)
  | _ => none

/-- Splits a text where another one first occurs in it. -/
def splitAtText? (separator : List Char) : List Char → Option (List Char × List Char)
  | [] => none
  | c :: cs =>
    if separator.isPrefixOf (c :: cs) then some ([], (c :: cs).drop separator.length)
    else (splitAtText? separator cs).map fun (before, after) => (c :: before, after)

/-- The class that stands between the braces of `\p{}`. A value may follow its name after
`!=`, `:` or `=`, which all three say the same. -/
def namedClass? (text : List Char) : Option CharSet :=
  match splitAtText? ['!', '='] text <|> splitAtText? [':'] text <|> splitAtText? ['='] text with
  | some (name, value) => valueClass? name value
  | none => propertyClass? text

end Reckon.Pattern
