import Questionnaire.Pattern
import Questionnaire.Text.Script

/-!
# Named sets of characters

The sets that a pattern can call by name: general categories, scripts and binary properties, the short classes for
digits, blanks and word characters, and the classes of a bracket between colons. Case, blanks, hyphens and
underscores in a name do not matter.
-/

namespace Questionnaire.Pattern

open Text

/-- A name without what does not matter in it; a leading `is` does not matter either. -/
def looseName (s : String) : String :=
  let cs := (s.toList.filter fun c => c != ' ' && c != '_' && c != '-' && c.toNat < 0x80).map Char.toLower
  match cs with
  | 'i' :: 's' :: rest => if rest = ['c'] then "isc" else String.ofList rest
  | _ => String.ofList cs

/-- Groups of categories, by short and long name. -/
def categoryGroups : List (List String × List Category) :=
  [(["l", "letter"], [.uppercaseLetter, .lowercaseLetter, .titlecaseLetter, .modifierLetter, .otherLetter]),
   (["lc", "casedletter"], [.uppercaseLetter, .lowercaseLetter, .titlecaseLetter]),
   (["m", "mark", "combiningmark"], [.nonspacingMark, .spacingMark, .enclosingMark]),
   (["n", "number"], [.decimalNumber, .letterNumber, .otherNumber]),
   (["p", "punctuation", "punct"],
    [.connectorPunctuation, .dashPunctuation, .openPunctuation, .closePunctuation, .initialPunctuation,
     .finalPunctuation, .otherPunctuation]),
   (["s", "symbol"], [.mathSymbol, .currencySymbol, .modifierSymbol, .otherSymbol]),
   (["z", "separator"], [.spaceSeparator, .lineSeparator, .paragraphSeparator]),
   (["c", "other"], [.control, .format, .unassigned, .privateUse])]

/-- Other names of single categories. -/
def categoryAliases : List (String × Category) := [("digit", .decimalNumber), ("cntrl", .control)]

/-- The characters of a general category or of a group of them. -/
def categoryNamed? (name : String) : Option Ranges :=
  if name = "any" then some Ranges.all
  else if name = "ascii" then some ⟨[(0, 0x7F)]⟩
  else if name = "assigned" then some (Category.ranges .unassigned).complement
  else
    match categoryGroups.find? fun g => g.1.contains name with
    | some g => some (Ranges.unionAll (g.2.map Category.ranges))
    | none =>
      match (Category.assigned ++ [Category.unassigned]).find? fun c : Category =>
        looseName c.shortName == name || looseName c.longName == name with
      | some c => some c.ranges
      | none => (categoryAliases.find? fun a => a.1 == name).map fun a => a.2.ranges

/-- Short names of binary properties. -/
def propertyAliases : List (String × String) :=
  [("ahex", "ASCII_Hex_Digit"), ("alpha", "Alphabetic"), ("bidic", "Bidi_Control"), ("bidim", "Bidi_Mirrored"),
   ("ci", "Case_Ignorable"), ("cwcf", "Changes_When_Casefolded"), ("cwcm", "Changes_When_Casemapped"),
   ("cwl", "Changes_When_Lowercased"), ("cwt", "Changes_When_Titlecased"), ("cwu", "Changes_When_Uppercased"),
   ("di", "Default_Ignorable_Code_Point"), ("dep", "Deprecated"), ("dia", "Diacritic"),
   ("ecomp", "Emoji_Component"), ("emod", "Emoji_Modifier"), ("ebase", "Emoji_Modifier_Base"),
   ("epres", "Emoji_Presentation"), ("extpict", "Extended_Pictographic"), ("ext", "Extender"),
   ("grbase", "Grapheme_Base"), ("grext", "Grapheme_Extend"), ("hex", "Hex_Digit"),
   ("idsb", "IDS_Binary_Operator"), ("idst", "IDS_Trinary_Operator"), ("idc", "ID_Continue"), ("ids", "ID_Start"),
   ("ideo", "Ideographic"), ("joinc", "Join_Control"), ("loe", "Logical_Order_Exception"), ("lower", "Lowercase"),
   ("nchar", "Noncharacter_Code_Point"), ("patsyn", "Pattern_Syntax"), ("patws", "Pattern_White_Space"),
   ("qmark", "Quotation_Mark"), ("ri", "Regional_Indicator"), ("sterm", "Sentence_Terminal"),
   ("sd", "Soft_Dotted"), ("term", "Terminal_Punctuation"), ("uideo", "Unified_Ideograph"), ("upper", "Uppercase"),
   ("vs", "Variation_Selector"), ("wspace", "White_Space"), ("space", "White_Space"), ("xidc", "XID_Continue"),
   ("xids", "XID_Start")]

/-- The characters with a binary property. -/
def propertyNamed? (name : String) : Option Ranges :=
  match propertyAliases.find? fun a => a.1 == name with
  | some a => Property.ranges? a.2
  | none => (Property.table.find? fun p => looseName p.1 == name).map fun p => Ranges.decode p.2

def scriptRow? (name : String) : Option (String × String × List String) :=
  Script.table.find? fun s => looseName s.1 == name || looseName s.2.1 == name

/-- The characters of a script. -/
def scriptNamed? (name : String) : Option Ranges := (scriptRow? name).map fun s => Ranges.decode s.2.2

/-- The characters that a script is used with. -/
def scriptExtensionNamed? (name : String) : Option Ranges :=
  (scriptRow? name).map fun s =>
    match Script.extensionTable.find? fun e => e.1 == s.2.1 with
    | some e => Ranges.decode e.2
    | none => Ranges.decode s.2.2

/-- The set of a name that stands alone. A few short names mean a category before they mean a property. -/
def classNamed? (s : String) : Option Ranges :=
  let name := looseName s
  let property := if name = "cf" ∨ name = "sc" ∨ name = "lc" then none else propertyNamed? name
  property <|> categoryNamed? name <|> scriptNamed? name

/-- The set of a property with a value. -/
def classValued? (property value : String) : Option Ranges :=
  let value := looseName value
  match looseName property with
  | "gc" | "generalcategory" => categoryNamed? value
  | "sc" | "script" => scriptNamed? value
  | "scx" | "scriptextensions" => scriptExtensionNamed? value
  | _ => none

def digits (unicode : Bool) : Ranges :=
  if unicode then Category.ranges .decimalNumber else ⟨[(0x30, 0x39)]⟩

def blanks (unicode : Bool) : Ranges :=
  if unicode then Property.ranges "White_Space" else ⟨[(0x09, 0x0D), (0x20, 0x20)]⟩

def words (unicode : Bool) : Ranges := if unicode then Anchor.wordChars else Anchor.asciiWordChars

/-- The classes that stand in a bracket between colons. -/
def bracketClass? (name : String) : Option Ranges :=
  match name with
  | "alnum" => some ⟨[(0x30, 0x39), (0x41, 0x5A), (0x61, 0x7A)]⟩
  | "alpha" => some ⟨[(0x41, 0x5A), (0x61, 0x7A)]⟩
  | "ascii" => some ⟨[(0, 0x7F)]⟩
  | "blank" => some ⟨[(0x09, 0x09), (0x20, 0x20)]⟩
  | "cntrl" => some ⟨[(0, 0x1F), (0x7F, 0x7F)]⟩
  | "digit" => some ⟨[(0x30, 0x39)]⟩
  | "graph" => some ⟨[(0x21, 0x7E)]⟩
  | "lower" => some ⟨[(0x61, 0x7A)]⟩
  | "print" => some ⟨[(0x20, 0x7E)]⟩
  | "punct" => some ⟨[(0x21, 0x2F), (0x3A, 0x40), (0x5B, 0x60), (0x7B, 0x7E)]⟩
  | "space" => some ⟨[(0x09, 0x0D), (0x20, 0x20)]⟩
  | "upper" => some ⟨[(0x41, 0x5A)]⟩
  | "word" => some Anchor.asciiWordChars
  | "xdigit" => some ⟨[(0x30, 0x39), (0x41, 0x46), (0x61, 0x66)]⟩
  | _ => none

end Questionnaire.Pattern
