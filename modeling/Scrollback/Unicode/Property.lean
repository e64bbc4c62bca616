/-
Properties of code points by name.  Names are compared loosely: case, spaces, hyphens, underscores
and a leading `is` do not count.

A plain name is that of a binary property, else of a general category or a group of categories,
else of a script.  `named?` also takes a property and its value, with a mark between them.
-/
import Scrollback.Unicode.Binary
import Scrollback.Unicode.Script

namespace Scrollback.Unicode

/-! ### Loose names -/

/-- What counts of a character in a name, if anything. -/
def looseChar? (c : Char) : Option Char :=
  if c = ' ' || c = '_' || c = '-' || 0x80 ≤ c.toNat then none
  else if 'A' ≤ c && c ≤ 'Z' then some (Char.ofNat (c.toNat + 32))
  else some c

/-- Whether a name begins with `is`, in any case. -/
def beginsWithIs : List Char → Bool
  | a :: b :: _ => (a == 'i' || a == 'I') && (b == 's' || b == 'S')
  | _ => false

/-- What counts of a name.  A lone `c` after `is` keeps it, for that is a name of its own. -/
def looseName (name : List Char) : List Char :=
  if beginsWithIs name then
    let rest := (name.drop 2).filterMap looseChar?
    if rest = ['c'] then ['i', 's', 'c'] else rest
  else name.filterMap looseChar?

/-- A loose name is one of the given names. -/
def isNamed (loose : List Char) (names : List String) : Bool :=
  names.any fun n => looseName n.toList == loose

/-! ### Categories -/

/-- A category or a group of categories, with its names. -/
structure CategoryGroup where
  names : List String
  categories : List Category

namespace CategoryGroup

def letters : List Category :=
  [.uppercaseLetter, .lowercaseLetter, .titlecaseLetter, .modifierLetter, .otherLetter]

def marks : List Category :=
  [.nonspacingMark, .spacingMark, .enclosingMark]

def numbers : List Category :=
  [.decimalNumber, .letterNumber, .otherNumber]

def punctuation : List Category :=
  [.connectorPunctuation, .dashPunctuation, .openPunctuation, .closePunctuation,
    .initialPunctuation, .finalPunctuation, .otherPunctuation]

def symbols : List Category :=
  [.mathSymbol, .currencySymbol, .modifierSymbol, .otherSymbol]

def separators : List Category :=
  [.spaceSeparator, .lineSeparator, .paragraphSeparator]

def others : List Category :=
  [.control, .format, .privateUse, .unassigned]

/-- Every category and every group that has a name. -/
def all : List CategoryGroup :=
  [⟨["L", "Letter"], letters⟩,
    ⟨["LC", "Cased_Letter"], [.uppercaseLetter, .lowercaseLetter, .titlecaseLetter]⟩,
    ⟨["Lu", "Uppercase_Letter"], [.uppercaseLetter]⟩,
    ⟨["Ll", "Lowercase_Letter"], [.lowercaseLetter]⟩,
    ⟨["Lt", "Titlecase_Letter"], [.titlecaseLetter]⟩,
    ⟨["Lm", "Modifier_Letter"], [.modifierLetter]⟩,
    ⟨["Lo", "Other_Letter"], [.otherLetter]⟩,
    ⟨["M", "Mark", "Combining_Mark"], marks⟩,
    ⟨["Mn", "Nonspacing_Mark"], [.nonspacingMark]⟩,
    ⟨["Mc", "Spacing_Mark"], [.spacingMark]⟩,
    ⟨["Me", "Enclosing_Mark"], [.enclosingMark]⟩,
    ⟨["N", "Number"], numbers⟩,
    ⟨["Nd", "Decimal_Number", "digit"], [.decimalNumber]⟩,
    ⟨["Nl", "Letter_Number"], [.letterNumber]⟩,
    ⟨["No", "Other_Number"], [.otherNumber]⟩,
    ⟨["P", "Punctuation", "punct"], punctuation⟩,
    ⟨["Pc", "Connector_Punctuation"], [.connectorPunctuation]⟩,
    ⟨["Pd", "Dash_Punctuation"], [.dashPunctuation]⟩,
    ⟨["Ps", "Open_Punctuation"], [.openPunctuation]⟩,
    ⟨["Pe", "Close_Punctuation"], [.closePunctuation]⟩,
    ⟨["Pi", "Initial_Punctuation"], [.initialPunctuation]⟩,
    ⟨["Pf", "Final_Punctuation"], [.finalPunctuation]⟩,
    ⟨["Po", "Other_Punctuation"], [.otherPunctuation]⟩,
    ⟨["S", "Symbol"], symbols⟩,
    ⟨["Sm", "Math_Symbol"], [.mathSymbol]⟩,
    ⟨["Sc", "Currency_Symbol"], [.currencySymbol]⟩,
    ⟨["Sk", "Modifier_Symbol"], [.modifierSymbol]⟩,
    ⟨["So", "Other_Symbol"], [.otherSymbol]⟩,
    ⟨["Z", "Separator"], separators⟩,
    ⟨["Zs", "Space_Separator"], [.spaceSeparator]⟩,
    ⟨["Zl", "Line_Separator"], [.lineSeparator]⟩,
    ⟨["Zp", "Paragraph_Separator"], [.paragraphSeparator]⟩,
    ⟨["C", "Other"], others⟩,
    ⟨["Cc", "Control", "cntrl"], [.control]⟩,
    ⟨["Cf", "Format"], [.format]⟩,
    ⟨["Co", "Private_Use"], [.privateUse]⟩,
    ⟨["Cn", "Unassigned"], [.unassigned]⟩]

end CategoryGroup

/-- The code points of the categories with a loose name. -/
def categorySet? (loose : List Char) : Option CharSet :=
  if isNamed loose ["Any"] then some CharSet.full
  else if isNamed loose ["Assigned"] then some (Category.set .unassigned).complement
  else if isNamed loose ["ASCII"] then some (CharSet.range 0 0x7F)
  else
    (CategoryGroup.all.find? fun g => isNamed loose g.names).map fun g => Category.sets g.categories

/-! ### Scripts and binary properties -/

/-- The script with a loose name. -/
def script? (loose : List Char) : Option Script :=
  Script.all.find? fun s => isNamed loose (s.name :: s.aliases)

/-- The code points of the binary property with a loose name. -/
def binarySet? (loose : List Char) : Option CharSet :=
  (Binary.all.find? fun p => isNamed loose (p.name :: p.aliases)).map Binary.set

/-- Short names of categories that other properties have as well. -/
def categoryFirst : List String := ["cf", "sc", "lc"]

/-- The code points of the property with a given name. -/
def property? (name : List Char) : Option CharSet :=
  let loose := looseName name
  let binary := if categoryFirst.any fun n => n.toList == loose then none else binarySet? loose
  binary <|> categorySet? loose <|> (script? loose).map Script.set

/-- The code points for which a property has a given value. -/
def propertyValue? (property value : List Char) : Option CharSet :=
  let loose := looseName property
  let value := looseName value
  if isNamed loose ["gc", "General_Category"] then categorySet? value
  else if isNamed loose ["sc", "Script"] then (script? value).map Script.set
  else if isNamed loose ["scx", "Script_Extensions"] then (script? value).map Script.extendedSet
  else none

/-- The text before the first occurrence of a mark, and the text after it. -/
def cutAt (mark : List Char) : List Char → Option (List Char × List Char)
  | [] => none
  | c :: rest =>
    if mark.isPrefixOf (c :: rest) then some ([], (c :: rest).drop mark.length)
    else (cutAt mark rest).map fun (front, back) => (c :: front, back)

/-- The code points of a property, by its name or with a value. -/
def named? (name : List Char) : Option CharSet :=
  match cutAt ['!', '='] name <|> cutAt [':'] name <|> cutAt ['='] name with
  | some (property, value) => propertyValue? property value
  | none => property? name

end Scrollback.Unicode
