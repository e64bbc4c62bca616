/-
What patterns take from the tables of the standard.  These grow from version to version, and which of
them are at hand does not matter for how a pattern is read and what it matches: so they are an
argument wherever patterns are read.  `Tables.standard` are those of version 16; of the properties they
have the binary ones, categories and scripts, but neither ages nor those by which texts are broken up.
-/
import Scrollback.Unicode.CaseFold
import Scrollback.Unicode.Property

namespace Scrollback.Unicode

/-- The sets of characters that patterns refer to. -/
structure Tables where
  /-- The characters with a property, by one letter or by what stands in braces. -/
  property? : List Char → Option CharSet
  digits : CharSet
  spaces : CharSet
  words : CharSet
  /-- Add to a set everything that equals a member but for case. -/
  foldCase : CharSet → CharSet
  /-- What names of groups are made of. -/
  letters : CharSet
  numbers : CharSet

namespace Tables

/-- Letters and what counts as such, marks, digits, connectors and joiners. -/
def wordChars : CharSet :=
  CharSet.unions [Binary.alphabetic.set, Category.sets CategoryGroup.marks,
    Category.set .decimalNumber, Category.set .connectorPunctuation, Binary.joinControl.set]

def standard : Tables where
  property? := named?
  digits := Category.set .decimalNumber
  spaces := Binary.whiteSpace.set
  words := wordChars
  foldCase := CharSet.foldCase
  letters := Binary.alphabetic.set
  numbers := Category.sets CategoryGroup.numbers

end Tables

end Scrollback.Unicode
