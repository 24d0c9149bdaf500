import IssueQuery.Text.Alphabetic
import IssueQuery.Text.Mark
import IssueQuery.Text.Numeric

namespace IssueQuery

/-- Letters and numbers of every script. The ASCII test comes first because it settles nearly all
calls. -/
def isAlphanumeric (c : Char) : Bool :=
  c.isAlphanum || inRanges alphabeticRanges c.toNat || inRanges decimalDigitRanges c.toNat ||
    inRanges otherNumberRanges c.toNat

/-- The connecting punctuation (general category Pc) and the two join controls. -/
def connectorRanges : List (Nat × Nat) :=
  [(0x5F, 0x5F), (0x200C, 0x200D), (0x203F, 0x2040), (0x2054, 0x2054), (0xFE33, 0xFE34), (0xFE4D, 0xFE4F),
   (0xFF3F, 0xFF3F)]

/-- The characters that words consist of: a word boundary lies between one of these and anything
else. -/
def isWordChar (c : Char) : Bool :=
  c.isAlphanum || inRanges alphabeticRanges c.toNat || inRanges markRanges c.toNat ||
    inRanges decimalDigitRanges c.toNat || inRanges connectorRanges c.toNat

end IssueQuery
