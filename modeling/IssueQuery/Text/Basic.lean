import IssueQuery.Text.Ranges

namespace IssueQuery

/-- Text is a list of characters, and a position in it counts the characters before it. -/
abbrev Text := List Char

/-- The code points with the Unicode property White_Space. -/
def blankRanges : List (Nat × Nat) :=
  [(0x9, 0xD), (0x20, 0x20), (0x85, 0x85), (0xA0, 0xA0), (0x1680, 0x1680), (0x2000, 0x200A),
   (0x2028, 0x2029), (0x202F, 0x202F), (0x205F, 0x205F), (0x3000, 0x3000)]

def isBlank (c : Char) : Bool := inRanges blankRanges c.toNat

/-- Letters, digits and underscore of ASCII: the characters of an identifier. -/
def isIdentChar (c : Char) : Bool := c == '_' || c.isAlphanum

namespace Text

def trimStart (t : Text) : Text := t.dropWhile isBlank

def trimEnd (t : Text) : Text := (t.reverse.dropWhile isBlank).reverse

def trim (t : Text) : Text := trimEnd (trimStart t)

/-- Equality of texts up to the case of ASCII letters. -/
def sameLetters (s t : Text) : Bool := s.map Char.toLower == t.map Char.toLower

/-- Order by code point, a proper beginning coming first. -/
def compare : Text → Text → Ordering
  | [], [] => .eq
  | [], _ :: _ => .lt
  | _ :: _, [] => .gt
  | a :: s, b :: t => (Ord.compare a.toNat b.toNat).then (compare s t)

def join (separator : Text) (parts : List Text) : Text := separator.intercalate parts

def ofNat (n : Nat) : Text := Nat.toDigits 10 n

def ofInt (n : Int) : Text := if n < 0 then '-' :: ofNat n.natAbs else ofNat n.natAbs

/-- A double quote opens or closes a quoted stretch; no other character does. -/
def quoteStep (quoted : Bool) (c : Char) : Bool := if c = '"' then !quoted else quoted

/-- Whether the text after `t` is quoted, given whether `t` itself starts quoted. -/
def quotedAfter (quoted : Bool) (t : Text) : Bool := t.foldl quoteStep quoted

/-- Puts a character in front of the first part. -/
def consHead (c : Char) : List Text → List Text
  | [] => [[c]]
  | t :: ts => (c :: t) :: ts

end Text

end IssueQuery
