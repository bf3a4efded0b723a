/-
# Reckon.Text.Letter — letters, numbers and characters with a picture

Questions about a single character that the tables of `Reckon.Text.Category` answer. ASCII
is decided without the tables, so that a statement about an ASCII character needs none.
-/
import Reckon.Text.Blank
import Reckon.Text.Category

namespace Reckon.Text

/-- The property Alphabetic: letters, letter numbers and the marks and symbols that are
counted with them. -/
def isAlphabetic (c : Char) : Bool :=
  if c.toNat < 128 then isLetter c
  else
    let k := category c
    k.isLetter || k == .nl || inRanges otherAlphabetic c.toNat

/-- A letter or a number of any script. -/
def isAlphanumeric (c : Char) : Bool :=
  if c.toNat < 128 then isLetter c || isDigit c
  else isAlphabetic c || (category c).isNumber

/-- A character that is drawn together with the one before it: a non-spacing or enclosing
mark, or one of the few others that extend a grapheme. -/
def isExtending (c : Char) : Bool :=
  if c.toNat < 128 then false
  else
    let k := category c
    k == .mn || k == .me || inRanges otherExtending c.toNat

/-- A character with a picture of its own; the ordinary space is the one separator that
counts. -/
def isPrintable (c : Char) : Bool :=
  if c.toNat < 128 then 0x20 ≤ c.toNat && c.toNat < 0x7F
  else !(category c).isInvisible

end Reckon.Text
