/-
# Reckon.Text.Blank — white space, and cutting it off the ends of a text

A character is *blank* when it has the Unicode property White_Space: twenty-five
characters, of which the ASCII ones are the tab, the line feed, the vertical tab, the
form feed, the carriage return and the space. Formulas may be spaced with any of them,
and every "surrounding white space is dropped" rule of the library means this set.

Texts are handled as `List Char`, the form every scanner of the library reads.
-/

namespace Reckon.Text

/-- White space: the twenty-five characters of the property White_Space. -/
def isBlank (c : Char) : Bool :=
  let n := c.toNat
  (9 ≤ n && n ≤ 13) || n == 0x20 || n == 0x85 || n == 0xA0 || n == 0x1680
    || (0x2000 ≤ n && n ≤ 0x200A) || n == 0x2028 || n == 0x2029 || n == 0x202F
    || n == 0x205F || n == 0x3000

/-- The text without the blanks it starts with. -/
def trimStart (cs : List Char) : List Char :=
  cs.dropWhile isBlank

/-- The text without the blanks it ends with: the blanks of a final blank run go, and a
blank that some other character follows stays. -/
def trimEnd : List Char → List Char
  | [] => []
  | c :: cs =>
    match trimEnd cs with
    | [] => if isBlank c then [] else [c]
    | rest => c :: rest

/-- The text without the blanks at either end. -/
def trim (cs : List Char) : List Char :=
  trimEnd (trimStart cs)

/-- Cutting off the start of a text does not lengthen it. -/
theorem length_dropWhile_le (p : Char → Bool) (cs : List Char) :
    (cs.dropWhile p).length ≤ cs.length :=
  (List.dropWhile_sublist p).length_le

/-! ## Small character classes

These three are ASCII only, whatever the text holds: names, numbers and pattern flags of
a formula are spelled in ASCII. -/

/-- A decimal digit `0` to `9`. -/
def isDigit (c : Char) : Bool :=
  '0' ≤ c && c ≤ '9'

/-- A small letter `a` to `z`, which is what a name starts with. -/
def isSmallLetter (c : Char) : Bool :=
  'a' ≤ c && c ≤ 'z'

/-- An ASCII letter. -/
def isLetter (c : Char) : Bool :=
  isSmallLetter c || ('A' ≤ c && c ≤ 'Z')

/-- A character that a name may go on with: an ASCII letter, a digit or the underscore. -/
def isNameChar (c : Char) : Bool :=
  isLetter c || isDigit c || c == '_'

/-- A name of a variable, a parameter or a function: a small letter, then letters, digits
and underscores. -/
def isName : List Char → Bool
  | [] => false
  | c :: cs => isSmallLetter c && cs.all isNameChar

end Reckon.Text
