/-
# Reckon.Pattern.Database.Category — sets of characters by general category

Patterns go by version 16 of the character database, and the table of `Reckon.Text.Category`
is that of version 17. The later version assigned some code points that were unassigned
before, and moved one letter to another category.
-/
import Reckon.Pattern.CharSet
import Reckon.Text.Category

namespace Reckon.Pattern.Database

open CharSet
open Reckon.Text (Category)

/-- The code points that version 17 was the first to assign. -/
def assignedLater : CharSet :=
  ofText ["88F C5C CDC 1ACF-1ADD 1AE0-1AEB 20C1 2B96 A7CE-A7CF A7D2 A7D4 A7F1 FBC3-FBD2",
          "FD90-FD91 FDC8-FDCE 10940-10959 10EC5-10EC7 10ED0-10ED8 10EFA-10EFB 11B60-11B67",
          "11DB0-11DDB 11DE0-11DE9 16EA0-16EB8 16EBB-16ED3 16FF2-16FF6 187F8-187FF 18D09-18D1E",
          "18D80-18DF2 1CCFA-1CCFC 1CEBA-1CED0 1CEE0-1CEF0 1E6C0-1E6DE 1E6E0-1E6F5 1E6FE-1E6FF",
          "1F6D8 1F777-1F77A 1F8D0-1F8D8 1FA54-1FA57 1FA8A 1FA8E 1FAC8 1FACD 1FAEA 1FAEF 1FBFA",
          "2B73A-2B73F 2CEA2-2CEAD 323B0-33479"]

/-- The letter that version 17 moved from the small letters to the letters without case. -/
def movedLater : Char := '\u0295'

/-- The runs of a category table that have one of some categories. Each run ends before the
next one starts. -/
def runsOf (members : List Category) : List (Nat × Category) → List (Nat × Nat)
  | [] => []
  | [(first, category)] => if members.contains category then [(first, lastCode)] else []
  | (first, category) :: (next, other) :: rest =>
    let later := runsOf members ((next, other) :: rest)
    if members.contains category then (first, next - 1) :: later else later

/-- The characters of some general categories. -/
def ofCategories (members : List Category) : CharSet :=
  let kept :=
    (ofRanges (runsOf members Text.categoryTable.toList)).difference
      (assignedLater.union (.single movedLater))
  let kept := if members.contains .cn then kept.union assignedLater else kept
  if members.contains .ll then kept.union (.single movedLater) else kept

/-- The letters. -/
def letters : CharSet := ofCategories [.lu, .ll, .lt, .lm, .lo]

end Reckon.Pattern.Database
