namespace Recurrence.Text

/-- Whether a character is white space of some script, or one of the four separator controls of the C0 set. -/
def isBlank (c : Char) : Bool :=
  let n := c.toNat
  (9 ≤ n && n ≤ 13) || (28 ≤ n && n ≤ 32) || n == 0x85 || n == 0xa0 || n == 0x1680 ||
    (0x2000 ≤ n && n ≤ 0x200a) || n == 0x2028 || n == 0x2029 || n == 0x202f || n == 0x205f ||
    n == 0x3000

/-- A text without the blanks at its start. -/
def stripLeft (text : List Char) : List Char := text.dropWhile isBlank

/-- A text without the blanks at its end. -/
def stripRight (text : List Char) : List Char := (text.reverse.dropWhile isBlank).reverse

/-- A text without the blanks at its ends. -/
def strip (text : List Char) : List Char := stripRight (stripLeft text)

/-- Whether a text holds nothing but blanks. -/
def allBlank (text : String) : Bool := text.toList.all isBlank

end Recurrence.Text
