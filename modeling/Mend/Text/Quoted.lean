import Mend.Text.Class

/-!
# Quoted texts

How a text is shown inside a message: between single quotes, or between double quotes if it holds a
single quote and no double one. A quote of the chosen kind and the backslash get a backslash before
them; the tab, line feed and carriage return get a letter; anything else without a printed form is
written by its number, in two, four or eight digits.
-/

namespace Mend.Text

/-- The escape of a character that may not stand for itself between the quotes `q`. -/
def quoteCode (q c : Code) : Text :=
  if c == q || c == backslash then [backslash, c]
  else if c == 0x09 then [backslash, 0x74]
  else if c == 0x0A then [backslash, 0x6E]
  else if c == 0x0D then [backslash, 0x72]
  else if isPrintable c then [c]
  else if c < 0x100 then backslash :: 0x78 :: hex 2 c
  else if c < 0x10000 then backslash :: 0x75 :: hex 4 c
  else backslash :: 0x55 :: hex 8 c

/-- The quotes that stand around a text. -/
def quoteFor (t : Text) : Code :=
  if t.elem 0x27 && !t.elem 0x22 then 0x22 else 0x27

/-- The text between quotes, with escapes. -/
def quoted (t : Text) : Text :=
  let q := quoteFor t
  q :: (t.flatMap (quoteCode q) ++ [q])

end Mend.Text
