import FileConduit.Text.CodePoints

/-!
# Blank characters

The characters with the White_Space property of Unicode, and trimming by them.
-/

namespace FileConduit.Text

/-- The code points with the White_Space property. -/
def blanks : CodePoints where
  ranges := [
    (0x9, 0xd), (0x20, 0x20), (0x85, 0x85), (0xa0, 0xa0), (0x1680, 0x1680), (0x2000, 0x200a),
    (0x2028, 0x2029), (0x202f, 0x202f), (0x205f, 0x205f), (0x3000, 0x3000)]

def isBlank (c : Char) : Bool :=
  blanks.contains c

def trim (text : List Char) : List Char :=
  ((text.dropWhile isBlank).reverse.dropWhile isBlank).reverse

end FileConduit.Text
