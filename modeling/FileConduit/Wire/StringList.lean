import FileConduit.Text.Pieces
import FileConduit.Wire.Word

/-!
# String lists

A list of strings travels as UTF-8 text in which every string ends with a NUL.  Reading checks
the text as a whole, splits it at each NUL and drops the last piece when it is empty, so a
missing terminator at the very end is forgiven.
-/

namespace FileConduit

def utf8 (text : String) : Bytes :=
  text.toByteArray.data.toList

def ofUtf8? (bytes : Bytes) : Option String :=
  String.fromUTF8? ⟨bytes.toArray⟩

namespace StringList

def terminated (text : String) : Bytes :=
  utf8 text ++ [0]

def terminatedLength (text : String) : Nat :=
  text.utf8ByteSize + 1

def encode (strings : List String) : Bytes :=
  strings.flatMap terminated

/-- Removes the last piece when it is empty. -/
def dropOpenEnd (strings : List (List Char)) : List (List Char) :=
  if strings.getLast? = some [] then strings.dropLast else strings

/-- Reads a list of strings; nothing when the bytes are not UTF-8. -/
def decode? (bytes : Bytes) : Option (List String) :=
  (ofUtf8? bytes).map fun text =>
    (dropOpenEnd (Text.pieces '\x00' text.toList)).map String.ofList

end StringList

end FileConduit
