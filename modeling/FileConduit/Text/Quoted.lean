import FileConduit.Text.Printable

/-!
# Quoted text

Text inside a message is put between double quotes.  The quote and the backslash are escaped
by a backslash; tab, carriage return, line feed and NUL have a letter each; every other
character without a printed form of its own is written as its code point in hexadecimal.
-/

namespace FileConduit.Text

def hexEscape (c : Char) : List Char :=
  "\\u\x7b".toList ++ Nat.toDigits 16 c.toNat ++ ['\x7d']

def quoteChar (c : Char) : List Char :=
  if c = '"' then ['\\', '"']
  else if c = '\\' then ['\\', '\\']
  else if c = '\t' then ['\\', 't']
  else if c = '\r' then ['\\', 'r']
  else if c = '\n' then ['\\', 'n']
  else if c = '\x00' then ['\\', '0']
  else if isPrintable c then [c]
  else hexEscape c

/-- Text between double quotes, with everything escaped that has no printed form. -/
def quote (text : String) : String :=
  String.ofList ('"' :: text.toList.flatMap quoteChar ++ ['"'])

end FileConduit.Text
