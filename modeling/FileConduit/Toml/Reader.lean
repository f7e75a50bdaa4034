/-!
# Reading text from the front

A reader takes something off the front of a text and gives what is left, or nothing when the
text does not start that way.  Like all of the TOML reader this is outer layer: no theorem speaks of
it.
-/

namespace FileConduit.Toml

/-- Takes a value off the front of a text. -/
abbrev Reader (α : Type) := List Char → Option (α × List Char)

namespace Reader

def literal (wanted : List Char) : Reader Unit := fun text =>
  if wanted.isPrefixOf text then some ((), text.drop wanted.length) else none

def char (test : Char → Bool) : Reader Char
  | c :: text => if test c then some (c, text) else none
  | [] => none

def spanWhile (test : Char → Bool) : List Char → List Char × List Char := fun text =>
  (text.takeWhile test, text.dropWhile test)

def orElse (first second : Reader α) : Reader α := fun text =>
  match first text with
  | some taken => some taken
  | none => second text

/-- A character that is neither a control character nor, except for the tab, below a space. -/
def isText (c : Char) : Bool :=
  c == '\t' || (0x20 ≤ c.toNat && c != '\x7f')

def isBlank (c : Char) : Bool :=
  c == ' ' || c == '\t'

def skipBlanks (text : List Char) : List Char :=
  text.dropWhile isBlank

def newline : Reader Unit
  | '\n' :: text => some ((), text)
  | '\r' :: '\n' :: text => some ((), text)
  | _ => none

def skipComment : List Char → List Char
  | '#' :: text => text.dropWhile isText
  | text => text

/-- Takes what may stand behind a statement: blanks, a comment, and the end of the line or of
the document. -/
def lineEnd : Reader Unit := fun text =>
  match skipComment (skipBlanks text) with
  | [] => some ((), [])
  | rest => newline rest

/-- Skips blanks, line ends and comments.  A comment counts only if its line ends. -/
def skipLines : Nat → List Char → List Char
  | 0, text => text
  | fuel + 1, text =>
      let text := skipBlanks text
      match newline (skipComment text) with
      | some ((), rest) => skipLines fuel rest
      | none => text

def skipAll (text : List Char) : List Char :=
  skipLines (text.length + 1) text

end Reader

end FileConduit.Toml
