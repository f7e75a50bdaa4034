import FileConduit.Toml.Reader

/-!
# Quoted strings

A string stands between double quotes, where a backslash escapes, or between single quotes,
where it does not; three quotes open a string that may run over several lines.  Like all of the
TOML reader this is outer layer: no theorem speaks of it.
-/

namespace FileConduit.Toml

open Reader

def hexValue? (c : Char) : Option Nat :=
  if c.isDigit then some (c.toNat - '0'.toNat)
  else if 'a' ≤ c ∧ c ≤ 'f' then some (c.toNat - 'a'.toNat + 10)
  else if 'A' ≤ c ∧ c ≤ 'F' then some (c.toNat - 'A'.toNat + 10)
  else none

def hexNumber? (digits : List Char) : Option Nat :=
  digits.foldlM (fun number c => (hexValue? c).map (16 * number + ·)) 0

def hexCharacter (count : Nat) : Reader Char := fun text =>
  if text.length < count then none
  else
    match hexNumber? (text.take count) with
    | none => none
    | some code =>
        if code.isValidChar then some (Char.ofNat code, text.drop count) else none

def escaped : Reader Char
  | 'b' :: text => some ('\x08', text)
  | 't' :: text => some ('\t', text)
  | 'n' :: text => some ('\n', text)
  | 'f' :: text => some ('\x0c', text)
  | 'r' :: text => some ('\r', text)
  | '"' :: text => some ('"', text)
  | '\\' :: text => some ('\\', text)
  | 'u' :: text => hexCharacter 4 text
  | 'U' :: text => hexCharacter 8 text
  | _ => none

def basicBody : Nat → Reader (List Char)
  | 0, _ => none
  | _ + 1, '"' :: text => some ([], text)
  | fuel + 1, '\\' :: text => do
      let (c, text) ← escaped text
      let (body, text) ← basicBody fuel text
      some (c :: body, text)
  | fuel + 1, c :: text =>
      if isText c then do
        let (body, text) ← basicBody fuel text
        some (c :: body, text)
      else none
  | _ + 1, [] => none

def literalBody : Reader (List Char)
  | '\'' :: text => some ([], text)
  | c :: text =>
      if isText c then do
        let (body, text) ← literalBody text
        some (c :: body, text)
      else none
  | [] => none

def runLength (c : Char) (text : List Char) : Nat :=
  (text.takeWhile (· == c)).length

/-- Skips the blanks behind a backslash, a line end, and all blanks and line ends that follow. -/
def foldedLine? (text : List Char) : Option (List Char) :=
  match newline (skipBlanks text) with
  | none => none
  | some ((), rest) =>
      let rec skip : Nat → List Char → List Char
        | 0, text => text
        | fuel + 1, text =>
            match newline (skipBlanks text) with
            | some ((), rest) => skip fuel rest
            | none => skipBlanks text
      some (skip rest.length rest)

/-- Takes the rest of a string of several lines.  Up to two quotes stand for themselves, also
right before the three that close it. -/
def multilineBody (quoteMark : Char) (escapes : Bool) : Nat → Reader (List Char)
  | 0, _ => none
  | fuel + 1, text =>
      let quotes := runLength quoteMark text
      if 3 ≤ quotes then
        let kept := min (quotes - 3) 2
        some (List.replicate kept quoteMark, text.drop (kept + 3))
      else
        match newline text with
        | some ((), rest) => do
            let (body, rest) ← multilineBody quoteMark escapes fuel rest
            some ('\n' :: body, rest)
        | none =>
            match text with
            | [] => none
            | c :: rest =>
                if escapes && c == '\\' then
                  match foldedLine? rest with
                  | some rest => multilineBody quoteMark escapes fuel rest
                  | none => do
                      let (c, rest) ← escaped rest
                      let (body, rest) ← multilineBody quoteMark escapes fuel rest
                      some (c :: body, rest)
                else if isText c then do
                  let (body, rest) ← multilineBody quoteMark escapes fuel rest
                  some (c :: body, rest)
                else none

def skipFirstNewline (text : List Char) : List Char :=
  match newline text with
  | some ((), rest) => rest
  | none => text

def shortString : Reader (List Char)
  | '"' :: text => basicBody (text.length + 1) text
  | '\'' :: text => literalBody text
  | _ => none

def string : Reader (List Char)
  | '"' :: '"' :: '"' :: text =>
      let text := skipFirstNewline text
      multilineBody '"' true (text.length + 1) text
  | '\'' :: '\'' :: '\'' :: text =>
      let text := skipFirstNewline text
      multilineBody '\'' false (text.length + 1) text
  | text => shortString text

end FileConduit.Toml
