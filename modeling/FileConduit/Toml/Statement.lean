import FileConduit.Toml.Number

/-!
# Statements

A document is a run of statements, one a line: a key with its value, the header of a table, or
the header of one of repeated tables.  Keys may have several parts with dots between them.
Arrays and inline tables nest to a fixed depth, and a key has at most as many parts.  Like all of
the TOML reader this is outer layer: no theorem speaks of it.
-/

namespace FileConduit.Toml

open Reader

/-- Number of parts that a key may not reach; arrays and inline tables nest one level less. -/
def depthLimit : Nat := 80

abbrev KeyPath := List String

inductive Statement where
  | assign (path : KeyPath) (value : Value)
  | header (path : KeyPath)
  | repeatedHeader (path : KeyPath)
  deriving Repr

def isBareKey (c : Char) : Bool :=
  c.isAlphanum || c == '-' || c == '_'

def keyPart : Reader String := fun text => do
  let text := skipBlanks text
  let (part, text) ←
    match text with
    | '"' :: _ | '\'' :: _ => shortString text
    | _ =>
        match spanWhile isBareKey text with
        | ([], _) => none
        | (part, rest) => some (part, rest)
  some (String.ofList part, skipBlanks text)

def keyRest : Nat → List Char → List String × List Char
  | fuel + 1, '.' :: text =>
      match keyPart text with
      | some (part, text) =>
          let (parts, text) := keyRest fuel text
          (part :: parts, text)
      | none => ([], '.' :: text)
  | _, text => ([], text)

def keyPath : Reader KeyPath := fun text => do
  let (first, text) ← keyPart text
  let (rest, text) := keyRest text.length text
  let path := first :: rest
  if path.length < depthLimit then some (path, text) else none

/-- Takes the items of an array behind its first, and the closing bracket.  A comma may stand
behind the last item. -/
def arrayRest (item : Reader Value) : Nat → Reader (List Value)
  | 0, _ => none
  | fuel + 1, text =>
      match skipAll text with
      | ']' :: text => some ([], text)
      | ',' :: text =>
          match skipAll text with
          | ']' :: text => some ([], text)
          | text => do
              let (value, text) ← item text
              let (values, text) ← arrayRest item fuel text
              some (value :: values, text)
      | _ => none

def arrayItems (item : Reader Value) : Reader (List Value) := fun text =>
  match skipAll text with
  | ']' :: text => some ([], text)
  | text => do
      let (value, text) ← item text
      let (values, text) ← arrayRest item (text.length + 1) text
      some (value :: values, text)

def assignment (item : Reader Value) : Reader (KeyPath × Value) := fun text => do
  let (path, text) ← keyPath text
  let (_, text) ← literal ['='] text
  let (value, text) ← item (skipBlanks text)
  some ((path, value), skipBlanks text)

/-- Takes the entries of an inline table behind its first, and the closing brace. -/
def inlineRest (item : Reader Value) : Nat → Reader (List (KeyPath × Value))
  | 0, _ => none
  | _ + 1, '\x7d' :: text => some ([], text)
  | fuel + 1, ',' :: text => do
      let (entry, text) ← assignment item text
      let (entries, text) ← inlineRest item fuel text
      some (entry :: entries, text)
  | _ + 1, _ => none

def inlineEntries (item : Reader Value) : Reader (List (KeyPath × Value)) := fun text =>
  match skipBlanks text with
  | '\x7d' :: text => some ([], text)
  | text => do
      let (entry, text) ← assignment item text
      let (entries, text) ← inlineRest item (text.length + 1) text
      some (entry :: entries, text)

/-- Enters assignments one after another into a table. -/
def enterAll (inlined : Bool) (entries : Entries) (assignments : List (KeyPath × Value)) :
    Option Entries :=
  assignments.foldlM (fun entries (path, value) =>
    match path.getLast? with
    | none => none
    | some key => Entries.define inlined path.dropLast key value entries) entries

def value : Nat → Reader Value
  | depth, text =>
      match text with
      | '"' :: _ | '\'' :: _ =>
          (string text).map fun (found, text) => (.string (String.ofList found), text)
      | '[' :: text =>
          match depth with
          | 0 => none
          | depth + 1 => (arrayItems (value depth) text).map fun (items, text) =>
              (.array items, text)
      | '\x7b' :: text =>
          match depth with
          | 0 => none
          | depth + 1 => do
              let (assignments, text) ← inlineEntries (value depth) text
              let entries ← enterAll true [] assignments
              some (.table true .defined entries, text)
      | 't' :: _ => (literal "true".toList text).map fun (_, text) => (.boolean true, text)
      | 'f' :: _ => (literal "false".toList text).map fun (_, text) => (.boolean false, text)
      | _ => number text

def headerPath (close : List Char) : Reader KeyPath := fun text => do
  let (path, text) ← keyPath text
  let (_, text) ← literal close text
  some (path, text)

def statement : Reader Statement := fun text => do
  let (found, text) ←
    match text with
    | '[' :: '[' :: text =>
        (headerPath [']', ']'] text).map fun (path, text) => (.repeatedHeader path, text)
    | '[' :: text => (headerPath [']'] text).map fun (path, text) => (.header path, text)
    | text => (assignment (value (depthLimit - 1)) text).map fun ((path, value), text) =>
        (.assign path value, text)
  let (_, text) ← lineEnd text
  some (found, text)

def statementsFrom : Nat → List Char → Option (List Statement)
  | 0, _ => none
  | fuel + 1, text =>
      match skipAll text with
      | [] => some []
      | '#' :: text =>
          match skipComment ('#' :: text) with
          | [] => some []
          | _ => none
      | text => do
          let (first, text) ← statement text
          let rest ← statementsFrom fuel text
          some (first :: rest)

/-- The statements of a document.  A byte order mark at its start is passed over. -/
def statements (text : List Char) : Option (List Statement) :=
  let text := match text with
    | '\ufeff' :: text => text
    | text => text
  statementsFrom (text.length + 1) text

end FileConduit.Toml
