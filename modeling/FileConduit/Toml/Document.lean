import FileConduit.Toml.Statement

/-!
# Documents

Statements are put together into one table.  A section is a header with the assignments that
follow it; the assignments before the first header belong to the root.  A table is written out
at most once: a header may name one that was only passed through before, which then takes its
place behind all that came before it.

This and the other modules on TOML belong to the outer layer.  They stand for a TOML library, whose
grammar and checks they follow; the client does not use them, and no theorem speaks of them.
-/

namespace FileConduit.Toml

structure Section where
  repeated : Bool
  path : KeyPath
  assignments : List (KeyPath × Value)

/-- Groups statements by header; the assignments in front belong to none. -/
def sections : List Statement → List (KeyPath × Value) × List Section
  | [] => ([], [])
  | .assign path value :: rest =>
      let (assignments, later) := sections rest
      ((path, value) :: assignments, later)
  | .header path :: rest =>
      let (assignments, later) := sections rest
      ([], ⟨false, path, assignments⟩ :: later)
  | .repeatedHeader path :: rest =>
      let (assignments, later) := sections rest
      ([], ⟨true, path, assignments⟩ :: later)

namespace Entries

/-- Goes to the table that holds the last part of a header's path. -/
def atHolder (path : KeyPath) (change : String → Entries → Option (Entries × α))
    (root : Entries) : Option (Entries × α) :=
  match path.getLast? with
  | none => none
  | some key =>
      descend false false (fun _ entries => change key entries) path.dropLast .defined root

/-- Makes room for a table: takes out what headers below it have made of it so far. -/
def vacate (key : String) (entries : Entries) : Option (Entries × Entries) :=
  match get? entries key with
  | none => some (entries, [])
  | some (.table false .implied inner) => some (erase entries key, inner)
  | some _ => none

/-- Makes sure that repeated tables may stand under a key. -/
def reserve (key : String) (entries : Entries) : Option (Entries × Unit) :=
  match get? entries key with
  | none => some (add entries key (.tables []), ())
  | some (.tables _) => some (entries, ())
  | some _ => none

def push (inner : Entries) (key : String) (entries : Entries) : Option (Entries × Unit) :=
  match get? entries key with
  | some (.tables elements) =>
      some (replace entries key (.tables (elements ++ [.table false .defined inner])), ())
  | _ => none

def addSection (root : Entries) (part : Section) : Option Entries :=
  if part.repeated then do
    let (root, _) ← atHolder part.path reserve root
    let inner ← enterAll false [] part.assignments
    (atHolder part.path (push inner) root).map Prod.fst
  else do
    let (root, before) ← atHolder part.path vacate root
    let inner ← enterAll false before part.assignments
    let place (key : String) (entries : Entries) : Option (Entries × Unit) :=
      some (add entries key (.table false .defined inner), ())
    (atHolder part.path place root).map Prod.fst

end Entries

def parse? (text : String) : Option Entries := do
  let found ← statements text.toList
  let (assignments, parts) := sections found
  let root ← enterAll false [] assignments
  parts.foldlM Entries.addSection root

end FileConduit.Toml
