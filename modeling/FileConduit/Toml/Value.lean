/-!
# TOML values

What a TOML document holds.  Of floating point numbers and of points in time only the presence
is kept.  A table remembers how it was written, since that decides what may be added to it.  Like
all of the TOML reader this is outer layer: no theorem speaks of it.
-/

namespace FileConduit.Toml

/-- How a table came to be. -/
inductive TableOrigin where
  /-- Written out: by a header of its own or between braces. -/
  | defined
  /-- Passed through by a header that names something below it. -/
  | implied
  /-- Passed through by a dotted key. -/
  | dotted
  deriving DecidableEq, Repr, Inhabited

inductive Value where
  | string (text : String)
  | integer (number : Int)
  | float
  | boolean (truth : Bool)
  | moment
  | array (items : List Value)
  /-- A table; an inline one is written between braces. -/
  | table (inlined : Bool) (origin : TableOrigin) (entries : List (String × Value))
  /-- Tables that repeated headers add to. -/
  | tables (elements : List Value)
  deriving Repr, Inhabited

abbrev Entries := List (String × Value)

namespace Entries

def get? (entries : Entries) (key : String) : Option Value :=
  List.lookup key entries

def erase (entries : Entries) (key : String) : Entries :=
  entries.filter fun entry => entry.1 ≠ key

def replace (entries : Entries) (key : String) (value : Value) : Entries :=
  entries.map fun entry => if entry.1 = key then (key, value) else entry

def add (entries : Entries) (key : String) (value : Value) : Entries :=
  entries ++ [(key, value)]

/-- Goes down a path and changes the entries that it ends at, making the tables that are not
there.  A dotted path may not enter a table that was written out, and only a path of headers
or dotted keys of a section enters the last of repeated tables. -/
def descend (inlined dotted : Bool) (change : TableOrigin → Entries → Option (Entries × α)) :
    List String → TableOrigin → Entries → Option (Entries × α)
  | [], origin, entries => change origin entries
  | key :: path, _, entries =>
      match get? entries key with
      | none => do
          let origin := if dotted then .dotted else .implied
          let (inner, result) ← descend inlined dotted change path origin []
          some (add entries key (.table inlined origin inner), result)
      | some (.table wasInlined origin inner) =>
          if wasInlined ≠ inlined ∨ (dotted ∧ origin = .defined) then none
          else do
            let (inner, result) ← descend inlined dotted change path origin inner
            some (replace entries key (.table inlined origin inner), result)
      | some (.tables elements) =>
          match elements.reverse with
          | .table wasInlined origin inner :: before => do
              let (inner, result) ← descend inlined dotted change path origin inner
              let last := Value.table wasInlined origin inner
              some (replace entries key (.tables (last :: before).reverse), result)
          | _ => none
      | some _ => none

def define (inlined : Bool) (path : List String) (key : String) (value : Value)
    (entries : Entries) : Option Entries :=
  let enter (origin : TableOrigin) (entries : Entries) : Option (Entries × Unit) :=
    if (origin = .dotted) = path.isEmpty then none
    else
      match get? entries key with
      | some _ => none
      | none => some (add entries key value, ())
  (descend inlined true enter path .defined entries).map Prod.fst

end Entries

end FileConduit.Toml
