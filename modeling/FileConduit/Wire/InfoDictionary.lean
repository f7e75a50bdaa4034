import FileConduit.Wire.StringList

/-!
# Info dictionaries

A dictionary travels as a string list in which keys and values alternate.  When a key comes
more than once its last value counts.
-/

namespace FileConduit

/-- A finite map from keys to values, each key at most once. -/
structure InfoDictionary where
  pairs : List (String × String)
  deriving DecidableEq, Repr, Inhabited

namespace InfoDictionary

def empty : InfoDictionary :=
  ⟨[]⟩

def isEmpty (info : InfoDictionary) : Bool :=
  info.pairs.isEmpty

def get? (info : InfoDictionary) (key : String) : Option String :=
  info.pairs.lookup key

def insert (info : InfoDictionary) (key value : String) : InfoDictionary :=
  ⟨(key, value) :: info.pairs.filter fun pair => pair.1 ≠ key⟩

def ofPairs (pairs : List (String × String)) : InfoDictionary :=
  pairs.foldl (fun info pair => info.insert pair.1 pair.2) empty

/-- Pairs each string at an even place with its successor; nothing when one is left over. -/
def pairs? : List String → Option (List (String × String))
  | [] => some []
  | [_] => none
  | key :: value :: rest => (pairs? rest).map ((key, value) :: ·)

/-- The strings of a list of pairs, keys and values alternating. -/
def alternate (pairs : List (String × String)) : List String :=
  pairs.flatMap fun (key, value) => [key, value]

def ofStrings? (strings : List String) : Option InfoDictionary :=
  (pairs? strings).map ofPairs

end InfoDictionary

end FileConduit
