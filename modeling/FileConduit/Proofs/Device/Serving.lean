import FileConduit.Proofs.Device.Tree
import FileConduit.Proofs.Program.Play

/-!
# A device that serves files

The device holds a tree that does not change, with symbolic links among its leaves, and says
what its paths name and what its directories hold.  Whatever else it is asked it answers as it
likes.  `Node.locate` is the usual reading of paths: empty parts and `.` lead nowhere, `..` leads
upwards, and a link is followed unless the path ends in it.
-/

namespace FileConduit

structure FileServer (σ : Type) where
  root : Node
  valid : root.Valid
  locate : String → Option Place
  /-- What it lists of a directory with the given entries. -/
  listing : List String → List String
  /-- What it answers when a path names nothing that it could describe or list. -/
  absent : String → ReplyError
  /-- What it answers to every other request. -/
  other : σ → (request : Request) → Except ReplyError request.Answer × σ

namespace FileServer

variable {σ : Type}

def node? (server : FileServer σ) (path : String) : Option Node :=
  (server.locate path).bind server.root.find?

def responder (server : FileServer σ) : Responder σ where
  respond state
    | .fileInfo path =>
        match server.node? path with
        | some node => (.ok node.about.fields, state)
        | none => (.error (server.absent path), state)
    | .readDirectory path =>
        match server.node? path with
        | some (.directory _ _ entries) => (.ok (server.listing entries.names), state)
        | _ => (.error (server.absent path), state)
    | request => server.other state request

def directory? (server : FileServer σ) (path : String) : Option Entries :=
  match server.node? path with
  | some (.directory _ _ entries) => some entries
  | _ => none

theorem directory?_eq {server : FileServer σ} {path : String} {entries : Entries}
    (hdirectory : server.directory? path = some entries) :
    ∃ about kind, server.node? path = some (.directory about kind entries) := by
  unfold directory? at hdirectory
  split at hdirectory
  · rename_i about kind found hnode
    cases hdirectory
    exact ⟨about, kind, hnode⟩
  · cases hdirectory

end FileServer

/-! ## The usual reading of paths -/

def Node.link? (node : Node) : Option String :=
  if node.about.info.isSymlink then node.about.info.linkTarget else none

def pathParts (path : String) : List String :=
  (Text.pieces '/' path.toList).map String.ofList

namespace Node

/-- Follows the parts of a path from a place.  A link with something behind it is left to
`jump`, which is given the place from which its target is followed and what is to follow. -/
def walk (root : Node) (jump : Place → List String → Option Place) :
    Place → List String → Option Place
  | place, [] => some place
  | place, part :: rest =>
      match root.find? place with
      | some (.directory _ _ entries) =>
          if part = "" ∨ part = "." then walk root jump place rest
          else if part = ".." then walk root jump place.dropLast rest
          else
            match entries.child? part with
            | none => none
            | some child =>
                match child.link?, rest with
                | some target, _ :: _ =>
                    jump (if target.toList.head? = some '/' then [] else place)
                      (pathParts target ++ rest)
                | _, _ => walk root jump (place ++ [part]) rest
      | _ => none

def follow (root : Node) : Nat → Place → List String → Option Place
  | 0 => root.walk fun _ _ => none
  | links + 1 => root.walk (follow root links)

/-- The place that a path names, if following it passes at most forty links. -/
def locate (root : Node) (path : String) : Option Place :=
  if path = "" then none else root.follow 40 [] (pathParts path)

end Node

end FileConduit
