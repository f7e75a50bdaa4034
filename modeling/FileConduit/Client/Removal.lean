import FileConduit.Client.Path

/-!
# Removal

A directory is removed after everything in it.  What cannot be removed is collected and does
not stop the rest; the `force` of the caller governs the outermost path only.
-/

namespace FileConduit.Client

open Program

/-- Makes one removal request.  If forced, a refusal is a value and not a failure. -/
def removeOne (path : String) (force : Bool) : Program Bool := do
  let code ← request (.remove path)
  if code.isSuccess then return true
  else if force then return false
  else fail (.reply (.status code))

def removeChildren (removeTree : String → Program (List String)) (directory : String) :
    List String → Program (List String)
  | [] => done (.ok [])
  | name :: names =>
      if RemotePath.isTraversal name then removeChildren removeTree directory names
      else
        let child := RemotePath.join directory name
        let others (left : List String) : Program (List String) := do
          let rest ← removeChildren removeTree directory names
          return left ++ rest
        (isDirectory child).andThen fun result =>
          match result with
          | .error error =>
              if error.isNotFound then others [] else fail error
          | .ok true =>
              (removeTree child).andThen fun result =>
                match result with
                | .ok left => others left
                | .error (.removeFailed left) => others left
                | .error error => fail error
          | .ok false => do
              if ← removeOne child true then others [] else others [child]

def removeEmptied (path : String) (force : Bool) (left : List String) : Program (List String) :=
  (removeOne path force).andThen fun result =>
    match result with
    | .ok true => if left.isEmpty then done (.ok []) else fail (.removeFailed left)
    | .ok false => done (.ok (left ++ [path]))
    | .error error =>
        if left.isEmpty then fail error else fail (.removeFailed (left ++ [path]))

/-- Removes a path and what is below it, down to the given depth. -/
def removeTree : Nat → String → Bool → Program (List String)
  | 0, _, _ => .halted .steps
  | depth + 1, path, force =>
      (stat path).andThen fun result =>
        match result with
        | .error error =>
            if !error.isNotFound then fail error
            else if force then done (.ok [])
            else do
              let _ ← removeOne path false
              return []
        | .ok info =>
            if describesDirectory info then do
              let names ← listDirectory path
              let left ← removeChildren (removeTree depth · true) path names
              removeEmptied path force left
            else do
              if ← removeOne path force then return [] else return [path]

end FileConduit.Client
