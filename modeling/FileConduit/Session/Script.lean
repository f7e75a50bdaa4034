import FileConduit.Session.Device
import FileConduit.Wire.StringList

/-!
# Scripted devices

A device that answers the n-th request by the n-th entry of a script, whatever the request is.
-/

namespace FileConduit

structure ScriptEntry where
  cancels : Bool
  arrivals : List Arrival
  deriving DecidableEq, Repr, Inhabited

structure Script where
  entries : List ScriptEntry
  /-- Number of requests taken so far. -/
  taken : Nat := 0
  /-- Writing fails once so many requests have been taken. -/
  failsAfter : Option Nat := none
  /-- Writing takes no bytes once so many requests have been taken. -/
  stallsAfter : Option Nat := none
  /-- Whether the stream stays open when the script has run out. -/
  staysOpen : Bool := false
  deriving DecidableEq, Repr, Inhabited

namespace Script

def failure (kind : FaultKind) : ChannelFault :=
  ⟨kind, "scripted failure"⟩

def reached (limit : Option Nat) (taken : Nat) : Bool :=
  match limit with
  | none => false
  | some limit => limit ≤ taken

def react (script : Script) (_ : Request) : Reaction × Script :=
  if reached script.failsAfter script.taken then (.refused (failure .brokenPipe), script)
  else if reached script.stallsAfter script.taken then (.refused .nothingWritten, script)
  else
    match script.entries with
    | [] =>
        (.taken false (if script.staysOpen then [] else [.closed]),
          { script with taken := script.taken + 1 })
    | entry :: entries =>
        (.taken entry.cancels entry.arrivals,
          { script with entries, taken := script.taken + 1 })

def device : Device Script :=
  ⟨react⟩

def reply (operation : Operation) (payload : Bytes) : Bytes :=
  (Frame.single operation payload 0).encode

def wordReply (operation : Operation) (word : UInt64) : Bytes :=
  reply operation (Word.littleEndian word)

def strings (strings : List String) : ScriptEntry :=
  ⟨false, [.bytes (reply .data (StringList.encode strings))]⟩

def code (number : UInt64) : ScriptEntry :=
  ⟨false, [.bytes (wordReply .status number)]⟩

def kind (name : String) : ScriptEntry :=
  strings ["st_ifmt", name]

def handle (number : UInt64) : ScriptEntry :=
  ⟨false, [.bytes (wordReply .fileOpenResult number)]⟩

def data (data : Bytes) : ScriptEntry :=
  ⟨false, [.bytes (reply .data data)]⟩

def sized (size : String) : ScriptEntry :=
  strings ["st_ifmt", "S_IFREG", "st_size", size]

end Script

end FileConduit
