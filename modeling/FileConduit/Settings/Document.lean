import FileConduit.Settings
import FileConduit.Toml.Document
import FileConduit.Wire.StringList

/-!
# Settings from a document

A TOML document has a table for the client and one for the log; a field that it leaves out
keeps its default, and a key that is no field is passed over.  A table may also be given as an
array of its fields in order.  Of several faults the first in the document counts.  This is outer
layer: it stands for what a TOML library makes of such a document, the client is given its settings
as a value, and no theorem speaks of how they were written down.
-/

namespace FileConduit

open Toml (Value)

inductive SettingsError where
  /-- There is no such file. -/
  | missing
  /-- The file does not hold text. -/
  | notText
  /-- The text is not TOML, or a value in it does not fit its field. -/
  | malformed
  | unknownLevel (text : String)
  deriving DecidableEq, Repr

namespace SettingsError

def message : SettingsError → String
  | missing => "Failed to open config file"
  | notText => "Failed to read config file"
  | malformed => "Failed to parse TOML"
  | unknownLevel text => "Failed to parse TOML: Invalid log level: " ++ text

end SettingsError

namespace Settings

abbrev Read := Except SettingsError

def readCount : Value → Read UInt64
  | .integer number =>
      if 0 ≤ number then .ok (UInt64.ofNat number.toNat) else .error .malformed
  | _ => .error .malformed

def readTruth : Value → Read Bool
  | .boolean truth => .ok truth
  | _ => .error .malformed

def readText : Value → Read String
  | .string text => .ok text
  | _ => .error .malformed

def readLevel (value : Value) : Read LogLevel := do
  let text ← readText value
  match LogLevel.ofText? text with
  | some level => .ok level
  | none => .error (.unknownLevel text)

def isVacant : Value → Bool
  | .array items => items.isEmpty
  | .tables elements => elements.isEmpty
  | .table _ _ entries => entries.isEmpty
  | _ => false

/-- Reads one of several words.  A word is written as a string, or as the key of a table, with
nothing under it; it must be the only key. -/
def readWord (words : List (String × α)) : Value → Read α
  | .string text => known text
  | .table _ _ [(key, value)] => do
      let word ← known key
      if isVacant value then .ok word else .error .malformed
  | _ => .error .malformed
where
  known (text : String) : Read α :=
    match words.lookup text with
    | some word => .ok word
    | none => .error .malformed

def byteOrders : List (String × ByteOrder) :=
  [("little", .little), ("big", .big)]

def namingStyles : List (String × NamingStyle) :=
  [("native", .native), ("posix", .posix), ("windows", .windows)]

def clientFields : List String :=
  ["write_chunk_size", "max_read_size", "max_frame_length", "response_timeout",
    "tell_byte_order", "host_path_style"]

def setClient (config : ClientConfig) (entry : String × Value) : Read ClientConfig :=
  match entry.1 with
  | "write_chunk_size" => do return { config with writeChunkSize := ← readCount entry.2 }
  | "max_read_size" => do return { config with maxReadSize := ← readCount entry.2 }
  | "max_frame_length" => do return { config with maxFrameLength := ← readCount entry.2 }
  | "response_timeout" => do
      let count ← readCount entry.2
      return { config with responseTimeout := .ofMilliseconds count.toNat }
  | "tell_byte_order" => do return { config with tellByteOrder := ← readWord byteOrders entry.2 }
  | "host_path_style" => do return { config with namingStyle := ← readWord namingStyles entry.2 }
  | _ => .ok config

def loggingFields : List String :=
  ["app_name", "log_level", "json_format"]

def setLogging (config : LoggingConfig) (entry : String × Value) : Read LoggingConfig :=
  match entry.1 with
  | "app_name" => do return { config with appName := ← readText entry.2 }
  | "log_level" => do return { config with level := ← readLevel entry.2 }
  | "json_format" => do return { config with json := ← readTruth entry.2 }
  | _ => .ok config

/-- Reads a group of fields, given by name or in order, over its defaults.  A point in time
stands for a group with none of its fields. -/
def readGroup (fields : List String) (set : α → String × Value → Read α) (defaults : α) :
    Value → Read α
  | .table _ _ entries => entries.foldlM set defaults
  | .array items => (fields.zip items).foldlM set defaults
  | .tables elements => (fields.zip elements).foldlM set defaults
  | .moment => .ok defaults
  | _ => .error .malformed

def setGroup (settings : Settings) (entry : String × Value) : Read Settings :=
  match entry.1 with
  | "client" => do
      return { settings with client := ← readGroup clientFields setClient {} entry.2 }
  | "logging" => do
      return { settings with logging := ← readGroup loggingFields setLogging {} entry.2 }
  | _ => .ok settings

def ofText (text : String) : Read Settings :=
  match Toml.parse? text with
  | some entries => entries.foldlM setGroup {}
  | none => .error .malformed

def ofFile : Option Bytes → Read Settings
  | none => .error .missing
  | some contents =>
      match ofUtf8? contents with
      | some text => ofText text
      | none => .error .notText

/-- A string between double quotes.  What would end it or is no printed character is escaped. -/
def quoted (text : String) : String :=
  let escape (c : Char) : List Char :=
    if c = '"' ∨ c = '\\' then ['\\', c]
    else if c.toNat < 0x20 ∨ c.toNat = 0x7f then
      let digits := Nat.toDigits 16 c.toNat
      ['\\', 'u'] ++ List.replicate (4 - digits.length) '0' ++ digits
    else [c]
  String.ofList ('"' :: text.toList.flatMap escape ++ ['"'])

def wordOf [BEq α] (words : List (String × α)) (value : α) : String :=
  ((words.find? fun word => word.2 == value).map Prod.fst).getD ""

def render (settings : Settings) : String :=
  let client := settings.client
  let logging := settings.logging
  String.join (
    [ "[client]",
      s!"write_chunk_size = {client.writeChunkSize}",
      s!"max_read_size = {client.maxReadSize}",
      s!"max_frame_length = {client.maxFrameLength}",
      s!"response_timeout = {client.responseTimeout.milliseconds}",
      "tell_byte_order = " ++ quoted (wordOf byteOrders client.tellByteOrder),
      "host_path_style = " ++ quoted (wordOf namingStyles client.namingStyle),
      "",
      "[logging]",
      "app_name = " ++ quoted logging.appName,
      "log_level = " ++ quoted logging.level.name,
      s!"json_format = {logging.json}" ].map (· ++ "\n"))

end Settings

end FileConduit
