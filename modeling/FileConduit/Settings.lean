import FileConduit.Access
import FileConduit.Path.HostName
import FileConduit.Text.Decimal

/-!
# Settings

Limits, time-outs and conventions of a client, and what its log looks like.  Any values can
be set; `Settings.problems` lists those that cannot work, the client's before the log's.
-/

namespace FileConduit

structure Duration where
  microseconds : Nat
  deriving DecidableEq, Repr, Inhabited

namespace Duration

def ofMilliseconds (count : Nat) : Duration :=
  ⟨count * 1000⟩

def milliseconds (span : Duration) : Nat :=
  span.microseconds / 1000

end Duration

structure ClientConfig where
  /-- Data bytes of one write frame. -/
  writeChunkSize : UInt64 := 4096
  /-- Most data asked for by one read request. -/
  maxReadSize : UInt64 := 1048576
  /-- Longest frame accepted from the device. -/
  maxFrameLength : UInt64 := 16777256
  /-- How long a reply may take once its request is sent. -/
  responseTimeout : Duration := .ofMilliseconds 30000
  /-- Byte order of the position in the reply to a tell. -/
  tellByteOrder : ByteOrder := .little
  /-- Rules for the names of files that are pulled. -/
  namingStyle : NamingStyle := .native
  deriving DecidableEq, Repr, Inhabited

inductive LogLevel where
  | error
  | warn
  | info
  | debug
  | trace
  deriving DecidableEq, Repr, Inhabited

namespace LogLevel

def name : LogLevel → String
  | error => "error"
  | warn => "warn"
  | info => "info"
  | debug => "debug"
  | trace => "trace"

def all : List LogLevel :=
  [error, warn, info, debug, trace]

/-- Reads a level, by its name in any case or by its place, the first being 1. -/
def ofText? (text : String) : Option LogLevel :=
  match Decimal.word? text.toList with
  | some place => if place = 0 then none else all[place.toNat - 1]?
  | none => all.find? fun level => level.name.toList == text.toList.map Char.toLower

end LogLevel

structure LoggingConfig where
  appName : String := "afc-client"
  level : LogLevel := .info
  /-- Whether the log is written as JSON. -/
  json : Bool := false
  deriving DecidableEq, Repr, Inhabited

structure Settings where
  client : ClientConfig := {}
  logging : LoggingConfig := {}
  deriving DecidableEq, Repr, Inhabited

inductive SettingsProblem where
  | zeroWriteChunk
  | zeroRead
  /-- A reply to the largest read would be refused as too long, as far as its length is a word. -/
  | readExceedsFrame (read frame : UInt64)
  | timeoutTooShort
  | emptyAppName
  | longAppName (bytes : Nat)
  deriving DecidableEq, Repr

def SettingsProblem.message : SettingsProblem → String
  | zeroWriteChunk => "Write chunk size must be greater than 0"
  | zeroRead => "Max read size must be greater than 0"
  | readExceedsFrame read frame =>
      s!"Max read size {read} does not fit in max frame length {frame}"
  | timeoutTooShort => "Response timeout too short (minimum: 10ms)"
  | emptyAppName => "Application name cannot be empty"
  | longAppName bytes => s!"Application name too long: {bytes} characters (maximum: 64)"

/-- Length of the reply to the largest read, as a word.  It wraps if it is too long for one. -/
def ClientConfig.longestReply (config : ClientConfig) : UInt64 :=
  config.maxReadSize + UInt64.ofNat Header.size

def ClientConfig.problems (config : ClientConfig) : List SettingsProblem :=
  (if config.writeChunkSize = 0 then [.zeroWriteChunk] else []) ++
  (if config.maxReadSize = 0 then [.zeroRead]
    else if config.maxFrameLength < config.longestReply then
      [.readExceedsFrame config.maxReadSize config.maxFrameLength]
    else []) ++
  (if config.responseTimeout.milliseconds < 10 then [.timeoutTooShort] else [])

def LoggingConfig.problems (config : LoggingConfig) : List SettingsProblem :=
  if config.appName.utf8ByteSize = 0 then [.emptyAppName]
  else if 64 < config.appName.utf8ByteSize then [.longAppName config.appName.utf8ByteSize]
  else []

namespace Settings

def problems (settings : Settings) : List SettingsProblem :=
  settings.client.problems ++ settings.logging.problems

/-- Refuses settings with a problem, naming every one. -/
def check (settings : Settings) : Except ClientError Unit :=
  match settings.problems with
  | [] => .ok ()
  | problems =>
      .error (.settings ("Configuration validation failed:\n  - " ++
        String.intercalate "\n  - " (problems.map SettingsProblem.message)))

end Settings

inductive ServiceKind where
  | lockdown
  | remoteServiceDiscovery
  deriving DecidableEq, Repr, Inhabited

def ServiceKind.serviceName : ServiceKind → String
  | lockdown => "com.apple.afc"
  | remoteServiceDiscovery => "com.apple.afc.shim.remote"

end FileConduit
