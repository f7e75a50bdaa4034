import FileConduit.Settings

/-!
# Settings from the environment

Three variables override the defaults.  A variable that does not hold a number is passed over.
-/

namespace FileConduit.Settings

def numberIn? (environment : String → Option String) (name : String) : Option UInt64 :=
  (environment name).bind fun value => Decimal.word? value.toList

def ofEnvironment (environment : String → Option String) : Settings :=
  let defaults : ClientConfig := {}
  let chunk := numberIn? environment "AFC_WRITE_CHUNK_SIZE"
  let read := numberIn? environment "AFC_MAX_READ_SIZE"
  let timeout := numberIn? environment "AFC_RESPONSE_TIMEOUT_MS"
  { client := { defaults with
      writeChunkSize := chunk.getD defaults.writeChunkSize
      maxReadSize := read.getD defaults.maxReadSize
      responseTimeout := match timeout with
        | some count => .ofMilliseconds count.toNat
        | none => defaults.responseTimeout } }

end FileConduit.Settings
