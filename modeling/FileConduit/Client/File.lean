import FileConduit.Program
import FileConduit.Request.Chunk
import FileConduit.Settings

/-!
# Open files

Operations on a handle.  A long read is made of requests of limited size until the length
asked for has come; a long write is made of chunks, each acknowledged before the next goes out.
-/

namespace FileConduit.Client

open Program

def openFile (path : String) (mode : OpenMode) : Program Handle :=
  request (.openFile path mode)

def close (handle : Handle) : Program Unit :=
  request (.close handle)

def tell (handle : Handle) : Program UInt64 :=
  request (.tell handle)

def lock (handle : Handle) (mode : LockMode) : Program Unit :=
  request (.lock handle mode)

def resize (handle : Handle) (size : UInt64) : Program Unit :=
  request (.resize handle size)

def seek (handle : Handle) (target : SeekTarget) : Program Unit := do
  let parameters ← ofResult target.parameters
  request (.seek handle parameters)

def readSize (config : ClientConfig) (wanted : Nat) : Nat :=
  min wanted config.maxReadSize.toNat

/-- Reads once, at most as much as is wanted; no bytes mean the end of the file. -/
def readOnce (config : ClientConfig) (handle : Handle) (wanted : Nat) : Program Bytes :=
  request (.read handle (UInt64.ofNat (readSize config wanted)))

/-- Reads once into the front of a buffer.  Gives the count of bytes, or why there are none, and
the buffer as it is then. -/
def readInto (config : ClientConfig) (handle : Handle) (buffer : Bytes) :
    Program (Except ClientError Nat × Bytes) :=
  (readOnce config handle buffer.length).andThen fun result =>
    match result with
    | .ok data => done (.ok (.ok data.length, Buffer.fill buffer data))
    | .error error => done (.ok (.error error, buffer))

/-- Reads on until nothing remains of a length, of which some bytes have come. -/
def readRemaining (config : ClientConfig) (handle : Handle) (received : Bytes)
    (remaining : Nat) : Program Bytes :=
  if _h : remaining = 0 then done (.ok received)
  else
    .call (.read handle (UInt64.ofNat (readSize config remaining))) fun answer =>
      match answer with
      | .error error => fail error
      | .ok [] => fail (.endOfStream (received.length + remaining) received.length)
      | .ok (byte :: data) =>
          readRemaining config handle (received ++ byte :: data) (remaining - (data.length + 1))
termination_by remaining
decreasing_by omega

/-- Reads exactly so many bytes.  A caller who asks for more than `Bytes.maxLength`, for which
there is no buffer, lies outside the model, and memory does not run out; a length that a device
states is checked before it comes here. -/
def read (config : ClientConfig) (handle : Handle) (length : Nat) : Program Bytes :=
  readRemaining config handle [] length

def sendChunks : List WriteChunk → Program Unit
  | [] => done (.ok ())
  | chunk :: chunks => do
      request (.write chunk)
      sendChunks chunks

def writeChunked (handle : Handle) (data : Bytes) (size : Nat) : Program Unit := do
  let chunks ← ofResult (WriteChunk.ofData handle size data)
  stopIfCancelled
  sendChunks chunks

def write (config : ClientConfig) (handle : Handle) (data : Bytes) : Program Unit :=
  writeChunked handle data config.writeChunkSize.toNat

end FileConduit.Client
