import FileConduit.Client.Transfer
import FileConduit.Proofs.Client.Fetching
import FileConduit.Proofs.Program.Pairing
import FileConduit.Proofs.Request.Chunk
import FileConduit.Proofs.Session.Cancellation
import FileConduit.Proofs.Session.Sending

/-!
# Handles after a cancellation

The operations that open files ask to close each handle that they have opened, also when using it
fails; only a run that halts for want of a buffer does not come to that.  The request is turned away
like any other once the client is cancelled: then a handle stays open just when the user cancels
while it is opened or used.
-/

namespace FileConduit

namespace Client

open Program

variable {config : ClientConfig} {handle : Handle}

theorem fileInfo_plain (path : String) : Round.Plain (.fileInfo path) :=
  ⟨rfl, fun _ => rfl⟩

theorem resolve_pairs (path : String) : Pairs (resolve path) :=
  .of_only (resolve_only (fileInfo_plain path))

theorem isDirectory_pairs (path : String) : Pairs (isDirectory path) :=
  .of_only (isDirectory_only (fileInfo_plain path))

theorem listDirectory_pairs (path : String) : Pairs (listDirectory path) :=
  .of_only (.request ⟨rfl, fun _ => rfl⟩)

theorem ensureDirectory_pairs (path : String) : Pairs (Push.ensureDirectory path) := by
  have hmake : Pairs (makeDirectory path) := .of_only (.request ⟨rfl, fun _ => rfl⟩)
  refine hmake.andThen fun result => ?_
  split
  · exact .done _
  · split <;> exact .done _

/-- Closing comes last, whatever has become of the uses. -/
theorem thenClose_closes {α : Type} {program : Program α}
    (huses : Only (Request.Uses handle) [] program) : Closes handle (thenClose handle program) := by
  intro rounds outcome hmakes hends
  have hchained : Chained program _ rounds outcome := Makes.chained hmakes
  cases hchained with
  | abandoned hmade => exact absurd rfl hends
  | halted hmade => exact absurd ((huses.makes hmade).1 _ rfl) List.not_mem_nil
  | @both uses _ result _ hmade hrest =>
      have hused := (huses.makes hmade).2
      cases hrest with
      | givenUp => exact absurd rfl hends
      | @answered _ _ closed rest _ hlast =>
          refine .closed hused rfl ?_
          rcases result with error | value <;> rcases closed with failure | _ <;> cases hlast <;>
            exact .nil

theorem sendChunks_uses (chunks : List WriteChunk)
    (hchunks : ∀ chunk ∈ chunks, chunk.handle = handle) :
    Only (Request.Uses handle) [] (sendChunks chunks) := by
  induction chunks with
  | nil => trivial
  | cons chunk chunks ih =>
      obtain ⟨hchunk, hrest⟩ := List.forall_mem_cons.mp hchunks
      exact (Only.request (.write hchunk)).bind fun _ => ih hrest

theorem writeChunked_uses (handle : Handle) (data : Bytes) (size : Nat) :
    Only (Request.Uses handle) [] (writeChunked handle data size) := by
  unfold writeChunked WriteChunk.ofData
  split
  · trivial
  · intro cancelled
    cases cancelled with
    | true => trivial
    | false =>
        refine sendChunks_uses _ fun chunk hchunk => ?_
        obtain ⟨piece, -, rfl⟩ := List.mem_map.mp hchunk
        rfl

theorem read_uses (config : ClientConfig) (handle : Handle) (length : Nat) :
    Only (Request.Uses handle) [] (read config handle length) :=
  readRemaining_only (fun asked _ => .read asked) length []

theorem readAll_closes (config : ClientConfig) (handle : Handle) (size : UInt64) :
    Closes handle (readAll config handle size) := by
  unfold readAll
  split
  · intro rounds outcome hmakes _
    cases hmakes
    exact .left rfl
  · exact thenClose_closes (read_uses config handle size.toNat)

theorem getContents_pairs (config : ClientConfig) (path : String) :
    Pairs (getContents config path) := by
  have hstat : ∀ source, Pairs (stat source) := fun source =>
    .of_only (stat_only (fileInfo_plain source))
  refine (resolve_pairs path).bind fun source => (hstat source).bind fun info =>
    (Pairs.done _).bind fun size => .opening source .readOnly ?_ ?_
  · intro handle hnull
    rw [if_pos hnull]
    exact .done _
  · intro handle hheld
    rw [if_neg (by simp [hheld])]
    exact (readAll_closes config handle size).bind fun contents => .done _

theorem setContents_pairs (config : ClientConfig) (path : String) (data : Bytes) :
    Pairs (setContents config path data) := by
  refine .opening path .writeOnly ?_ ?_
  · intro handle hnull
    rw [if_pos hnull]
    exact .done _
  · intro handle hheld
    rw [if_neg (by simp [hheld])]
    exact thenClose_closes (writeChunked_uses handle data _)

theorem pull_pairs (config : ClientConfig) (steps : Nat) (remote : String)
    (directory : HostPath) : Pairs (pull config steps remote directory) := by
  refine .repeatUntilNone (fun now => ?_) steps _
  unfold Pull.step
  split
  · exact .done _
  · refine Pairs.stopIfCancelled.bind fun _ => (resolve_pairs _).bind fun source =>
      (isDirectory_pairs source).bind fun directory => ?_
    split
    · refine (Pairs.onHost _).bind fun _ => ?_
      split
      · exact .done _
      · exact (listDirectory_pairs source).bind fun names => .done _
    · exact (getContents_pairs config source).bind fun contents =>
        (Pairs.onHost _).bind fun _ => .done _

theorem push_pairs (config : ClientConfig) (steps : Nat) (mount : String) (origin : HostPath)
    (directory : String) : Pairs (push config steps mount origin directory) := by
  unfold push
  split
  · exact .done _
  · refine .repeatUntilNone (fun now => ?_) steps _
    unfold Push.step
    split
    · exact .done _
    · refine Pairs.stopIfCancelled.bind fun _ => (Pairs.onHost _).bind fun directory => ?_
      split
      · refine (Pairs.onHost _).bind fun place => ?_
        split
        · exact .done _
        · exact (ensureDirectory_pairs _).bind fun _ => (Pairs.onHost _).bind fun names => .done _
      · exact (Pairs.onHost _).bind fun contents =>
          (setContents_pairs config _ contents).bind fun _ => .done _

inductive Opening (config : ClientConfig) : {α : Type} → Program α → Prop where
  | getContents (path : String) : Opening config (getContents config path)
  | setContents (path : String) (data : Bytes) : Opening config (setContents config path data)
  | pull (steps : Nat) (remote : String) (directory : HostPath) :
      Opening config (pull config steps remote directory)
  | push (steps : Nat) (mount : String) (origin : HostPath) (directory : String) :
      Opening config (push config steps mount origin directory)

theorem Opening.pairs {α : Type} {program : Program α} (hopening : Opening config program) :
    Pairs program := by
  cases hopening with
  | getContents path => exact getContents_pairs config path
  | setContents path data => exact setContents_pairs config path data
  | pull steps remote directory => exact pull_pairs config steps remote directory
  | push steps mount origin directory => exact push_pairs config steps mount origin directory

end Client

end FileConduit
