import FileConduit.Client.Removal
import FileConduit.Client.Transfer
import FileConduit.Client.Walk
import FileConduit.Proofs.Client.Looking
import FileConduit.Proofs.Client.Fetching
import FileConduit.Proofs.Program.Within
import FileConduit.Proofs.Request.Chunk

/-!
# The limits that operations keep

With a configuration that has no problem, every operation reads in requests of at least one byte
and of no more than the configured size, and none fails for the size of its chunks.
-/

namespace FileConduit

/-! ## Configurations without problems -/

theorem ClientConfig.problems_eq_nil_iff {config : ClientConfig} :
    config.problems = [] ↔
      config.writeChunkSize ≠ 0 ∧ config.maxReadSize ≠ 0 ∧
        config.longestReply ≤ config.maxFrameLength ∧
        10 ≤ config.responseTimeout.milliseconds := by
  unfold problems
  rw [List.append_eq_nil_iff, List.append_eq_nil_iff]
  by_cases hread : config.maxReadSize = 0
  · simp [hread]
  · simp only [hread, if_false, ite_eq_right_iff, reduceCtorEq, imp_false, UInt64.not_lt,
      Nat.not_lt, ne_eq, not_false_eq_true, true_and, and_assoc]

/-- The length of the longest reply is what it should be, unless it is too long for a word. -/
theorem ClientConfig.longestReply_toNat {config : ClientConfig}
    (hfits : config.maxReadSize.toNat + Header.size < UInt64.size) :
    config.longestReply.toNat = config.maxReadSize.toNat + Header.size := by
  rw [longestReply, UInt64.toNat_add, UInt64.toNat_ofNat_of_lt' (by decide)]
  exact Nat.mod_eq_of_lt hfits

def WriteChunk.refusal : ClientError :=
  .refused .invalidArgument "write chunk size must be greater than zero"

theorem WriteChunk.ofData_error_iff {handle : Handle} {size : Nat} {data : Bytes}
    {error : ClientError} :
    ofData handle size data = .error error ↔ size = 0 ∧ error = refusal := by
  unfold ofData
  by_cases hsize : size = 0
  · simp [hsize, refusal, eq_comm]
  · simp [hsize]

def Request.Sized (config : ClientConfig) : Request → Prop
  | read _ size => 0 < size.toNat ∧ size.toNat ≤ config.maxReadSize.toNat
  | _ => True

/-- A refusal with a text that ends differently is another one. -/
theorem WriteChunk.refused_ne_refusal (front : String) {back : String}
    (hback : back.toList.getLast? = some 'e') :
    ClientError.refused .invalidArgument (front ++ back) ≠ refusal := by
  intro hsame
  have hlast := congrArg (fun text => text.toList.getLast?) (ClientError.refused.inj hsame).2
  simp only [String.toList_append, List.getLast?_append, hback, Option.some_or] at hlast
  exact absurd hlast (by decide)

namespace Client

open Program

/-- Whether a program reads within the limits of a configuration, and never fails for the size of
its chunks. -/
abbrev Keeps (config : ClientConfig) (program : Program α) : Prop :=
  Within (Request.Sized config) (· ≠ WriteChunk.refusal) program

variable {config : ClientConfig}

theorem stat_keeps (path : String) : Keeps config (stat path) := by
  refine ⟨trivial, fun answer hanswer => ?_⟩
  dsimp only
  split
  · exact .fail nofun
  · exact .fail (hanswer _ rfl)
  · split
    · exact .value none
    · split
      · exact .value _
      · rename_i hinfo
        obtain ⟨key, value, rfl⟩ := FileInfo.ofDictionary_error hinfo
        exact .fail nofun

theorem resolve_keeps (path : String) : Keeps config (resolve path) := by
  apply (stat_keeps path).bind
  intro info
  split
  · exact .value path
  · split
    · split
      · exact .value _
      · exact .fail nofun
    · exact .value path

theorem isDirectory_keeps (path : String) : Keeps config (isDirectory path) :=
  (stat_keeps path).bind fun info => .value (describesDirectory info)

theorem pathExists_keeps (path : String) : Keeps config (pathExists path) := by
  apply (stat_keeps path).andThen
  intro result hresult
  rcases result with error | info
  · dsimp only
    split
    · exact .value false
    · exact .fail (hresult error rfl)
  · exact .value true

theorem onHost_keeps (action : HostAction) : Keeps config (onHost action) :=
  .onHost (fun _ => nofun) action

theorem seek_keeps (handle : Handle) (target : SeekTarget) : Keeps config (seek handle target) := by
  have hparameters : Keeps config (ofResult target.parameters) := by
    intro error herror
    unfold SeekTarget.parameters at herror
    split at herror
    · split at herror
      · cases herror
      · rw [Except.error.injEq] at herror
        rw [← herror]
        exact WriteChunk.refused_ne_refusal _ (by decide)
    · cases herror
    · cases herror
  exact hparameters.bind fun parameters => .request trivial

theorem thenClose_keeps {handle : Handle} {program : Program α} (hprogram : Keeps config program) :
    Keeps config (thenClose handle program) := by
  apply hprogram.andThen
  intro result hresult
  apply (Within.request trivial).andThen
  intro closed hclosed
  split
  · exact .fail (hresult _ rfl)
  · exact .fail (hclosed _ rfl)
  · exact .value _

/-! ## Reading -/

theorem readSize_sized (hread : config.maxReadSize ≠ 0) (handle : Handle) {wanted : Nat}
    (hwanted : wanted ≠ 0) :
    Request.Sized config (.read handle (UInt64.ofNat (readSize config wanted))) := by
  have hmost : config.maxReadSize.toNat ≠ 0 := fun hzero => hread (UInt64.toNat_inj.mp hzero)
  have hsize := toNat_readSize config wanted
  constructor <;> omega

theorem readRemaining_keeps (hread : config.maxReadSize ≠ 0) (handle : Handle) (remaining : Nat) :
    ∀ received, Keeps config (readRemaining config handle received remaining) := by
  -- Each answer that is not empty makes what remains shorter.
  induction remaining using Nat.strongRecOn with
  | ind remaining ih =>
      intro received
      rw [readRemaining]
      split
      · exact .value received
      · rename_i hremaining
        refine ⟨readSize_sized hread handle hremaining, fun answer hanswer => ?_⟩
        dsimp only
        split
        · exact .fail (hanswer _ rfl)
        · exact .fail nofun
        · exact ih _ (by omega) _

theorem readAll_keeps (hread : config.maxReadSize ≠ 0) (handle : Handle) (size : UInt64) :
    Keeps config (readAll config handle size) := by
  unfold readAll
  split
  · trivial
  · exact thenClose_keeps (readRemaining_keeps hread handle size.toNat [])

theorem getContents_keeps (hread : config.maxReadSize ≠ 0) (path : String) :
    Keeps config (getContents config path) := by
  apply (resolve_keeps path).bind
  intro source
  apply (stat_keeps source).bind
  intro info
  have hsize : Keeps config (ofResult (regularSize source info)) := by
    intro error herror
    unfold regularSize at herror
    split at herror
    · cases herror
      nofun
    · split at herror
      · cases herror
      · cases herror
        nofun
    · rw [Except.error.injEq] at herror
      rw [← herror]
      exact WriteChunk.refused_ne_refusal source (by decide)
  apply hsize.bind
  intro size
  apply (Within.request trivial).bind
  intro handle
  split
  · exact .value none
  · exact (readAll_keeps hread handle size).bind fun contents => .value (some contents)

/-! ## Writing -/

theorem sendChunks_keeps (chunks : List WriteChunk) : Keeps config (sendChunks chunks) := by
  induction chunks with
  | nil => exact .value ()
  | cons chunk chunks ih => exact (Within.request trivial).bind fun _ => ih

theorem writeChunked_keeps (handle : Handle) (data : Bytes) {size : Nat} (hsize : size ≠ 0) :
    Keeps config (writeChunked handle data size) := by
  have hchunks : Keeps config (ofResult (WriteChunk.ofData handle size data)) := by
    intro error herror
    exact absurd (WriteChunk.ofData_error_iff.mp herror).1 hsize
  apply hchunks.bind
  intro chunks
  exact (Within.stopIfCancelled nofun).bind fun _ => sendChunks_keeps chunks

theorem write_keeps (hchunk : config.writeChunkSize ≠ 0) (handle : Handle) (data : Bytes) :
    Keeps config (write config handle data) :=
  writeChunked_keeps handle data fun hzero => hchunk (UInt64.toNat_inj.mp hzero)

theorem setContents_keeps (hchunk : config.writeChunkSize ≠ 0) (path : String) (data : Bytes) :
    Keeps config (setContents config path data) := by
  apply (Within.request trivial).bind
  intro handle
  split
  · exact .fail nofun
  · exact thenClose_keeps (write_keeps hchunk handle data)

/-! ## Trees -/

theorem removeOne_keeps (path : String) (force : Bool) : Keeps config (removeOne path force) := by
  apply (Within.request trivial).bind
  intro code
  split
  · exact .value true
  · split
    · exact .value false
    · exact .fail nofun

theorem removeChildren_keeps {remove : String → Program (List String)}
    (hremove : ∀ path, Keeps config (remove path)) (directory : String) (names : List String) :
    Keeps config (removeChildren remove directory names) := by
  induction names with
  | nil => exact .value []
  | cons name names ih =>
      unfold removeChildren
      split
      · exact ih
      · have hothers : ∀ left : List String, Keeps config
            (removeChildren remove directory names >>= fun rest => pure (left ++ rest)) :=
          fun left => ih.bind fun rest => .value (left ++ rest)
        apply (isDirectory_keeps _).andThen
        intro result hresult
        split
        · split
          · exact hothers []
          · exact .fail (hresult _ rfl)
        · apply (hremove _).andThen
          intro removed hremoved
          split
          · exact hothers _
          · exact hothers _
          · exact .fail (hremoved _ rfl)
        · apply (removeOne_keeps _ true).bind
          intro gone
          split
          · exact hothers []
          · exact hothers _

theorem removeEmptied_keeps (path : String) (force : Bool) (left : List String) :
    Keeps config (removeEmptied path force left) := by
  apply (removeOne_keeps path force).andThen
  intro result hresult
  split
  · split
    · exact .value []
    · exact .fail nofun
  · exact .value _
  · split
    · exact .fail (hresult _ rfl)
    · exact .fail nofun

theorem removeTree_keeps (depth : Nat) :
    ∀ path force, Keeps config (removeTree depth path force) := by
  induction depth with
  | zero => exact fun _ _ => trivial
  | succ depth ih =>
      intro path force
      apply (stat_keeps path).andThen
      intro result hresult
      split
      · split
        · exact .fail (hresult _ rfl)
        · split
          · exact .value []
          · exact (removeOne_keeps path false).bind fun _ => .value []
      · split
        · apply (Within.request trivial).bind
          intro names
          apply (removeChildren_keeps (fun child => ih child true) path names).bind
          intro left
          exact removeEmptied_keeps path force left
        · apply (removeOne_keeps path force).bind
          intro gone
          split
          · exact .value []
          · exact .value [path]

theorem sortNames_keeps (directory : String) (names : List String) :
    Keeps config (sortNames directory names) := by
  induction names with
  | nil => exact .value []
  | cons name names ih =>
      unfold sortNames
      split
      · exact ih
      · apply (stat_keeps _).andThen
        intro result hresult
        split
        · exact ih.bind fun rest => .value _
        · split
          · exact ih
          · exact .fail (hresult _ rfl)

theorem visit_keeps (directory : String) (depth : Nat) : Keeps config (visit directory depth) := by
  apply (Within.request trivial).bind
  intro names
  exact (sortNames_keeps directory names).bind fun sorted => .value _

theorem walkNext_keeps (bound : Option Nat) (pending : Pending) :
    Keeps config (walkNext bound pending) := by
  cases pending with
  | nil => exact .value none
  | cons first pending => exact (visit_keeps first.1 first.2).bind fun entry => .value _

theorem listPending_keeps (bound : Option Nat) (pending : Pending) :
    Keeps config (listPending bound pending) := by
  induction pending with
  | nil => exact .value none
  | cons first pending ih =>
      apply (visit_keeps first.1 first.2).bind
      intro entry
      split
      · exact ih
      · exact .value _

theorem listNext_keeps (bound : Option Nat) (listing : Listing) :
    Keeps config (listNext bound listing) := by
  unfold listNext
  split
  · exact .value _
  · exact listPending_keeps bound listing.pending

/-! ## Copies -/

theorem pull_keeps (hread : config.maxReadSize ≠ 0) (steps : Nat) (remote : String)
    (directory : HostPath) : Keeps config (pull config steps remote directory) := by
  apply Within.repeatUntilNone
  intro now
  unfold Pull.step
  split
  · exact .value none
  · apply (Within.stopIfCancelled nofun).bind
    intro _
    apply (resolve_keeps _).bind
    intro source
    apply (isDirectory_keeps source).bind
    intro found
    split
    · apply (onHost_keeps _).bind
      intro _
      split
      · exact .value _
      · exact (Within.request trivial).bind fun names => .value _
    · apply (getContents_keeps hread source).bind
      intro contents
      exact (onHost_keeps _).bind fun _ => .value _

theorem ensureDirectory_keeps (path : String) : Keeps config (Push.ensureDirectory path) := by
  apply (Within.request trivial).andThen
  intro result hresult
  split
  · exact .value ()
  · split
    · exact .value ()
    · exact .fail (hresult _ rfl)

theorem push_keeps (hchunk : config.writeChunkSize ≠ 0) (steps : Nat) (mount : String)
    (origin : HostPath) (directory : String) :
    Keeps config (push config steps mount origin directory) := by
  unfold push
  split
  · exact .fail nofun
  · apply Within.repeatUntilNone
    intro now
    unfold Push.step
    split
    · exact .value none
    · apply (Within.stopIfCancelled nofun).bind
      intro _
      apply (onHost_keeps _).bind
      intro found
      split
      · apply (onHost_keeps _).bind
        intro place
        split
        · exact .value _
        · apply (ensureDirectory_keeps _).bind
          intro _
          exact (onHost_keeps _).bind fun names => .value _
      · apply (onHost_keeps _).bind
        intro contents
        exact (setContents_keeps hchunk _ contents).bind fun _ => .value _

/-! ## All operations -/

inductive Offered (config : ClientConfig) : {α : Type} → Program α → Prop where
  | openFile (path : String) (mode : OpenMode) : Offered config (openFile path mode)
  | close (handle : Handle) : Offered config (close handle)
  | tell (handle : Handle) : Offered config (tell handle)
  | lock (handle : Handle) (mode : LockMode) : Offered config (lock handle mode)
  | resize (handle : Handle) (size : UInt64) : Offered config (resize handle size)
  | seek (handle : Handle) (target : SeekTarget) : Offered config (seek handle target)
  | readOnce (handle : Handle) (wanted : Nat) : Offered config (readOnce config handle wanted)
  | readInto (handle : Handle) (buffer : Bytes) : Offered config (readInto config handle buffer)
  | read (handle : Handle) (length : Nat) : Offered config (read config handle length)
  | write (handle : Handle) (data : Bytes) : Offered config (write config handle data)
  | writeChunked (handle : Handle) (data : Bytes) (size : Nat) :
      Offered config (writeChunked handle data size)
  | stat (path : String) : Offered config (stat path)
  | pathExists (path : String) : Offered config (pathExists path)
  | isDirectory (path : String) : Offered config (isDirectory path)
  | resolve (path : String) : Offered config (resolve path)
  | listDirectory (path : String) : Offered config (listDirectory path)
  | makeDirectory (path : String) : Offered config (makeDirectory path)
  | rename (source destination : String) : Offered config (rename source destination)
  | makeLink (kind : LinkKind) (target link : String) : Offered config (makeLink kind target link)
  | deviceInfo : Offered config deviceInfo
  | getContents (path : String) : Offered config (getContents config path)
  | setContents (path : String) (data : Bytes) : Offered config (setContents config path data)
  | removeTree (depth : Nat) (path : String) (force : Bool) :
      Offered config (removeTree depth path force)
  | walkNext (bound : Option Nat) (pending : Pending) : Offered config (walkNext bound pending)
  | walk (bound : Option Nat) (count : Nat) (pending : Pending) :
      Offered config (collect (Client.walkNext bound) count pending)
  | listNext (bound : Option Nat) (listing : Listing) : Offered config (listNext bound listing)
  | list (bound : Option Nat) (count : Nat) (listing : Listing) :
      Offered config (collect (Client.listNext bound) count listing)
  | pull (steps : Nat) (remote : String) (directory : HostPath) :
      Offered config (pull config steps remote directory)
  | push (steps : Nat) (mount : String) (origin : HostPath) (directory : String) :
      Offered config (push config steps mount origin directory)

/-- The calls that ask for no bytes, or for a write in chunks of none. -/
inductive Vain (config : ClientConfig) : {α : Type} → Program α → Prop where
  | readOnce (handle : Handle) : Vain config (readOnce config handle 0)
  | readInto (handle : Handle) : Vain config (readInto config handle [])
  | writeChunked (handle : Handle) (data : Bytes) : Vain config (writeChunked handle data 0)

/-- With a configuration without problems, every operation keeps to its limits, unless the caller
asks for nothing. -/
theorem Offered.keeps {program : Program α} (hoffered : Offered config program)
    (hvalid : config.problems = []) (hvain : ¬Vain config program) : Keeps config program := by
  obtain ⟨hchunk, hread, -, -⟩ := ClientConfig.problems_eq_nil_iff.mp hvalid
  cases hoffered with
  | seek handle target => exact seek_keeps handle target
  | readOnce handle wanted =>
      have hwanted : wanted ≠ 0 := by
        intro hzero
        subst hzero
        exact hvain (.readOnce handle)
      exact .request (readSize_sized hread handle hwanted)
  | readInto handle buffer =>
      have hbuffer : buffer ≠ [] := by
        intro hnil
        subst hnil
        exact hvain (.readInto handle)
      have hlength : buffer.length ≠ 0 := by simpa using hbuffer
      apply (Within.request (readSize_sized hread handle hlength)).andThen
      intro result hresult
      cases result <;> exact .value _
  | read handle length => exact readRemaining_keeps hread handle length []
  | write handle data => exact write_keeps hchunk handle data
  | writeChunked handle data size =>
      have hsize : size ≠ 0 := by
        intro hzero
        subst hzero
        exact hvain (.writeChunked handle data)
      exact writeChunked_keeps handle data hsize
  | stat path => exact stat_keeps path
  | pathExists path => exact pathExists_keeps path
  | isDirectory path => exact isDirectory_keeps path
  | resolve path => exact resolve_keeps path
  | getContents path => exact getContents_keeps hread path
  | setContents path data => exact setContents_keeps hchunk path data
  | removeTree depth path force => exact removeTree_keeps depth path force
  | walkNext bound pending => exact walkNext_keeps bound pending
  | walk bound count pending => exact Within.collect (walkNext_keeps bound) count pending
  | listNext bound listing => exact listNext_keeps bound listing
  | list bound count listing => exact Within.collect (listNext_keeps bound) count listing
  | pull steps remote directory => exact pull_keeps hread steps remote directory
  | push steps mount origin directory => exact push_keeps hchunk steps mount origin directory
  | _ => exact .request trivial

theorem Offered.runs {σ : Type} {program : Program α} (hoffered : Offered config program)
    (hvalid : config.problems = []) (hvain : ¬Vain config program) (device : Device σ)
    (session : Session σ) :
    (∀ trip ∈ session.programTrips device program, trip.request.Sized config) ∧
      (session.run device program).1 ≠ .finished (.error WriteChunk.refusal) := by
  have hends : ∀ error : ClientError, error.endsRound = true → error ≠ WriteChunk.refusal := by
    intro error hends hrefusal
    rw [hrefusal] at hends
    cases hends
  obtain ⟨hasked, hended⟩ := (hoffered.keeps hvalid hvain).of_run hends device session
  exact ⟨hasked, fun hrefused => hended _ hrefused rfl⟩

/-- A call that asks for nothing reads no bytes either. -/
theorem Vain.within {program : Program α} (hvain : Vain config program) :
    Within (fun request => ∀ handle size, request = .read handle size → size = 0)
      (fun _ => True) program := by
  have hnothing : ∀ handle : Handle,
      ∀ other size, Request.read handle (UInt64.ofNat (readSize config 0)) = .read other size →
        size = 0 := by
    intro handle other size hsame
    rw [← (Request.read.inj hsame).2, readSize, Nat.zero_min]
    rfl
  cases hvain with
  | readOnce handle => exact .request (hnothing handle)
  | readInto handle =>
      apply (Within.request (hnothing handle)).andThen
      intro result hresult
      cases result <;> exact .value _
  | writeChunked handle data => exact fun _ _ => trivial

/-- No operation reads more at once than is configured. -/
theorem Offered.bounded {σ : Type} {program : Program α} (hoffered : Offered config program)
    (hvalid : config.problems = []) (device : Device σ) (session : Session σ) :
    ∀ trip ∈ session.programTrips device program, ∀ handle size,
      trip.request = .read handle size → size.toNat ≤ config.maxReadSize.toNat := by
  intro trip htrip handle size hread
  by_cases hvain : Vain config program
  · have hzero := (hvain.within.of_run (fun _ _ => trivial) device session).1 trip htrip handle
      size hread
    rw [hzero]
    exact Nat.zero_le _
  · have hsized := (hoffered.runs hvalid hvain device session).1 trip htrip
    rw [hread] at hsized
    exact hsized.2

end Client

end FileConduit
