import FileConduit.Proofs.Client.Closing
import FileConduit.Proofs.Session.Finishing

/-!
# Whole files

Reading and replacing the contents of a file open it, transfer the contents and close it.  The
request to close comes last however the transfer ends, and the failure of the transfer counts
before that of closing.  Reading opens nothing but a regular file whose size is known; if no buffer
can be of that size, it halts with the file open.
-/

namespace FileConduit

namespace Client

open Program

variable {σ α β : Type} {device : Device σ} {session middle final : Session σ}
  {config : ClientConfig} {handle : Handle} {path : String} {trips : List (Trip σ)}

/-! ## Looking before opening -/

/-- The size of a file is known just when it is a regular one and is described with a size. -/
theorem regularSize_ok_iff {info : Option FileInfo} {size : UInt64} :
    regularSize path info = .ok size ↔
      ∃ found, info = some found ∧ found.kind = some .regular ∧ found.size = some size := by
  rcases info with _ | found
  · simp [regularSize]
  · unfold regularSize
    rw [Option.bind_some, Option.bind_some]
    cases hkind : found.kind with
    | none => simp [hkind]
    | some kind => cases kind <;> cases hsize : found.size <;> simp [hkind, hsize]

theorem stat_once (path : String) : (stat path).Once (.fileInfo path) := by
  refine .call fun answer => ?_
  split
  · exact ⟨_, rfl⟩
  · exact ⟨_, rfl⟩
  · split
    · exact ⟨_, rfl⟩
    · split <;> exact ⟨_, rfl⟩

theorem resolve_once (path : String) : (resolve path).Once (.fileInfo path) := by
  refine (stat_once path).andThen fun result => ?_
  split
  · dsimp only
    split
    · exact ⟨_, rfl⟩
    · split
      · split <;> exact ⟨_, rfl⟩
      · exact ⟨_, rfl⟩
  · exact ⟨_, rfl⟩

/-! ## Closing last -/

/-- What becomes of a use and of the closing after it: the failure of the use counts first. -/
def afterClose (used : Except ClientError α) (closed : Except ClientError Unit) :
    Except ClientError α := do
  let value ← used
  closed
  return value

theorem thenClose_finishes {program : Program α} {used : Except ClientError α}
    {closed : Except ClientError Unit} (huse : session.Finishes device program trips used middle)
    (hclose : Trip.outcome device ⟨middle, .close handle⟩ = some closed) :
    session.Finishes device (thenClose handle program) (trips ++ [⟨middle, .close handle⟩])
      (afterClose used closed) (Trip.after device ⟨middle, .close handle⟩) := by
  refine huse.andThen (.call hclose ?_)
  rcases used with error | value <;> rcases closed with failure | _ <;> exact .done _

/-- A handle is used by a transfer, and then there is one request to close it, which is the last
of all.  The channel is asked to carry it unless the transfer has broken off. -/
inductive ClosedLast (device : Device σ) (session : Session σ) (handle : Handle)
    (transfer : Program α) : List (Trip σ) → Except ClientError α → Prop where
  | closed {uses : List (Trip σ)} {used : Except ClientError α}
      {closed : Except ClientError Unit} {middle : Session σ}
      (hfinishes : session.Finishes device transfer uses used middle)
      (huses : ∀ use ∈ uses, use.request.Uses handle)
      (hclose : Trip.outcome device ⟨middle, .close handle⟩ = some closed)
      (hproceeds : Trip.proceeds ⟨middle, .close handle⟩ = !middle.desynchronized)
      (hsent : (Trip.after device ⟨middle, .close handle⟩).desynchronized = false →
        (Trip.sent? device ⟨middle, .close handle⟩).isSome = true) :
      ClosedLast device session handle transfer (uses ++ [⟨middle, .close handle⟩])
        (afterClose used closed)

/-- How a file is opened and used.  Without a handle nothing is used or closed. -/
inductive Handled (device : Device σ) (session : Session σ) (path : String) (mode : OpenMode)
    (transfer : Handle → Program α) (without : Except ClientError β) (give : α → β) :
    List (Trip σ) → Except ClientError β → Prop where
  | unopened {error : ClientError}
      (hopen : Trip.outcome device ⟨session, .openFile path mode⟩ = some (.error error)) :
      Handled device session path mode transfer without give [⟨session, .openFile path mode⟩]
        (.error error)
  | null {handle : Handle}
      (hopen : Trip.outcome device ⟨session, .openFile path mode⟩ = some (.ok handle))
      (hnull : handle.isNull = true) :
      Handled device session path mode transfer without give [⟨session, .openFile path mode⟩]
        without
  | held {handle : Handle} {trips : List (Trip σ)} {result : Except ClientError α}
      (hopen : Trip.outcome device ⟨session, .openFile path mode⟩ = some (.ok handle))
      (hheld : handle.isNull = false)
      (hlast : ClosedLast device (Trip.after device ⟨session, .openFile path mode⟩) handle
        (transfer handle) trips result) :
      Handled device session path mode transfer without give
        (⟨session, .openFile path mode⟩ :: trips) (result.map give)

/-- What comes of opening a file that is too long for any buffer.  With a handle the run halts, and
neither reads nor closes. -/
def unbuffered : Except ClientError Handle → Outcome (Option Bytes)
  | .error error => .finished (.error error)
  | .ok handle => if handle.isNull then .finished (.ok none) else .halted .capacity

/-- The contents of a file are fetched by two looks, the one at the path and the other at where it
leads, and by opening what is a regular file of a known size. -/
inductive Fetched (device : Device σ) (session : Session σ) (config : ClientConfig)
    (path : String) : List (Trip σ) → Outcome (Option Bytes) → Prop where
  | unresolved {error : ClientError} {final : Session σ}
      (hresolve : session.Finishes device (resolve path) [⟨session, .fileInfo path⟩]
        (.error error) final) :
      Fetched device session config path [⟨session, .fileInfo path⟩] (.finished (.error error))
  | undescribed {source : String} {middle final : Session σ} {error : ClientError}
      (hresolve : session.Finishes device (resolve path) [⟨session, .fileInfo path⟩] (.ok source)
        middle)
      (hstat : middle.Finishes device (stat source) [⟨middle, .fileInfo source⟩] (.error error)
        final) :
      Fetched device session config path [⟨session, .fileInfo path⟩, ⟨middle, .fileInfo source⟩]
        (.finished (.error error))
  | unfit {source : String} {middle final : Session σ} {info : Option FileInfo}
      {error : ClientError}
      (hresolve : session.Finishes device (resolve path) [⟨session, .fileInfo path⟩] (.ok source)
        middle)
      (hstat : middle.Finishes device (stat source) [⟨middle, .fileInfo source⟩] (.ok info) final)
      (hunfit : regularSize source info = .error error) :
      Fetched device session config path [⟨session, .fileInfo path⟩, ⟨middle, .fileInfo source⟩]
        (.finished (.error error))
  | opened {source : String} {middle described : Session σ} {info : FileInfo} {size : UInt64}
      {trips : List (Trip σ)} {result : Except ClientError (Option Bytes)}
      (hresolve : session.Finishes device (resolve path) [⟨session, .fileInfo path⟩] (.ok source)
        middle)
      (hstat : middle.Finishes device (stat source) [⟨middle, .fileInfo source⟩] (.ok (some info))
        described)
      (hkind : info.kind = some .regular) (hsize : info.size = some size)
      (hfits : size.toNat ≤ Bytes.maxLength)
      (hhandled : Handled device described source .readOnly
        (fun handle => read config handle size.toNat) (.ok none) some trips result) :
      Fetched device session config path
        (⟨session, .fileInfo path⟩ :: ⟨middle, .fileInfo source⟩ :: trips) (.finished result)
  | tooLong {source : String} {middle described : Session σ} {info : FileInfo} {size : UInt64}
      {answer : Except ClientError Handle}
      (hresolve : session.Finishes device (resolve path) [⟨session, .fileInfo path⟩] (.ok source)
        middle)
      (hstat : middle.Finishes device (stat source) [⟨middle, .fileInfo source⟩] (.ok (some info))
        described)
      (hkind : info.kind = some .regular) (hsize : info.size = some size)
      (hlong : Bytes.maxLength < size.toNat)
      (hopen : Trip.outcome device ⟨described, .openFile source .readOnly⟩ = some answer) :
      Fetched device session config path [⟨session, .fileInfo path⟩, ⟨middle, .fileInfo source⟩,
        ⟨described, .openFile source .readOnly⟩] (unbuffered answer)

theorem thenClose_closedLast (device : Device σ) (hpatient : session.givesUp = none)
    {transfer : Program α} (honly : Only (Request.Uses handle) [] transfer) :
    ∃ trips result final,
      session.Finishes device (thenClose handle transfer) trips result final ∧
        (final.cancelled = false → ClosedLast device session handle transfer trips result) := by
  have hrun := Session.run_only device honly session
  obtain ⟨used, middle, hfinishes⟩ :=
    Session.finishes device hpatient fun cause hcause => List.not_mem_nil (hrun.1 cause hcause)
  have hmiddle : middle.givesUp = none := by
    have hkept := Session.run_givesUp device transfer session
    rw [hfinishes.run] at hkept
    exact hkept.trans hpatient
  obtain ⟨closed, hclose⟩ := Session.call_finishes device hmiddle (.close handle)
  refine ⟨_, _, _, thenClose_finishes hfinishes hclose, fun hcancelled => ?_⟩
  -- The user has not cancelled at the last round trip, so not before it either.
  have hbefore : middle.cancelled = false := by
    have hafter := Trip.cancelled_after_iff device ⟨middle, .close handle⟩
    rw [hcancelled] at hafter
    simpa using fun hmiddle => hafter.mpr (.inl hmiddle)
  refine .closed hfinishes hrun.2 hclose ?_ fun hflag => ?_
  · simp [Trip.proceeds, hbefore]
  · exact (Trip.sent?_isSome_iff hflag).mpr hbefore

/-- Opening a file and going on so takes this course, unless the user cancels. -/
theorem openFile_handled (device : Device σ) (hpatient : session.givesUp = none) (path : String)
    (mode : OpenMode) (transfer : Handle → Program α) {without : Except ClientError β}
    {give : α → β} {next : Handle → Program β}
    (honly : ∀ handle, Only (Request.Uses handle) [] (transfer handle))
    (hnull : ∀ handle : Handle, handle.isNull = true → next handle = .done without)
    (hheld : ∀ (handle : Handle) (opened : Session σ) (trips result final),
      handle.isNull = false →
      opened.Finishes device (thenClose handle (transfer handle)) trips result final →
      opened.Finishes device (next handle) trips (result.map give) final) :
    ∃ trips result final,
      session.Finishes device (openFile path mode >>= next) trips result final ∧
        (final.cancelled = false →
          Handled device session path mode transfer without give trips result) := by
  let opened := Trip.after device ⟨session, .openFile path mode⟩
  obtain ⟨answer, hopen⟩ := Session.call_finishes device hpatient (.openFile path mode)
  rcases answer with error | handle
  · exact ⟨_, _, opened, .call hopen (.done _), fun _ => .unopened hopen⟩
  cases hhandle : handle.isNull with
  | true =>
      have hnext : opened.Finishes device (next handle) [] without opened := by
        rw [hnull handle hhandle]
        exact .done without
      exact ⟨_, _, opened, .call hopen hnext, fun _ => .null hopen hhandle⟩
  | false =>
      have hopened : opened.givesUp = none :=
        (session.call_keeps device (.openFile path mode)).1.trans hpatient
      obtain ⟨trips, result, final, hfinishes, hlast⟩ :=
        thenClose_closedLast device hopened (honly handle)
      have hnext := hheld handle opened trips result final hhandle hfinishes
      exact ⟨_, _, final, .call hopen hnext, fun hcancelled =>
        .held hopen hhandle (hlast hcancelled)⟩

theorem setContents_handled (device : Device σ) (hpatient : session.givesUp = none)
    (config : ClientConfig) (path : String) (data : Bytes) :
    ∃ trips result final,
      session.Finishes device (setContents config path data) trips result final ∧
        (final.cancelled = false →
          Handled device session path .writeOnly (fun handle => write config handle data)
            (.error (.refused .openFailed "Failed to open file for writing")) id trips result) := by
  refine openFile_handled device hpatient path .writeOnly (fun handle => write config handle data)
    (fun handle => ?_) (fun handle hnull => ?_)
    fun handle opened trips result final hheld hfinishes => ?_
  · exact writeChunked_uses handle data _
  · rw [if_pos hnull]
    rfl
  · rw [if_neg (by simp [hheld])]
    cases result <;> exact hfinishes

/-- What comes after the looks, as long as the file fits in a buffer. -/
theorem openContents_handled (device : Device σ) (hpatient : session.givesUp = none)
    (config : ClientConfig) (path : String) {size : UInt64} (hfits : size.toNat ≤ Bytes.maxLength) :
    ∃ trips result final,
      session.Finishes device (openContents config path size) trips result final ∧
        (final.cancelled = false → Handled device session path .readOnly
          (fun handle => read config handle size.toNat) (.ok none) some trips result) := by
  refine openFile_handled device hpatient path .readOnly
    (fun handle => read config handle size.toNat) (fun handle => ?_) (fun handle hnull => ?_)
    fun handle opened trips result final hheld hfinishes => ?_
  · exact read_uses config handle size.toNat
  · rw [if_pos hnull]
    rfl
  · rw [if_neg (by simp [hheld]), readAll, if_neg (Nat.not_lt.mpr hfits), ← List.append_nil trips]
    refine hfinishes.andThen ?_
    cases result <;> exact .done _

/-- What comes after the looks if the file is too long for any buffer. -/
theorem openContents_tooLong (device : Device σ) (hpatient : session.givesUp = none)
    (config : ClientConfig) (path : String) {size : UInt64} (hlong : Bytes.maxLength < size.toNat) :
    ∃ answer, Trip.outcome device ⟨session, .openFile path .readOnly⟩ = some answer ∧
      (session.run device (openContents config path size)).1 = unbuffered answer ∧
      session.programTrips device (openContents config path size) =
        [⟨session, .openFile path .readOnly⟩] := by
  let opened := Trip.after device ⟨session, .openFile path .readOnly⟩
  obtain ⟨answer, hopen⟩ := Session.call_finishes device hpatient (.openFile path .readOnly)
  refine ⟨answer, hopen, ?_⟩
  rcases answer with error | handle
  · have hends : session.Finishes device (openContents config path size) _ (.error error) opened :=
      .call hopen (.done _)
    exact ⟨congrArg Prod.fst hends.run, hends.trips⟩
  · have hopening : session.Finishes device (openFile path .readOnly) _ (.ok handle) opened :=
      .call hopen (.done _)
    obtain ⟨hrun, htrips⟩ := hopening.run_bind fun handle => do
      if handle.isNull then return none
      else
        let contents ← readAll config handle size
        return some contents
    rw [openContents, hrun, htrips, unbuffered]
    cases handle.isNull with
    | true => exact ⟨rfl, rfl⟩
    | false =>
        rw [if_neg Bool.false_ne_true, if_neg Bool.false_ne_true, readAll, if_pos hlong]
        exact ⟨rfl, rfl⟩

theorem getContents_fetched (device : Device σ) (hpatient : session.givesUp = none)
    (config : ClientConfig) (path : String)
    (hcancelled : (session.run device (getContents config path)).2.cancelled = false) :
    Fetched device session config path (session.programTrips device (getContents config path))
      (session.run device (getContents config path)).1 := by
  let resolved := Trip.after device ⟨session, .fileInfo path⟩
  have hresolved : resolved.givesUp = none :=
    (session.call_keeps device (.fileInfo path)).1.trans hpatient
  obtain ⟨source, hresolve⟩ :=
    Session.finishes_once device hpatient (resolve_once path)
  rcases source with error | source
  · have hends : session.Finishes device (getContents config path) _ (.error error) resolved :=
      hresolve.andThen (.done _)
    rw [hends.run, hends.trips]
    exact .unresolved hresolve
  let described := Trip.after device ⟨resolved, .fileInfo source⟩
  have hdescribed : described.givesUp = none :=
    (resolved.call_keeps device (.fileInfo source)).1.trans hresolved
  obtain ⟨info, hstat⟩ := Session.finishes_once device hresolved (stat_once source)
  rcases info with error | info
  · have hends : session.Finishes device (getContents config path) _ (.error error) described :=
      hresolve.bind (hstat.andThen (.done _))
    rw [hends.run, hends.trips]
    exact .undescribed hresolve hstat
  obtain ⟨hrunLook, htripsLook⟩ := hresolve.run_bind fun source => do
    let info ← stat source
    let size ← ofResult (regularSize source info)
    openContents config source size
  obtain ⟨hrunSize, htripsSize⟩ := hstat.run_bind fun info => do
    let size ← ofResult (regularSize source info)
    openContents config source size
  have hlooked := hrunLook.trans hrunSize
  have hlooks := htripsLook.trans (congrArg _ htripsSize)
  cases hsize : regularSize source info with
  | error error =>
      rw [hsize] at hlooked hlooks
      have hrun : session.run device (getContents config path) =
          (.finished (.error error), described) := hlooked
      have htrips : session.programTrips device (getContents config path) =
          [⟨session, .fileInfo path⟩, ⟨resolved, .fileInfo source⟩] := hlooks
      rw [hrun, htrips]
      exact .unfit hresolve hstat hsize
  | ok size =>
      obtain ⟨found, rfl, hkind, hfound⟩ := regularSize_ok_iff.mp hsize
      rw [hsize] at hlooked hlooks
      have hrun : session.run device (getContents config path) =
          described.run device (openContents config source size) := hlooked
      have htrips : session.programTrips device (getContents config path) =
          ⟨session, .fileInfo path⟩ :: ⟨resolved, .fileInfo source⟩ ::
            described.programTrips device (openContents config source size) := hlooks
      rw [hrun] at hcancelled
      rw [hrun, htrips]
      by_cases hfits : size.toNat ≤ Bytes.maxLength
      · obtain ⟨trips, result, final, hopen, hhandled⟩ :=
          openContents_handled device hdescribed config source hfits
        rw [hopen.run] at hcancelled
        rw [hopen.run, hopen.trips]
        exact .opened hresolve hstat hkind hfound hfits (hhandled hcancelled)
      · have hlong := Nat.lt_of_not_le hfits
        obtain ⟨answer, hopen, hended, hopened⟩ :=
          openContents_tooLong device hdescribed config source hlong
        rw [hended, hopened]
        exact .tooLong hresolve hstat hkind hfound hlong hopen

/-- Reading and replacing the contents of a file close the handle that they were given, whatever
becomes of the transfer, and the failure of the transfer counts before that of closing.  Nothing is
opened but a regular file of a known size, and nothing is used or closed without a handle.  Only
reading may halt: with a handle for a file that is stated to be too long for any buffer, which then
stays open. -/
theorem whole_file_closed_last (device : Device σ) (session : Session σ) (config : ClientConfig)
    (path : String) (data : Bytes) (hpatient : session.givesUp = none) :
    ((session.run device (getContents config path)).2.cancelled = false →
      Fetched device session config path
        (session.programTrips device (getContents config path))
        (session.run device (getContents config path)).1) ∧
    ((session.run device (setContents config path data)).2.cancelled = false →
      ∃ result, (session.run device (setContents config path data)).1 = .finished result ∧
        Handled device session path .writeOnly (fun handle => write config handle data)
          (.error (.refused .openFailed "Failed to open file for writing")) id
          (session.programTrips device (setContents config path data)) result) := by
  refine ⟨getContents_fetched device hpatient config path, ?_⟩
  obtain ⟨stores, stored, afterStore, hstore, hhandled⟩ :=
    setContents_handled device hpatient config path data
  rw [hstore.run, hstore.trips]
  exact fun hcancelled => ⟨stored, rfl, hhandled hcancelled⟩

/-- A device that describes files as longer than they are and refuses to close them. -/
def cutShort : Device Unit where
  react _ request :=
    let reply := match request with
      | .fileInfo _ =>
          Script.reply .data (StringList.encode ["st_ifmt", "S_IFREG", "st_size", "3"])
      | .openFile _ _ => Script.wordReply .fileOpenResult 7
      | .read _ _ => Script.reply .data []
      | _ => Script.wordReply .status 10
    (.taken false [.bytes reply], ())

def cutShortSession : Session Unit :=
  .fresh { writeChunkSize := 0 } () (.empty "host") []

/-- A handle is closed after a file has ended early, and after nothing could be written; that the
closing fails too does not show. -/
theorem cut_short_closed_last :
    let config : ClientConfig := { writeChunkSize := 0 }
    let fetches := cutShortSession.programTrips cutShort (getContents config "/f")
    let stores := cutShortSession.programTrips cutShort (setContents config "/f" [1])
    fetches.map Trip.request = [.fileInfo "/f", .fileInfo "/f", .openFile "/f" .readOnly,
        .read ⟨7⟩ 3, .close ⟨7⟩] ∧
      Fetched cutShort cutShortSession config "/f" fetches
        (.finished (.error (.endOfStream 3 0))) ∧
      stores.map Trip.request = [.openFile "/f" .writeOnly, .close ⟨7⟩] ∧
      Handled cutShort cutShortSession "/f" .writeOnly (fun handle => write config handle [1])
        (.error (.refused .openFailed "Failed to open file for writing")) id stores
        (.error (.refused .invalidArgument "write chunk size must be greater than zero")) := by
  have hshort : (cutShortSession.run cutShort (getContents { writeChunkSize := 0 } "/f")).1 =
      .finished (.error (.endOfStream 3 0)) := by cbv
  have hunsplit :
      (cutShortSession.run cutShort (setContents { writeChunkSize := 0 } "/f" [1])).1 =
        .finished (.error (.refused .invalidArgument
          "write chunk size must be greater than zero")) := by cbv
  obtain ⟨hget, hset⟩ :=
    whole_file_closed_last cutShort cutShortSession { writeChunkSize := 0 } "/f" [1] (by cbv)
  have hfetch := hget (by cbv)
  obtain ⟨stored, hstored, hstore⟩ := hset (by cbv)
  rw [hshort] at hfetch
  obtain rfl := Outcome.finished.inj (hunsplit.symm.trans hstored)
  exact ⟨by cbv, hfetch, by cbv, hstore⟩

/-! ## A file that is too long -/

/-- A device that states a file to be one byte longer than any buffer, and would close it. -/
def tooLongSession : Session Script :=
  let entries := [Script.sized "9223372036854775808", Script.sized "9223372036854775808",
    Script.handle 7, Script.code 0]
  .fresh {} ⟨entries, 0, none, none, false⟩ (.empty "host") []

/-- The file is opened, and the run halts before it is read.  It is not closed, though the user has
not cancelled and the session is synchronized. -/
theorem too_long_left_open :
    let ran := tooLongSession.run Script.device (getContents {} "/f")
    let trips := tooLongSession.programTrips Script.device (getContents {} "/f")
    ran.1 = .halted .capacity ∧ ran.2.cancelled = false ∧ ran.2.desynchronized = false ∧
      trips.map Trip.request = [.fileInfo "/f", .fileInfo "/f", .openFile "/f" .readOnly] ∧
      trips.map (fun trip => (trip.round Script.device).opened?) = [none, none, some ⟨7⟩] := by
  refine ⟨?_, ?_, ?_, ?_, ?_⟩ <;> cbv

end Client

end FileConduit
