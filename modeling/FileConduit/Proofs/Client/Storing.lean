import FileConduit.Client.Transfer
import FileConduit.Proofs.Device.Keeping
import FileConduit.Proofs.Request.Chunk

/-!
# Storing the contents of a file

What it takes to replace the contents of a file or to make a directory, on a device to which files
can be written: the requests, and what they leave, whatever the size of the chunks.
-/

namespace FileConduit

inductive Request.Storing : Request → Prop where
  | openFile (path : String) : Storing (.openFile path .writeOnly)
  | write (chunk : WriteChunk) : Storing (.write chunk)
  | close (handle : Handle) : Storing (.close handle)

namespace Client

open Program

variable {σ : Type} {config : ClientConfig} {path name : String} {place holder : Place}

section

variable (device : StoringDevice σ)

/-- Chunks that are sent to an open file are put behind one another. -/
theorem sendChunks_ends {handle : Handle} (chunks : List WriteChunk)
    (hchunks : ∀ chunk ∈ chunks, chunk.handle = handle ∧ chunk.data ≠ []) :
    ∀ (world : World σ) (contents : Bytes),
      device.opened world.device handle = some ⟨place, .writeOnly, contents.length⟩ →
      device.held world.device place = some (.file contents) →
      let written := contents ++ chunks.flatMap WriteChunk.data
      ∃ after, Ends device.responder (sendChunks chunks) world (.ok ()) (chunks.map .write)
          { world with device := after } ∧
        device.held after =
          Function.update (device.held world.device) place (some (.file written)) ∧
        device.opened after = Function.update (device.opened world.device) handle
          (some ⟨place, .writeOnly, written.length⟩) := by
  induction chunks with
  | nil =>
      intro world contents hopened hheld written
      have hwritten : written = contents := List.append_nil contents
      refine ⟨world.device, .done _ _, ?_, ?_⟩
      · rw [hwritten, ← hheld, Function.update_eq_self]
      · rw [hwritten, ← hopened, Function.update_eq_self]
  | cons chunk chunks ih =>
      intro world contents hopened hheld written
      obtain ⟨rfl, hdata⟩ := hchunks chunk List.mem_cons_self
      obtain ⟨first, hwrite, hstored, hmoved⟩ := device.writes world.device hopened hheld hdata
      rw [spliced_end] at hstored
      rw [← List.length_append] at hmoved
      obtain ⟨after, hends, hafter, hcursor⟩ :=
        ih (fun other hother => hchunks other (List.mem_cons_of_mem _ hother))
          { world with device := first } (contents ++ chunk.data)
          (by rw [hmoved, Function.update_self]) (by rw [hstored, Function.update_self])
      have hwritten : contents ++ chunk.data ++ chunks.flatMap WriteChunk.data = written := by
        rw [List.append_assoc, ← List.flatMap_cons]
      have hrequest : Ends device.responder (Program.request (.write chunk)) world (.ok ())
          [.write chunk] { world with device := first } := .request hwrite
      refine ⟨after, hrequest.bind hends, ?_, ?_⟩
      · rw [hafter, hwritten]
        show Function.update (device.held first) place _ = _
        rw [hstored, Function.update_idem]
      · rw [hcursor, hwritten]
        show Function.update (device.opened first) chunk.handle _ = _
        rw [hmoved, Function.update_idem]

inductive Stores (config : ClientConfig) (path : String) (data : Bytes) : List Request → Prop where
  | stored (handle : Handle) {chunks : List WriteChunk} (hhandle : handle.isNull = false)
      (hchunks : WriteChunk.ofData handle config.writeChunkSize.toNat data = .ok chunks) :
      Stores config path data
        (.openFile path .writeOnly :: (chunks.map .write ++ [.close handle]))

theorem Stores.storing {data : Bytes} {requests : List Request}
    (hstores : Stores config path data requests) : ∀ request ∈ requests, request.Storing := by
  intro request hrequest
  cases hstores with
  | stored handle hhandle hchunks =>
      simp only [List.mem_cons, List.mem_append, List.mem_map, List.not_mem_nil, or_false]
        at hrequest
      rcases hrequest with rfl | ⟨chunk, -, rfl⟩ | rfl
      · exact .openFile path
      · exact .write chunk
      · exact .close handle

/-- A file that is written and closed holds the data, and the handles in use are as they were. -/
theorem setContents_ends (hsize : 0 < config.writeChunkSize.toNat)
    (hlocate : device.locate path = some (holder ++ [name]))
    (data : Bytes) (world : World σ) (hholder : device.held world.device holder = some .directory)
    (hreplaced : Replaceable (device.held world.device (holder ++ [name])))
    (hadmits : device.admits (device.opened world.device)) :
    ∃ requests after, Ends device.responder (setContents config path data) world (.ok ()) requests
        { world with device := after } ∧
      Stores config path data requests ∧
      device.held after =
        Function.update (device.held world.device) (holder ++ [name]) (some (.file data)) ∧
      device.opened after = device.opened world.device := by
  obtain ⟨handle, first, hopen, hnull, hfree, hemptied, hfirst⟩ :=
    device.opens world.device hlocate hholder hreplaced hadmits
  obtain ⟨chunks, hchunks, hdata, heach⟩ := WriteChunk.ofData_eq handle hsize data
  obtain ⟨second, hsend, hstored, hsecond⟩ :=
    sendChunks_ends device chunks heach { world with device := first } []
      (by rw [hfirst, Function.update_self]; rfl) (by rw [hemptied, Function.update_self])
  rw [List.nil_append, hdata] at hstored hsecond
  obtain ⟨last, hclose, hkept, hlast⟩ :=
    device.closes second (by rw [hsecond, Function.update_self])
  have hopening : Ends device.responder (openFile path .writeOnly) world (.ok handle)
      [.openFile path .writeOnly] { world with device := first } := .request hopen
  have hclosing : Ends device.responder (close handle) { world with device := second } (.ok ())
      [.close handle] { world with device := last } := .call hclose (.done _ _)
  have hchunked : Ends device.responder
      (ofResult (WriteChunk.ofData handle config.writeChunkSize.toNat data))
      { world with device := first } (.ok chunks) [] { world with device := first } := by
    rw [hchunks]
    exact .done _ _
  have hstop := Ends.stopIfCancelled device.responder { world with device := first }
  have hwriting : Ends device.responder (write config handle data) { world with device := first }
      (.ok ()) (chunks.map .write) { world with device := second } :=
    hchunked.bind (hstop.bind hsend)
  have hstoring : Ends device.responder (thenClose handle (write config handle data))
      { world with device := first } (.ok ()) (chunks.map .write ++ [.close handle])
      { world with device := last } := hwriting.andThen (hclosing.andThen (.done _ _))
  refine ⟨_, last, hopening.bind (by
    rw [if_neg (by rw [hnull]; exact Bool.false_ne_true)]
    exact hstoring), .stored handle hnull hchunks, ?_, ?_⟩
  · rw [hkept, hstored, hemptied, Function.update_idem]
  · rw [hlast, hsecond, Function.update_idem, hfirst, Function.update_idem, ← hfree,
      Function.update_eq_self]

end

/-- A directory is made, or kept if it is there. -/
theorem ensureDirectory_ends {device : WritableDevice σ}
    (hlocate : device.locate path = some (holder ++ [name]))
    (world : World σ) (hholder : device.held world.device holder = some .directory)
    (hheld : device.held world.device (holder ++ [name]) = none ∨
      device.held world.device (holder ++ [name]) = some .directory) :
    ∃ after, Ends device.responder (Push.ensureDirectory path) world (.ok ())
        [.makeDirectory path] { world with device := after } ∧
      device.held after =
        Function.update (device.held world.device) (holder ++ [name]) (some .directory) ∧
      device.opened after = device.opened world.device := by
  rcases hheld with hnone | hpresent
  · obtain ⟨after, hrespond, hmade, hopened⟩ := device.makes world.device hlocate hholder hnone
    have hmake : Ends device.responder (makeDirectory path) world (.ok ())
        [.makeDirectory path] { world with device := after } := .request hrespond
    exact ⟨after, hmake.andThen (.done _ _), hmade, hopened⟩
  · obtain ⟨after, hrespond, hkept, hopened⟩ := device.keeps world.device hlocate hpresent
    have hmake : Ends device.responder (makeDirectory path) world
        (.error (.reply (.status .objectExists))) [.makeDirectory path]
        { world with device := after } := .request hrespond
    refine ⟨after, hmake.andThen (.done _ _), ?_, hopened⟩
    rw [hkept, ← hpresent, Function.update_eq_self]

end Client

end FileConduit
