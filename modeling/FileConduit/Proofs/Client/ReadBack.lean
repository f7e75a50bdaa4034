import FileConduit.Proofs.Client.Pull.Contents
import FileConduit.Proofs.Device.Framed

/-!
# What is written is read back

With a device that keeps files, the contents that a file is given are those that it is found to
have, whatever the sizes of the chunks and of the reads.  Each of the two operations opens one
handle and closes it when all has been done with it.
-/

namespace FileConduit

open Program

namespace Client

variable {config : ClientConfig} {path : String} {handle : Handle} {events : List Event}

/-! ## The trace of a file that is stored -/

inductive Writes (handle : Handle) : List Event → Bytes → Prop where
  | none : Writes handle [] []
  | more {chunk : WriteChunk} {rest : Bytes} {events : List Event}
      (hhandle : chunk.handle = handle) (hdata : chunk.data ≠ [])
      (hrest : Writes handle events rest) :
      Writes handle (.round ⟨.write chunk, some (.ok ())⟩ :: events) (chunk.data ++ rest)

inductive Saves (path : String) (data : Bytes) : List Event → Prop where
  | saved {writes : List Event} {handle : Handle} (hhandle : handle.isNull = false)
      (hwrites : Writes handle writes data) :
      Saves path data (.round ⟨.openFile path .writeOnly, some (.ok handle)⟩ ::
        (writes ++ [.round ⟨.close handle, some (.ok ())⟩]))

theorem sendChunks_traces {chunks : List WriteChunk}
    (hchunks : ∀ chunk ∈ chunks, chunk.handle = handle ∧ chunk.data ≠ []) :
    ∀ {events : List Event}, Traces (sendChunks chunks) events (.finished (.ok ())) →
      Writes handle events (chunks.flatMap WriteChunk.data) := by
  induction chunks with
  | nil =>
      intro events htraces
      cases htraces
      exact .none
  | cons chunk chunks ih =>
      intro events htraces
      obtain ⟨hhandle, hdata⟩ := hchunks chunk List.mem_cons_self
      obtain ⟨first, rest, _, rfl, hwrite, hrest⟩ := Traces.of_bind htraces
      cases Traces.of_request hwrite
      have hlater : ∀ other ∈ chunks, other.handle = handle ∧ other.data ≠ [] :=
        fun other hother => hchunks other (List.mem_cons_of_mem _ hother)
      rw [List.flatMap_cons]
      exact .more hhandle hdata (ih hlater hrest)

theorem write_traces (hsize : 0 < config.writeChunkSize.toNat) {data : Bytes}
    (htraces : Traces (write config handle data) events (.finished (.ok ()))) :
    Writes handle events data := by
  obtain ⟨chunks, hchunks, hdata, heach⟩ := WriteChunk.ofData_eq handle hsize data
  rw [write, writeChunked, hchunks] at htraces
  obtain ⟨first, rest, _, rfl, hnone, hcut⟩ := Traces.of_bind htraces
  obtain ⟨second, rest, _, rfl, hstop, hsend⟩ := Traces.of_bind hcut
  cases hnone
  cases Traces.of_stopIfCancelled hstop
  rw [← hdata]
  exact sendChunks_traces heach hsend

theorem setContents_traces (hsize : 0 < config.writeChunkSize.toNat) {data : Bytes}
    (htraces : Traces (setContents config path data) events (.finished (.ok ()))) :
    Saves path data events := by
  obtain ⟨first, rest, handle, rfl, hopen, hopened⟩ := Traces.of_bind htraces
  cases Traces.of_request hopen
  cases hnull : handle.isNull with
  | true =>
      rw [if_pos hnull] at hopened
      cases hopened
  | false =>
      rw [if_neg (by rw [hnull]; exact Bool.false_ne_true)] at hopened
      obtain ⟨writes, rfl, hwrites⟩ := thenClose_traces hopened
      exact .saved hnull (write_traces hsize hwrites)

/-! ## With a device that keeps files -/

section

variable {σ : Type} (device : KeepingDevice σ) {place : Place} {contents : Bytes}

/-- The contents of a file are handed out from any position, and nothing else happens to what the
device holds or to the handles in use. -/
theorem handsOut_held (held : Place → Option HostEntry) (used : Handle → Option Cursor)
    (hheld : held place = some (.file contents)) (handle : Handle) :
    HandsOut device.responder handle fun state rest =>
      device.held state = held ∧ ∃ position, rest = contents.drop position ∧
        device.opened state = Function.update used handle (some ⟨place, .readOnly, position⟩) := by
  rintro state _ size ⟨hstate, position, rfl, hused⟩ hrest hsize
  have hposition : position < contents.length := by
    by_contra hend
    exact hrest (List.drop_eq_nil_iff.mpr (Nat.le_of_not_lt hend))
  have hopened : device.opened state handle = some ⟨place, .readOnly, position⟩ := by
    rw [hused, Function.update_self]
  obtain ⟨data, after, ⟨more, hmore⟩, hdata, hlength, hrespond, hkept, hmoved⟩ :=
    device.reads state hopened (by rw [hstate, hheld]) hposition hsize
  refine ⟨data, more, after, hmore.symm, hdata, hlength, hrespond, hkept.trans hstate,
    position + data.length, ?_, ?_⟩
  · rw [← List.drop_drop, ← hmore, List.drop_left]
  · rw [hmoved, hused, Function.update_idem]

/-- A file that is fetched is given whole, and stays as it is. -/
theorem getContents_kept (hread : 0 < config.maxReadSize.toNat)
    (hlocate : device.locate path = some place) (hlength : contents.length ≤ Bytes.maxLength)
    (world : World σ) (hheld : device.held world.device place = some (.file contents))
    (hadmits : device.admits (device.opened world.device)) :
    ∃ requests after, Ends device.responder (getContents config path) world (.ok (some contents))
        requests { world with device := after } ∧
      device.held after = device.held world.device ∧
      device.opened after = device.opened world.device := by
  have hword : contents.length < UInt64.size := Nat.lt_of_le_of_lt hlength (by decide)
  obtain ⟨about, first, hresolve, habout, -, hfirst, hused⟩ :=
    device.describes world.device hlocate hheld hword
  obtain ⟨again, second, hstat, hagain, hsize, hsecond, hstill⟩ :=
    device.describes first hlocate (by rw [hfirst, hheld]) hword
  rw [hfirst] at hsecond
  rw [hused] at hstill
  obtain ⟨handle, third, hopen, hnull, hfree, hthird, hinUse⟩ :=
    device.opensToRead second hlocate (by rw [hsecond, hheld]) (by rw [hstill]; exact hadmits)
  rw [hsecond] at hthird
  have hwhole : contents.length = (UInt64.ofNat contents.length).toNat := by
    rw [UInt64.toNat_ofNat', Nat.mod_eq_of_lt hword]
  obtain ⟨requests, fourth, hreading, hfourth, position, -, hend⟩ := readRemaining_ends hread
    (handsOut_held device (device.held world.device) (device.opened second) hheld handle) _
    { world with device := third } [] hwhole ⟨hthird, 0, rfl, hinUse⟩
  obtain ⟨last, hclose, hlast, hclosed⟩ :=
    device.closes fourth (by rw [hend, Function.update_self])
  refine ⟨_, last, getContents_opened hresolve habout hstat hagain hsize (hwhole ▸ hlength)
    hopen hnull hreading hclose, hlast.trans hfourth, ?_⟩
  rw [hclosed, hend, Function.update_idem, ← hfree, Function.update_eq_self, hstill]

end

end Client

variable {σ : Type}

/-- With a device that keeps files, a file that is given contents, which must fit in a buffer, is
then found to have them, and nothing else has changed on the device.  Giving it contents and finding
them opens one handle each; and either handle is closed once, after all that is done with it. -/
theorem contents_read_back (device : KeepingDevice σ) (config : ClientConfig)
    (hwrite : 0 < config.writeChunkSize.toNat) (hread : 0 < config.maxReadSize.toNat)
    (channel : Device σ)
    (hanswers : channel.AnswersTo config device.responder fun request =>
      request.Storing ∨ request.Fetching config)
    (session : Session σ) (hready : session.Ready config)
    (hadmits : device.admits (device.opened session.device)) (path name : String) (holder : Place)
    (hlocate : device.locate path = some (holder ++ [name]))
    (hholder : device.held session.device holder = some .directory)
    (hreplaced : Replaceable (device.held session.device (holder ++ [name])))
    (data : Bytes) (hdata : data.length ≤ Bytes.maxLength) :
    let stored := session.run channel (Client.setContents config path data)
    let fetched := stored.2.run channel (Client.getContents config path)
    stored.1 = .finished (.ok ()) ∧ fetched.1 = .finished (.ok (some data)) ∧
      device.held stored.2.device =
        Function.update (device.held session.device) (holder ++ [name]) (some (.file data)) ∧
      device.held fetched.2.device = device.held stored.2.device ∧
      device.opened stored.2.device = device.opened session.device ∧
      device.opened fetched.2.device = device.opened session.device ∧
      Client.Saves path data (session.events channel (Client.setContents config path data)) ∧
      ∃ look fetch, stored.2.events channel (Client.getContents config path) = look :: fetch ∧
        Client.Surveys look ∧ Client.Fetches fetch (some data) := by
  intro stored fetched
  obtain ⟨storing, middle, hset, hstores, hheld, hopened⟩ :=
    Client.setContents_ends device.toStoringDevice hwrite hlocate data
      ⟨session.device, session.host⟩ hholder hreplaced hadmits
  obtain ⟨hstored, hplayed⟩ := Session.run_ends_asked hanswers hready hset fun request hrequest =>
    .inl (hstores.storing request hrequest)
  have hmiddle : stored.2.device = middle := hplayed.device
  have hready' : stored.2.Ready config := by
    rw [← hready.config]
    exact hplayed.ready
  obtain ⟨fetching, after, hget, hkept, hclosed⟩ := Client.getContents_kept device hread hlocate
    hdata ⟨stored.2.device, stored.2.host⟩
    (by rw [hmiddle, hheld, Function.update_self]) (by rw [hmiddle, hopened]; exact hadmits)
  obtain ⟨hfetched, hdone⟩ := Session.run_ends_asked hanswers hready' hget fun request hrequest =>
    .inr ((Client.getContents_only config path).ends hget request hrequest)
  have hafter : fetched.2.device = after := hdone.device
  have hsaves := session.run_traces channel (Client.setContents config path data)
  have hfetches := stored.2.run_traces channel (Client.getContents config path)
  rw [hstored] at hsaves
  rw [hfetched] at hfetches
  rw [hmiddle] at hkept hclosed ⊢
  rw [hafter]
  refine ⟨hstored, hfetched, hheld, hkept, hopened, hclosed.trans hopened, ?_, ?_⟩
  · exact Client.setContents_traces hwrite hsaves
  · exact Client.getContents_traces (fun _ _ _ => stored.2.length_read_le channel _) hfetches

/-! ## A file that is replaced -/

def Memory.twoFiles : Memory where
  held place :=
    if place = [] then some .directory
    else if place = ["f"] then some (.file [9, 9, 9, 9, 9, 9])
    else if place = ["g"] then some (.file [8])
    else none
  cursor := none

def Memory.inPairs : KeepingDevice Memory :=
  .memory .plain (show 0 < 2 by decide)

/-- The file gets five bytes in chunks of two bytes; they are asked for by three bytes and come by
two at most.  The other file stays. -/
theorem contents_read_back_shorter :
    let config : ClientConfig := { writeChunkSize := 2, maxReadSize := 3 }
    let channel := Memory.inPairs.responder.fileDevice
    let stored := (Session.fresh config Memory.twoFiles (.empty "host") []).run channel
      (Client.setContents config "/f" [1, 2, 3, 4, 5])
    let fetched := stored.2.run channel (Client.getContents config "/f")
    stored.1 = .finished (.ok ()) ∧ fetched.1 = .finished (.ok (some [1, 2, 3, 4, 5])) ∧
      Memory.inPairs.held fetched.2.device ["f"] = some (.file [1, 2, 3, 4, 5]) ∧
      Memory.inPairs.held fetched.2.device ["g"] = some (.file [8]) := by
  intro config channel stored fetched
  have hanswers : channel.AnswersTo config Memory.inPairs.responder fun request =>
      request.Storing ∨ request.Fetching config :=
    Responder.fileDevice_answersTo fun memory request =>
      Memory.keeper_framed (by decide) (by decide) .plain memory
  obtain ⟨hstored, hfetched, hheld, hkept, -⟩ := contents_read_back Memory.inPairs config
    (by decide) (by decide) channel hanswers
    (Session.fresh config Memory.twoFiles (.empty "host") [])
    (Session.fresh_ready config Memory.twoFiles (.empty "host")) rfl "/f" "f" [] (by cbv) rfl
    (.inr ⟨[9, 9, 9, 9, 9, 9], rfl⟩) [1, 2, 3, 4, 5] (by decide)
  rw [hheld] at hkept
  refine ⟨hstored, hfetched, ?_, ?_⟩
  · rw [hkept]
    rfl
  · rw [hkept]
    rfl

end FileConduit
