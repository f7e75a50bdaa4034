import FileConduit.Client.Transfer
import FileConduit.Proofs.Client.Fetching
import FileConduit.Proofs.Client.Removal.Ending
import FileConduit.Proofs.Program.Trace

/-!
# What a pull writes

The trace of a pull that succeeds falls apart into looks, listings and directories made, and copies
of files.  To copy a file is to be told its size, to open it, to read all of that size, to close it
and to write what was read; but a file for which the device hands out no handle is written empty.
-/

namespace FileConduit.Client

open Program

/-- Events of a pull that have to do with no contents. -/
inductive Surveys : Event → Prop where
  | look (path : String) (fields : InfoDictionary) :
      Surveys (.round ⟨.fileInfo path, some (.ok fields)⟩)
  | listing (path : String) (names : List String) :
      Surveys (.round ⟨.readDirectory path, some (.ok names)⟩)
  | directory (target : HostPath) : Surveys (.host (.makeDirectories target) (.ok ()))

inductive Reads (handle : Handle) : List Event → Bytes → Prop where
  | none : Reads handle [] []
  | more {size : UInt64} {data rest : Bytes} {events : List Event} (hdata : data ≠ [])
      (hrest : Reads handle events rest) :
      Reads handle (.round ⟨.read handle size, some (.ok data)⟩ :: events) (data ++ rest)

inductive Fetches : List Event → Option Bytes → Prop where
  | whole {path : String} {fields : InfoDictionary} {info : FileInfo} {size : UInt64}
      {handle : Handle} {reads : List Event} {contents : Bytes}
      (hinfo : FileInfo.ofDictionary fields = .ok info) (hkind : info.kind = some .regular)
      (hsize : info.size = some size) (hhandle : handle.isNull = false)
      (hreads : Reads handle reads contents) (hlength : contents.length = size.toNat) :
      Fetches (.round ⟨.fileInfo path, some (.ok fields)⟩ ::
        .round ⟨.openFile path .readOnly, some (.ok handle)⟩ ::
          (reads ++ [.round ⟨.close handle, some (.ok ())⟩])) (some contents)
  /-- The device hands out no handle. -/
  | unopened {path : String} {fields : InfoDictionary} {info : FileInfo} {size : UInt64}
      {handle : Handle} (hinfo : FileInfo.ofDictionary fields = .ok info)
      (hkind : info.kind = some .regular) (hsize : info.size = some size)
      (hhandle : handle.isNull = true) :
      Fetches [.round ⟨.fileInfo path, some (.ok fields)⟩,
        .round ⟨.openFile path .readOnly, some (.ok handle)⟩] none

/-- The events of copies that succeed: what is fetched of a file is written at once. -/
inductive Copies : List Event → Prop where
  | nil : Copies []
  | survey {event : Event} {rest : List Event} (hsurvey : Surveys event) (hrest : Copies rest) :
      Copies (event :: rest)
  | file {fetch rest : List Event} {contents : Option Bytes} (target : HostPath)
      (hfetch : Fetches fetch contents) (hrest : Copies rest) :
      Copies (fetch ++ .host (.write target (contents.getD [])) (.ok ()) :: rest)

theorem Copies.append {first rest : List Event} (hfirst : Copies first) (hrest : Copies rest) :
    Copies (first ++ rest) := by
  induction hfirst with
  | nil => exact hrest
  | survey hsurvey hlater ih => exact .survey hsurvey ih
  | file target hfetch hlater ih =>
      rw [List.append_assoc, List.cons_append]
      exact .file target hfetch ih

def Frugal (events : List Event) : Prop :=
  ∀ (handle : Handle) (size : UInt64) (data : Bytes),
    .round ⟨.read handle size, some (.ok data)⟩ ∈ events → data.length ≤ size.toNat

theorem Frugal.subset {events more : List Event} (hfrugal : Frugal more)
    (hsubset : events ⊆ more) : Frugal events :=
  fun handle size data hdata => hfrugal handle size data (hsubset hdata)

section

variable {path : String} {events : List Event} {handle : Handle} {config : ClientConfig}

/-! ## The parts of a step -/

theorem stat_traces {info : Option FileInfo}
    (htraces : Traces (stat path) events (.finished (.ok info))) :
    ∃ fields, events = [.round ⟨.fileInfo path, some (.ok fields)⟩] ∧
      ∀ known, info = some known → FileInfo.ofDictionary fields = .ok known := by
  cases htraces with
  | @answered _ _ answer _ _ hnext =>
      dsimp only at hnext
      split at hnext
      · cases hnext
      · cases hnext
      · rename_i fields
        refine ⟨fields, ?_⟩
        split at hnext
        · cases hnext
          exact ⟨rfl, by simp⟩
        · split at hnext
          · rename_i known hread
            cases hnext
            refine ⟨rfl, fun other hother => ?_⟩
            cases hother
            exact hread
          · cases hnext

theorem resolve_traces {source : String}
    (htraces : Traces (resolve path) events (.finished (.ok source))) :
    ∃ fields, events = [.round ⟨.fileInfo path, some (.ok fields)⟩] := by
  obtain ⟨first, rest, info, rfl, hstat, hrest⟩ := Traces.of_bind htraces
  obtain ⟨fields, rfl, -⟩ := stat_traces hstat
  refine ⟨fields, ?_⟩
  -- What follows the look only computes.
  split at hrest
  · cases hrest
    rfl
  · split at hrest
    · split at hrest
      · cases hrest
        rfl
      · cases hrest
    · cases hrest
      rfl

theorem isDirectory_traces {directory : Bool}
    (htraces : Traces (isDirectory path) events (.finished (.ok directory))) :
    ∃ fields, events = [.round ⟨.fileInfo path, some (.ok fields)⟩] := by
  obtain ⟨first, rest, info, rfl, hstat, hrest⟩ := Traces.of_bind htraces
  obtain ⟨fields, rfl, -⟩ := stat_traces hstat
  cases hrest
  exact ⟨fields, rfl⟩

theorem thenClose_traces {α : Type} {program : Program α} {value : α}
    (htraces : Traces (thenClose handle program) events (.finished (.ok value))) :
    ∃ first, events = first ++ [.round ⟨.close handle, some (.ok ())⟩] ∧
      Traces program first (.finished (.ok value)) := by
  obtain ⟨first, rest, result, rfl, hprogram, hrest⟩ := Traces.of_andThen htraces
  obtain ⟨close, last, closed, rfl, hclose, hlast⟩ := Traces.of_andThen hrest
  rcases result with error | result
  · cases hlast
  · rcases closed with error | closed
    · cases hlast
    · cases hlast
      refine ⟨first, ?_, hprogram⟩
      rw [Traces.of_request hclose, List.append_nil]

theorem readRemaining_traces (remaining : Nat) :
    ∀ {received contents : Bytes} {events : List Event}, Frugal events →
      Traces (readRemaining config handle received remaining) events
        (.finished (.ok contents)) →
      ∃ data, contents = received ++ data ∧ Reads handle events data ∧ data.length = remaining := by
  -- Each answer that is not empty makes what remains shorter.
  induction remaining using Nat.strongRecOn with
  | ind remaining ih =>
      intro received contents events hfrugal htraces
      rw [readRemaining] at htraces
      split at htraces
      · rename_i hnone
        cases htraces
        exact ⟨[], (List.append_nil _).symm, .none, hnone.symm⟩
      · cases htraces with
        | @answered _ _ answer rest _ hnext =>
            rcases answer with error | _ | ⟨byte, data⟩
            · cases hnext
            · cases hnext
            · have hsize := toNat_readSize config remaining
              have hbrought : (byte :: data).length ≤
                  (UInt64.ofNat (readSize config remaining)).toNat :=
                hfrugal handle _ _ List.mem_cons_self
              have hlater : Frugal rest := hfrugal.subset (List.subset_cons_self _ _)
              rw [List.length_cons] at hbrought
              obtain ⟨later, rfl, hreads, hlength⟩ := ih _ (by omega) hlater hnext
              refine ⟨byte :: data ++ later, ?_, .more (by simp) hreads, ?_⟩
              · rw [List.append_assoc]
              · rw [List.length_append, List.length_cons, hlength]
                omega

/-- A file that is read whole is closed; its length is one that a buffer can have. -/
theorem readAll_traces {size : UInt64} {contents : Bytes}
    (htraces : Traces (readAll config handle size) events (.finished (.ok contents))) :
    ∃ reads, events = reads ++ [.round ⟨.close handle, some (.ok ())⟩] ∧
      Traces (read config handle size.toNat) reads (.finished (.ok contents)) := by
  unfold readAll at htraces
  split at htraces
  · cases htraces
  · exact thenClose_traces htraces

theorem getContents_traces {contents : Option Bytes} (hfrugal : Frugal events)
    (htraces : Traces (getContents config path) events (.finished (.ok contents))) :
    ∃ look fetch, events = look :: fetch ∧ Surveys look ∧ Fetches fetch contents := by
  obtain ⟨first, rest, source, rfl, hresolve, hresolved⟩ := Traces.of_bind htraces
  obtain ⟨second, rest, info, rfl, hstat, hseen⟩ := Traces.of_bind hresolved
  obtain ⟨third, rest, size, rfl, hsize, hsized⟩ := Traces.of_bind hseen
  obtain ⟨fourth, rest, handle, rfl, hopen, hopened⟩ := Traces.of_bind hsized
  obtain ⟨hop, rfl⟩ := resolve_traces hresolve
  obtain ⟨fields, rfl, hfields⟩ := stat_traces hstat
  cases Traces.of_request hopen
  refine ⟨_, _, rfl, .look path hop, ?_⟩
  generalize hregular : regularSize source info = regular at hsize
  cases hsize
  obtain ⟨known, hknown, hkind, hstated⟩ : ∃ known, info = some known ∧
      known.kind = some .regular ∧ known.size = some size := by
    unfold regularSize at hregular
    split at hregular
    · cases hregular
    · rename_i hkind
      obtain ⟨known, hknown, hkind⟩ := Option.bind_eq_some_iff.mp hkind
      split at hregular
      · rename_i stated hstated
        cases hregular
        rw [hknown] at hstated
        exact ⟨known, hknown, hkind, hstated⟩
      · cases hregular
    · cases hregular
  have hinfo := hfields known hknown
  cases hnull : handle.isNull with
  | true =>
      rw [if_pos hnull] at hopened
      cases hopened
      exact .unopened hinfo hkind hstated hnull
  | false =>
      rw [if_neg (by rw [hnull]; exact Bool.false_ne_true)] at hopened
      obtain ⟨reading, last, data, rfl, hread, hlast⟩ := Traces.of_bind hopened
      cases hlast
      obtain ⟨reads, rfl, hreads⟩ := readAll_traces hread
      have hreading : Frugal reads := hfrugal.subset fun event hevent => by simp [hevent]
      obtain ⟨brought, rfl, hbrought, hlength⟩ := readRemaining_traces size.toNat hreading hreads
      rw [List.append_nil]
      exact .whole hinfo hkind hstated hnull hbrought hlength

/-! ## Steps and runs -/

theorem step_copies {pull : Pull} {next : Option Pull} (hfrugal : Frugal events)
    (htraces : Traces (Pull.step config pull) events (.finished (.ok next))) : Copies events := by
  unfold Pull.step at htraces
  split at htraces
  · cases htraces
    exact .nil
  · obtain ⟨stop, rest, _, rfl, hstop, hstarted⟩ := Traces.of_bind htraces
    obtain ⟨first, rest, source, rfl, hresolve, hresolved⟩ := Traces.of_bind hstarted
    obtain ⟨second, rest, directory, rfl, hlook, hlooked⟩ := Traces.of_bind hresolved
    cases Traces.of_stopIfCancelled hstop
    obtain ⟨hop, rfl⟩ := resolve_traces hresolve
    obtain ⟨fields, rfl⟩ := isDirectory_traces hlook
    refine .survey (.look _ hop) (.survey (.look source fields) ?_)
    by_cases hdirectory : directory = true
    · rw [if_pos hdirectory] at hlooked
      obtain ⟨third, rest, _, rfl, hmake, hmade⟩ := Traces.of_bind hlooked
      cases Traces.of_onHost hmake
      refine .survey (.directory _) ?_
      by_cases hvisited : source ∈ pull.visited
      · rw [if_pos hvisited] at hmade
        cases hmade
        exact .nil
      · rw [if_neg hvisited] at hmade
        obtain ⟨fourth, rest, names, rfl, hlist, hlisted⟩ := Traces.of_bind hmade
        cases Traces.of_request hlist
        cases hlisted
        exact .survey (.listing source names) .nil
    · rw [if_neg hdirectory] at hlooked
      obtain ⟨third, rest, contents, rfl, hget, hgot⟩ := Traces.of_bind hlooked
      obtain ⟨fourth, rest, _, rfl, hwrite, hwritten⟩ := Traces.of_bind hgot
      cases Traces.of_onHost hwrite
      cases hwritten
      have hgetting : Frugal third := hfrugal.subset fun event hevent => by simp [hevent]
      obtain ⟨look, fetch, rfl, hsurvey, hfetch⟩ := getContents_traces hgetting hget
      exact .survey hsurvey (.file _ hfetch .nil)

theorem steps_copies (steps : Nat) :
    ∀ {pull : Pull} {events : List Event}, Frugal events →
      Traces (repeatUntilNone (Pull.step config) steps pull) events (.finished (.ok ())) →
      Copies events := by
  induction steps with
  | zero =>
      intro pull events hfrugal htraces
      cases htraces
  | succ steps ih =>
      intro pull events hfrugal htraces
      obtain ⟨first, rest, next, rfl, hstep, hrest⟩ := Traces.of_bind htraces
      have hfirst := step_copies (hfrugal.subset (List.subset_append_left _ _)) hstep
      cases next with
      | none =>
          cases hrest
          exact hfirst.append .nil
      | some next =>
          exact hfirst.append (ih (hfrugal.subset (List.subset_append_right _ _)) hrest)

end

end FileConduit.Client

namespace FileConduit

/-- However the device answers, what a pull that succeeds has written of each file is all that the
reads of the file brought, which is as much as the device stated; or it is nothing, if the device
handed out no handle.  Whatever a pull asked of a file has succeeded. -/
theorem pull_writes_contents {σ : Type} (device : Device σ) (session : Session σ)
    (config : ClientConfig) (steps : Nat) (remote : String) (directory : HostPath)
    (houtcome : (session.run device (Client.pull config steps remote directory)).1 =
      .finished (.ok ())) :
    Client.Copies (session.events device (Client.pull config steps remote directory)) := by
  have htraces := session.run_traces device (Client.pull config steps remote directory)
  rw [houtcome] at htraces
  exact Client.steps_copies steps (fun handle size data => session.length_read_le device _) htraces

/-! ## Scripted sessions -/

def HostTree.withOut : HostTree :=
  ⟨"host", [(["host", "out"], .directory)]⟩

/-- The device states a size of three bytes and hands the file out in two pieces. -/
def Script.readsTwice : Session Script :=
  .fresh {} ⟨[sized "3", sized "3", sized "3", sized "3", handle 7, data [1, 2], data [3], code 0],
    0, none, none, false⟩ .withOut []

/-- The pieces are written together. -/
theorem pull_writes_pieces :
    Client.Copies
      (Script.readsTwice.events Script.device (Client.pull {} 2 "/f" ⟨["out"]⟩)) ∧
    (Script.readsTwice.run Script.device (Client.pull {} 2 "/f" ⟨["out"]⟩)).2.host.get?
      ["host", "out", "f"] = some (.file [1, 2, 3]) :=
  ⟨pull_writes_contents Script.device Script.readsTwice {} 2 "/f" ⟨["out"]⟩ (by cbv), by cbv⟩

/-- The device states a size of three bytes, and hands out no handle. -/
def Script.opensNothing : Session Script :=
  .fresh {} ⟨[sized "3", sized "3", sized "3", sized "3", handle 0], 0, none, none, false⟩
    .withOut []

def threeBytes : InfoDictionary :=
  ⟨[("st_size", "3"), ("st_ifmt", "S_IFREG")]⟩

/-- The pull succeeds all the same, and writes an empty file. -/
theorem pull_writes_unopened :
    (FileInfo.ofDictionary threeBytes).map FileInfo.size = .ok (some 3) ∧
    Script.opensNothing.events Script.device (Client.pull {} 2 "/f" ⟨["out"]⟩) =
      [.round ⟨.fileInfo "/f", some (.ok threeBytes)⟩,
        .round ⟨.fileInfo "/f", some (.ok threeBytes)⟩,
        .round ⟨.fileInfo "/f", some (.ok threeBytes)⟩,
        .round ⟨.fileInfo "/f", some (.ok threeBytes)⟩,
        .round ⟨.openFile "/f" .readOnly, some (.ok ⟨0⟩)⟩,
        .host (.write ⟨["out", "f"]⟩ []) (.ok ())] ∧
    (Script.opensNothing.run Script.device (Client.pull {} 2 "/f" ⟨["out"]⟩)).1 =
      .finished (.ok ()) := by
  refine ⟨?_, ?_, ?_⟩ <;> cbv

end FileConduit
