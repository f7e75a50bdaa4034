import FileConduit.Proofs.Client.Path
import FileConduit.Proofs.Device.Readable

/-!
# Fetching the contents of a file

Which requests the fetching of a file can make, whatever it is answered; and what it gives with a
device that can be read, however small the pieces are in which the contents come.
-/

namespace FileConduit

inductive Request.Fetching (config : ClientConfig) : Request → Prop where
  | fileInfo (path : String) : Fetching config (.fileInfo path)
  | openFile (path : String) : Fetching config (.openFile path .readOnly)
  | read (handle : Handle) {size : UInt64} (hsize : size.toNat ≤ config.maxReadSize.toNat) :
      Fetching config (.read handle size)
  | close (handle : Handle) : Fetching config (.close handle)

namespace Client

open Program

theorem toNat_readSize (config : ClientConfig) (wanted : Nat) :
    (UInt64.ofNat (readSize config wanted)).toNat = min wanted config.maxReadSize.toNat := by
  have hbound : config.maxReadSize.toNat < 2 ^ 64 := config.maxReadSize.toNat_lt
  rw [UInt64.toNat_ofNat', readSize]
  exact Nat.mod_eq_of_lt (by omega)

/-! ## Requests -/

section

variable {config : ClientConfig} {handle : Handle} {causes : List Halt}

theorem stat_only {allowed : Request → Prop} {path : String}
    (hallowed : allowed (.fileInfo path)) : Only allowed causes (stat path) := by
  refine ⟨hallowed, fun answer => ?_⟩
  dsimp only
  split
  · trivial
  · trivial
  · split
    · trivial
    · split <;> trivial

theorem resolve_only {allowed : Request → Prop} {path : String}
    (hallowed : allowed (.fileInfo path)) : Only allowed causes (resolve path) := by
  refine (stat_only hallowed).bind fun info => ?_
  split
  · trivial
  · split
    · split <;> trivial
    · trivial

theorem isDirectory_only {allowed : Request → Prop} {path : String}
    (hallowed : allowed (.fileInfo path)) : Only allowed causes (isDirectory path) :=
  (stat_only hallowed).bind fun _ => trivial

theorem readRemaining_only {allowed : Request → Prop}
    (hallowed : ∀ size : UInt64, size.toNat ≤ config.maxReadSize.toNat →
      allowed (.read handle size)) (remaining : Nat) :
    ∀ received, Only allowed causes (readRemaining config handle received remaining) := by
  -- Each answer that is not empty makes what remains shorter.
  induction remaining using Nat.strongRecOn with
  | ind remaining ih =>
      intro received
      rw [readRemaining]
      split
      · trivial
      · have hsize := toNat_readSize config remaining
        refine ⟨hallowed _ (by omega), fun answer => ?_⟩
        dsimp only
        split
        · trivial
        · trivial
        · exact ih _ (by omega) _

theorem thenClose_only {α : Type} {program : Program α}
    (honly : Only (Request.Fetching config) causes program) :
    Only (Request.Fetching config) causes (thenClose handle program) := by
  have hclose : Only (Request.Fetching config) causes (close handle) := .request (.close handle)
  refine honly.andThen fun result => hclose.andThen fun closed => ?_
  split <;> trivial

theorem readAll_only (config : ClientConfig) (handle : Handle) (size : UInt64) :
    Only (Request.Fetching config) [.capacity] (readAll config handle size) := by
  unfold readAll
  split
  · exact List.mem_cons_self
  · apply thenClose_only
    exact readRemaining_only (fun asked hasked => .read handle hasked) size.toNat []

theorem getContents_only (config : ClientConfig) (path : String) :
    Only (Request.Fetching config) [.capacity] (getContents config path) := by
  refine (resolve_only (.fileInfo path)).bind fun source =>
    (stat_only (.fileInfo source)).bind fun info => ?_
  have hsize : Only (Request.Fetching config) [.capacity]
      (ofResult (regularSize source info)) := trivial
  have hopen : Only (Request.Fetching config) [.capacity] (openFile source .readOnly) :=
    .request (.openFile source)
  refine hsize.bind fun size => hopen.bind fun handle => ?_
  split
  · trivial
  · exact (readAll_only config handle size).bind fun contents => trivial

end

/-! ## Contents piece by piece -/

/-- Whether what is left behind a handle is handed out from its front, in pieces of any size. -/
def HandsOut {σ : Type} (responder : Responder σ) (handle : Handle) (left : σ → Bytes → Prop) :
    Prop :=
  ∀ (state : σ) (rest : Bytes) (size : UInt64), left state rest → rest ≠ [] → 0 < size.toNat →
    ∃ data more after, rest = data ++ more ∧ data ≠ [] ∧ data.length ≤ size.toNat ∧
      responder.respond state (.read handle size) = (.ok data, after) ∧ left after more

/-- A description with a kind has fields. -/
theorem seen_of_kind {about : Description} {kind : FileKind} (hkind : about.info.kind = some kind) :
    seen about = some about.info := by
  unfold seen
  split
  · rename_i hempty
    have hfields : about.fields = .empty :=
      congrArg InfoDictionary.mk (List.isEmpty_iff.mp hempty)
    have hreads := about.reads
    rw [hfields] at hreads
    rw [← Except.ok.inj hreads] at hkind
    cases hkind
  · rfl

section

variable {σ : Type} {responder : Responder σ} {config : ClientConfig} {handle : Handle}

/-- What is left behind a handle is read to its end, whatever the pieces. -/
theorem readRemaining_ends (hread : 0 < config.maxReadSize.toNat) {left : σ → Bytes → Prop}
    (hhands : HandsOut responder handle left) (length : Nat) :
    ∀ (world : World σ) {rest : Bytes} (received : Bytes), rest.length = length →
      left world.device rest →
      ∃ requests after, Ends responder (readRemaining config handle received length) world
          (.ok (received ++ rest)) requests { world with device := after } ∧ left after [] := by
  -- Each piece makes what is left shorter.
  induction length using Nat.strongRecOn with
  | ind length ih =>
      intro world rest received hlength hleft
      rw [readRemaining]
      by_cases hnone : length = 0
      · have hrest : rest = [] := List.length_eq_zero_iff.mp (hlength.trans hnone)
        subst hrest
        rw [dif_pos hnone, List.append_nil]
        exact ⟨[], world.device, .done _ _, hleft⟩
      · have hsize := toNat_readSize config length
        have hmore : rest ≠ [] := by
          rintro rfl
          exact hnone hlength.symm
        obtain ⟨data, more, middle, rfl, hdata, -, hrespond, hmiddle⟩ :=
          hhands world.device rest (UInt64.ofNat (readSize config length)) hleft hmore (by omega)
        obtain ⟨byte, data, rfl⟩ := List.exists_cons_of_ne_nil hdata
        rw [List.length_append, List.length_cons] at hlength
        obtain ⟨requests, after, hends, hafter⟩ := ih (length - (data.length + 1)) (by omega)
          { world with device := middle } (received ++ byte :: data) (by omega) hmiddle
        rw [List.append_assoc] at hends
        rw [dif_neg hnone]
        exact ⟨_ :: requests, after, .call hrespond hends, hafter⟩

/-- A regular file is looked at twice, opened, read and closed. -/
theorem getContents_opened {path : String} {size : UInt64} {contents : Bytes}
    {requests : List Request} {world : World σ} {first second third fourth last : σ}
    {about again : Description}
    (hresolve : responder.respond world.device (.fileInfo path) = (.ok about.fields, first))
    (habout : about.info.kind = some .regular)
    (hstat : responder.respond first (.fileInfo path) = (.ok again.fields, second))
    (hagain : again.info.kind = some .regular) (hsize : again.info.size = some size)
    (hcapacity : size.toNat ≤ Bytes.maxLength)
    (hopen : responder.respond second (.openFile path .readOnly) = (.ok handle, third))
    (hhandle : handle.isNull = false)
    (hreading : Ends responder (read config handle size.toNat) { world with device := third }
      (.ok contents) requests { world with device := fourth })
    (hclose : responder.respond fourth (.close handle) = (.ok (), last)) :
    Ends responder (getContents config path) world (.ok (some contents))
      (.fileInfo path :: .fileInfo path :: .openFile path .readOnly ::
        (requests ++ [.close handle])) { world with device := last } := by
  have hresolving : Ends responder (resolve path) world (.ok path) ([.fileInfo path] ++ [])
      { world with device := first } := by
    apply (stat_described hresolve).bind
    simp only [seen_of_kind habout, FileInfo.isSymlink, habout]
    exact .done _ _
  have hstatting : Ends responder (stat path) { world with device := first } (.ok (seen again))
      [.fileInfo path] { world with device := second } := stat_described hstat
  have hregular : regularSize path (seen again) = .ok size := by
    simp [seen_of_kind hagain, regularSize, hagain, hsize]
  have hsizing : Ends responder (ofResult (regularSize path (seen again)))
      { world with device := second } (.ok size) [] { world with device := second } := by
    rw [hregular]
    exact .done _ _
  have hopening : Ends responder (openFile path .readOnly) { world with device := second }
      (.ok handle) [.openFile path .readOnly] { world with device := third } :=
    .call hopen (.done _ _)
  have hclosing : Ends responder (close handle) { world with device := fourth } (.ok ())
      [.close handle] { world with device := last } := .call hclose (.done _ _)
  have hfetching : Ends responder (readAll config handle size)
      { world with device := third } (.ok contents) (requests ++ [.close handle])
      { world with device := last } := by
    rw [readAll, if_neg (Nat.not_lt.mpr hcapacity)]
    exact hreading.andThen (hclosing.andThen (.done _ _))
  have hgetting : Ends responder (getContents config path) world (.ok (some contents))
      (([.fileInfo path] ++ []) ++ ([.fileInfo path] ++ ([] ++ ([.openFile path .readOnly] ++
        (requests ++ [.close handle] ++ []))))) { world with device := last } :=
    hresolving.bind (hstatting.bind (hsizing.bind (hopening.bind (by
      rw [if_neg (by rw [hhandle]; exact Bool.false_ne_true)]
      exact hfetching.bind (.done _ _)))))
  rwa [List.append_nil (requests ++ [Request.close handle])] at hgetting

end

/-! ## With a device that can be read -/

section

variable {σ : Type} {device : ReadableDevice σ} {config : ClientConfig} {path source : String}
  {place : Place} {node : Node}

theorem stat_ends (hlocate : device.locate path = some place)
    (hnode : device.root.find? place = some node) (world : World σ) :
    ∃ after, Ends device.responder (stat path) world (.ok (seen node.about)) [.fileInfo path]
        { world with device := after } ∧
      device.opened after = device.opened world.device := by
  obtain ⟨after, hrespond, hopened⟩ := device.describes world.device hlocate hnode
  exact ⟨after, stat_described hrespond, hopened⟩

theorem resolve_ends (hlocate : device.locate path = some place)
    (hnode : device.root.find? place = some node)
    (hsource : node.about.source? path = some source) (world : World σ) :
    ∃ after, Ends device.responder (resolve path) world (.ok source) [.fileInfo path]
        { world with device := after } ∧
      device.opened after = device.opened world.device := by
  obtain ⟨after, hstat, hopened⟩ := stat_ends hlocate hnode world
  refine ⟨after, hstat.bind ?_, hopened⟩
  unfold Description.source? at hsource
  by_cases hlink : node.about.info.isSymlink = true
  · rw [if_pos hlink] at hsource
    obtain ⟨target, htarget, rfl⟩ := Option.map_eq_some_iff.mp hsource
    have hseen : seen node.about = some node.about.info :=
      seen_of_kind (by simpa [FileInfo.isSymlink] using hlink)
    simp only [hseen, hlink, htarget, if_true]
    exact .done _ _
  · rw [if_neg hlink] at hsource
    cases hsource
    cases hseen : seen node.about with
    | none => exact .done _ _
    | some info =>
        have hinfo : info = node.about.info := by
          unfold seen at hseen
          split at hseen
          · cases hseen
          · exact (Option.some.inj hseen).symm
        rw [hinfo]
        simp only [hlink]
        exact .done _ _

theorem isDirectory_ends (hlocate : device.locate path = some place)
    (hnode : device.root.find? place = some node) (world : World σ) :
    ∃ after, Ends device.responder (isDirectory path) world (.ok node.about.info.isDirectory)
        [.fileInfo path] { world with device := after } ∧
      device.opened after = device.opened world.device := by
  obtain ⟨after, hrespond, hopened⟩ := device.describes world.device hlocate hnode
  exact ⟨after, isDirectory_described hrespond, hopened⟩

/-- What remains of a file is handed out, and nothing else happens to the handles in use. -/
theorem handsOut_opened (device : ReadableDevice σ) (used : Handle → Option Bytes)
    (handle : Handle) : HandsOut device.responder handle fun state rest =>
      device.opened state = Function.update used handle (some rest) := by
  intro state rest size hleft hrest hsize
  have hopened : device.opened state handle = some rest := by
    rw [hleft, Function.update_self]
  obtain ⟨data, more, after, hsplit, hdata, hlength, hrespond, hafter⟩ :=
    device.reads state hopened hrest hsize
  refine ⟨data, more, after, hsplit, hdata, hlength, hrespond, ?_⟩
  show device.opened after = Function.update used handle (some more)
  rw [hafter, hleft, Function.update_idem]

/-- A file that is read and closed leaves the handles in use as they were. -/
theorem getContents_ends (hread : 0 < config.maxReadSize.toNat) {contents : Bytes}
    (hcontents : device.contents? path = some contents) (world : World σ)
    (hadmits : device.admits (device.opened world.device)) :
    ∃ requests after, Ends device.responder (getContents config path) world (.ok (some contents))
        requests { world with device := after } ∧
      device.opened after = device.opened world.device := by
  obtain ⟨place, node, hlocate, hnode, hregular, rfl⟩ := ReadableDevice.contents?_eq hcontents
  obtain ⟨size, hsize, hlength⟩ := device.sized hnode hregular
  have hkind : node.about.info.kind = some .regular := by
    simpa [FileInfo.isRegular] using hregular
  obtain ⟨first, hresolve, hfirst⟩ := device.describes world.device hlocate hnode
  obtain ⟨second, hstat, hsecond⟩ := device.describes first hlocate hnode
  obtain ⟨handle, third, hopen, hnull, hfree, hthird⟩ :=
    device.opens second hlocate hnode hregular (by rw [hsecond, hfirst]; exact hadmits)
  obtain ⟨requests, fourth, hreading, hfourth⟩ := readRemaining_ends hread
    (handsOut_opened device (device.opened second) handle) size.toNat
    { world with device := third } [] hlength hthird
  have hempty : device.opened fourth handle = some [] := by
    rw [hfourth, Function.update_self]
  obtain ⟨last, hclose, hlast⟩ := device.closes fourth hempty
  have hkept : device.opened last = device.opened world.device := by
    rw [hlast, hfourth, Function.update_idem, ← hfree, Function.update_eq_self, hsecond, hfirst]
  have hcapacity : size.toNat ≤ Bytes.maxLength := hlength ▸ device.bounded hnode hregular
  exact ⟨_, last, getContents_opened hresolve hkind hstat hkind hsize hcapacity hopen hnull hreading
    hclose, hkept⟩

end

end Client

end FileConduit
