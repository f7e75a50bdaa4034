import FileConduit.Client.Transfer
import FileConduit.Proofs.Client.Closing
import FileConduit.Proofs.Client.Pull.Containment
import FileConduit.Proofs.Host.View
import FileConduit.Proofs.Program.Ensuring
import FileConduit.Proofs.Session.Finishing
import FileConduit.Session.Script

/-!
# Pushes that end

A push may come to a directory by many paths, through links in a cycle by infinitely many.  It
enters each directory once, by the place that the host gives for it, so what is left to do shrinks:
either there is one directory less to enter, or one copy less to make.
-/

namespace FileConduit

namespace Client.Push

open Program

/-! ## The course of a push -/

/-- What shows of a push: the paths that it looks at and the places that it is told, the
directories that it makes and the listings that it goes through. -/
inductive Mark where
  | looked (path : HostPath)
  | placed (place : Location)
  | made (target : String)
  | listed (path : HostPath) (names : List String)

def mark? : Event → Option Mark
  | .host (.isDirectory path) _ => some (.looked path)
  | .host (.realPlace _) (.ok place) => some (.placed place)
  | .host (.names path) (.ok names) => some (.listed path names)
  | .round ⟨.makeDirectory target, _⟩ => some (.made target)
  | _ => none

namespace Mark

def looked? : Mark → Option HostPath
  | looked path => some path
  | _ => none

def isMade : Mark → Bool
  | made _ => true
  | _ => false

def listed? : Mark → Option HostPath
  | listed path _ => some path
  | _ => none

def children : Mark → List HostPath
  | listed path names => names.map path.child
  | _ => []

end Mark

/-- The places of the host's directories that are made on the device: for each one made, the place
that was told since the last look. -/
def createdSince : Option Location → List Mark → List Location
  | _, [] => []
  | _, .looked _ :: marks => createdSince none marks
  | _, .placed place :: marks => createdSince (some place) marks
  | told, .made _ :: marks => told.toList ++ createdSince told marks
  | told, .listed _ _ :: marks => createdSince told marks

def created (marks : List Mark) : List Location :=
  createdSince none marks

/-- Whether a push has made and uploaded no directory of the host twice.  Each directory on the
device is made for one of the host, and each entry of a listing is taken up at most once. -/
structure Thrifty (view : HostView) (origin : HostPath) (marks : List Mark) : Prop where
  created_nodup : (created marks).Nodup
  length_created : (created marks).length = marks.countP Mark.isMade
  listed_nodup : ((marks.filterMap Mark.listed?).map view.directory?).Nodup
  looked_subperm :
    (marks.filterMap Mark.looked?).Subperm (origin :: marks.flatMap Mark.children)

theorem created_append {mark : Mark} (hmark : mark.isMade = false) (marks : List Mark) :
    created (marks ++ [mark]) = created marks := by
  have hsince : ∀ told, createdSince told (marks ++ [mark]) = createdSince told marks := by
    induction marks with
    | nil => cases mark <;> first | exact fun told => rfl | cases hmark
    | cons first marks ih => cases first <;> simp [createdSince, ih]
  exact hsince none

theorem created_append_made (marks : List Mark) (place : Location) (target : String) :
    created (marks ++ [.placed place] ++ [.made target]) = created marks ++ [place] := by
  have hsince : ∀ told, createdSince told (marks ++ [.placed place] ++ [.made target]) =
      createdSince told marks ++ [place] := by
    induction marks with
    | nil => exact fun told => rfl
    | cons first marks ih => cases first <;> simp_all [createdSince]
  exact hsince none

/-! ## What a push keeps -/

/-- What a push keeps: what it has made and listed it has visited, and what it has looked at or
will look at is the origin and what the listings name. -/
structure Kept (view : HostView) (origin : HostPath) (push : Push) (marks : List Mark) :
    Prop where
  created_nodup : (created marks).Nodup
  length_created : (created marks).length = marks.countP Mark.isMade
  created_visited : ∀ place ∈ created marks, place ∈ push.visited
  listed_nodup : ((marks.filterMap Mark.listed?).map view.directory?).Nodup
  listed_visited : ∀ path ∈ marks.filterMap Mark.listed?,
    ∃ place ∈ push.visited, view.directory? path = some place
  looked_perm : (marks.filterMap Mark.looked? ++ push.pending.map Prod.fst).Perm
    (origin :: marks.flatMap Mark.children)

variable {view : HostView} {origin source : HostPath} {push : Push} {marks : List Mark}
  {place : Location} {target : String} {names : List String}
  {pending : List (HostPath × String)}

namespace Kept

theorem start (view : HostView) (origin : HostPath) (name directory : String) :
    Kept view origin (.start origin name directory) [] where
  created_nodup := .nil
  length_created := rfl
  created_visited := by simp [created, createdSince]
  listed_nodup := .nil
  listed_visited := by simp
  looked_perm := by simp [Push.start]

theorem thrifty (hkept : Kept view origin push marks) : Thrifty view origin marks where
  created_nodup := hkept.created_nodup
  length_created := hkept.length_created
  listed_nodup := hkept.listed_nodup
  looked_subperm := ((List.sublist_append_left _ _).subperm).trans hkept.looked_perm.subperm

/-- A mark of nothing made and nothing listed. -/
theorem aside {next : Push} {mark : Mark} (hkept : Kept view origin push marks)
    (hmade : mark.isMade = false) (hlisted : mark.listed? = none) (hnone : mark.children = [])
    (hvisited : next.visited = push.visited)
    (hperm : (marks.filterMap Mark.looked? ++ (mark.looked?.toList ++
      next.pending.map Prod.fst)).Perm (origin :: marks.flatMap Mark.children)) :
    Kept view origin next (marks ++ [mark]) := by
  have hsame : (marks ++ [mark]).filterMap Mark.listed? = marks.filterMap Mark.listed? := by
    simp [hlisted]
  have hchildren : (marks ++ [mark]).flatMap Mark.children = marks.flatMap Mark.children := by
    simp [hnone]
  have hlooked : (marks ++ [mark]).filterMap Mark.looked? =
      marks.filterMap Mark.looked? ++ mark.looked?.toList := by
    cases mark <;> simp [Mark.looked?]
  constructor
  · rw [created_append hmade]
    exact hkept.created_nodup
  · rw [created_append hmade, hkept.length_created, List.countP_append]
    simp [hmade]
  · rw [created_append hmade, hvisited]
    exact hkept.created_visited
  · rw [hsame]
    exact hkept.listed_nodup
  · rw [hsame, hvisited]
    exact hkept.listed_visited
  · rw [hchildren, hlooked, List.append_assoc]
    exact hperm

/-- The next copy is looked at. -/
theorem looked (hkept : Kept view origin push marks)
    (hpending : push.pending = (source, target) :: pending) :
    Kept view origin { push with pending } (marks ++ [.looked source]) := by
  have hperm := hkept.looked_perm
  rw [hpending] at hperm
  exact hkept.aside rfl rfl rfl rfl hperm

/-- The place of a directory is told. -/
theorem placed (hkept : Kept view origin push marks) (place : Location) :
    Kept view origin push (marks ++ [.placed place]) :=
  hkept.aside rfl rfl rfl rfl hkept.looked_perm

/-- A directory is made whose place has not been visited. -/
theorem made (hkept : Kept view origin push marks) (hplace : place ∉ push.visited)
    (target : String) :
    Kept view origin { push with visited := place :: push.visited }
      (marks ++ [.placed place] ++ [.made target]) := by
  have hcreated := created_append_made marks place target
  have hlisted : (marks ++ [Mark.placed place] ++ [Mark.made target]).filterMap Mark.listed? =
      marks.filterMap Mark.listed? := by simp [Mark.listed?]
  have hnew : place ∉ created marks := fun hmem => hplace (hkept.created_visited place hmem)
  constructor
  · rw [hcreated, ← List.concat_eq_append]
    exact hkept.created_nodup.concat hnew
  · rw [hcreated]
    simp [Mark.isMade, hkept.length_created]
  · rw [hcreated]
    intro other hother
    rcases List.mem_append.mp hother with hearlier | hlast
    · exact List.mem_cons_of_mem place (hkept.created_visited other hearlier)
    · exact List.mem_cons.mpr (.inl (List.mem_singleton.mp hlast))
  · rw [hlisted]
    exact hkept.listed_nodup
  · rw [hlisted]
    intro path hpath
    obtain ⟨other, hother, hdirectory⟩ := hkept.listed_visited path hpath
    exact ⟨other, List.mem_cons_of_mem place hother, hdirectory⟩
  · have hlooked : (marks ++ [Mark.placed place] ++ [Mark.made target]).filterMap Mark.looked? =
        marks.filterMap Mark.looked? := by
      rw [List.append_assoc, List.filterMap_append]
      exact List.append_nil _
    have hchildren : (marks ++ [Mark.placed place] ++ [Mark.made target]).flatMap Mark.children =
        marks.flatMap Mark.children := by simp [Mark.children]
    rw [hlooked, hchildren]
    exact hkept.looked_perm

/-- What has not been visited has not been listed. -/
theorem not_listed (hkept : Kept view origin push marks) (hplace : place ∉ push.visited) :
    ∀ path ∈ marks.filterMap Mark.listed?, view.directory? path ≠ some place := by
  intro path hpath hdirectory
  obtain ⟨other, hother, hplaced⟩ := hkept.listed_visited path hpath
  rw [hdirectory] at hplaced
  exact hplace (Option.some.inj hplaced ▸ hother)

/-- A directory that has just been made is listed. -/
theorem listed (hkept : Kept view origin push marks) (hplace : place ∈ push.visited)
    (hdirectory : view.directory? source = some place)
    (hfirst : ∀ path ∈ marks.filterMap Mark.listed?, view.directory? path ≠ some place)
    (target : String) (names : List String) :
    Kept view origin { push with pending := children source target names ++ push.pending }
      (marks ++ [.listed source names]) := by
  have hcreated : created (marks ++ [.listed source names]) = created marks :=
    created_append rfl marks
  have hlisted : (marks ++ [Mark.listed source names]).filterMap Mark.listed? =
      marks.filterMap Mark.listed? ++ [source] := by simp [Mark.listed?]
  constructor
  · rw [hcreated]
    exact hkept.created_nodup
  · rw [hcreated]
    simpa [Mark.isMade] using hkept.length_created
  · rw [hcreated]
    exact hkept.created_visited
  · rw [hlisted, List.map_append, List.map_singleton, hdirectory, ← List.concat_eq_append]
    apply hkept.listed_nodup.concat
    intro hmem
    obtain ⟨path, hpath, heq⟩ := List.mem_map.mp hmem
    exact hfirst path hpath heq
  · rw [hlisted]
    intro path hpath
    rcases List.mem_append.mp hpath with hearlier | hlast
    · exact hkept.listed_visited path hearlier
    · rw [List.mem_singleton.mp hlast]
      exact ⟨place, hplace, hdirectory⟩
  · have hlooked : (marks ++ [Mark.listed source names]).filterMap Mark.looked? =
        marks.filterMap Mark.looked? := by
      rw [List.filterMap_append]
      exact List.append_nil _
    have hsorted : ((children source target names).map Prod.fst).Perm
        (names.map source.child) := by
      rw [children, List.map_map]
      exact (List.mergeSort_perm names _).map source.child
    rw [hlooked, List.flatMap_append, List.map_append]
    -- What is queued in front of the rest is what the listing names.
    have hfront : (children source target names).map Prod.fst ++ (marks.filterMap Mark.looked? ++
        push.pending.map Prod.fst) |>.Perm
          (names.map source.child ++ (origin :: marks.flatMap Mark.children)) :=
      hsorted.append hkept.looked_perm
    rw [show [Mark.listed source names].flatMap Mark.children = names.map source.child from
      List.append_nil _, ← List.cons_append]
    exact ((List.perm_append_comm_assoc _ _ _).trans hfront).trans List.perm_append_comm

end Kept

/-! ## What is left to do -/

/-- What a push has left to do at most: the copies that wait, and for each directory that has not
been visited those that it may add. -/
def effort (view : HostView) (push : Push) : Nat :=
  push.pending.length + (view.directories \ push.visited.toFinset).card * (view.width + 1)

/-- A directory that is entered adds no more copies than it counted for. -/
theorem effort_entered (hplace : place ∈ view.directories) (hnew : place ∉ push.visited)
    (hnames : names.length ≤ view.width) (source : HostPath) (target : String) :
    effort view ⟨place :: push.visited, children source target names ++ push.pending⟩ ≤
      effort view push := by
  have hless : (view.directories \ (place :: push.visited).toFinset).card + 1 ≤
      (view.directories \ push.visited.toFinset).card := by
    apply Finset.card_lt_card
    rw [Finset.ssubset_iff_of_subset]
    · exact ⟨place, by simp [hplace, hnew], by simp⟩
    · intro other hother
      simp only [Finset.mem_sdiff, List.mem_toFinset, List.mem_cons, not_or] at hother ⊢
      exact ⟨hother.1, hother.2.2⟩
  have hlength : (children source target names).length = names.length := by
    simp [children]
  have hmul := Nat.mul_le_mul_right (view.width + 1) hless
  rw [Nat.add_mul, Nat.one_mul] at hmul
  simp only [effort, List.length_append, hlength]
  omega

/-! ## Steps -/

theorem setContents_confined (allowed : HostAction → Prop) (config : ClientConfig) (path : String)
    (data : Bytes) : (setContents config path data).Confined allowed fun _ => True := by
  have hchunks : ∀ chunks, (sendChunks chunks).Confined allowed fun _ => True := by
    intro chunks
    induction chunks with
    | nil => trivial
    | cons chunk chunks ih => exact (Confined.request (.write chunk)).bind fun _ _ => ih
  refine (Confined.request (.openFile path .writeOnly)).bind fun handle _ => ?_
  split
  · trivial
  · refine thenClose_confined handle ?_
    refine (Confined.ofResult _).bind fun chunks _ => ?_
    exact Confined.stopIfCancelled.bind fun _ _ => hchunks chunks

/-- Storing contents makes no directories. -/
theorem setContents_only (config : ClientConfig) (path : String) (data : Bytes) :
    Only (fun request => ∀ target, request ≠ .makeDirectory target) []
      (setContents config path data) := by
  refine (Only.request (by simp)).bind fun handle => ?_
  split
  · trivial
  · have hwrite : Only (fun request => ∀ target, request ≠ .makeDirectory target) []
        (write config handle data) :=
      (writeChunked_uses handle data _).mono (fun request huses target heq => by
        rw [heq] at huses
        cases huses) (List.nil_subset _)
    have hclose : Only (fun request => ∀ target, request ≠ .makeDirectory target) []
        (close handle) := .request (by simp)
    refine hwrite.andThen fun result => hclose.andThen fun closed => ?_
    split <;> trivial

theorem mark?_round {request : Request} (hother : ∀ target, request ≠ .makeDirectory target)
    (answer : Option (Except ClientError request.Answer)) :
    mark? (.round ⟨request, answer⟩) = none := by
  cases request with
  | makeDirectory target => exact absurd rfl (hother target)
  | _ => rfl

variable {config : ClientConfig}

abbrev StepEnds (view : HostView) (origin : HostPath) (bound : Nat) :
    List Mark → Outcome (Option Push) → Prop :=
  Ensures.Stepped
    (fun marks outcome => Thrifty view origin marks ∧ ∀ cause, outcome ≠ .halted cause)
    fun next marks => Kept view origin next marks ∧ effort view next < bound

variable {bound : Nat}

theorem Kept.stops (hkept : Kept view origin push marks) {outcome : Outcome Unit}
    (hends : ∀ cause, outcome ≠ .halted cause) :
    Thrifty view origin marks ∧ ∀ cause, outcome ≠ .halted cause :=
  ⟨hkept.thrifty, hends⟩

/-- Making a directory leaves one mark, however it ends. -/
theorem ensureDirectory_ensures (trusted : Event → Prop) (target : String) (marks : List Mark) :
    Ensures trusted mark?
      (fun later outcome => later = marks ++ [.made target] ∧ ∀ cause, outcome ≠ .halted cause)
      (ensureDirectory target) marks := by
  have hmake : makeDirectory target = Program.request (.makeDirectory target) := rfl
  rw [ensureDirectory, hmake]
  refine .andThen (.request (.makeDirectory target) ?_ fun answer _ => ?_)
  · exact ⟨rfl, by simp⟩
  · cases answer with
    | ok value => exact ⟨rfl, by simp⟩
    | error error =>
        show Ensures _ _ _ (ite (error.code? = some .objectExists) _ _) _
        split <;> exact ⟨rfl, by simp⟩

/-- Uploading a file leaves no marks. -/
theorem file_ensures (hkept : Kept view origin push marks) (hfewer : effort view push < bound)
    (source : HostPath) (target : String) :
    Ensures view.Shows mark? (StepEnds view origin bound) (do
      let contents ← onHost (.read source)
      setContents config target contents
      return some push) marks := by
  have hsilent : marks ++ [] = marks := List.append_nil marks
  refine .andThen (.onHost (fun contents _ => ?_) fun fault => ?_)
  · show Ensures _ _ _ ((setContents config target contents).andThen _) (marks ++ [])
    rw [hsilent]
    refine .andThen (.unmarked (setContents_only config target contents)
      (setContents_confined _ config target contents)
      (fun request hrequest answer => mark?_round hrequest answer) fun outcome hends => ?_)
    cases outcome with
    | finished result =>
        cases result with
        | error error => exact hkept.stops (by simp)
        | ok value => exact ⟨hkept, hfewer⟩
    | abandoned => exact hkept.stops (by simp)
    | halted cause => exact absurd (hends cause rfl) List.not_mem_nil
  · show Thrifty view origin (marks ++ []) ∧ _
    rw [hsilent]
    exact hkept.stops (by simp)

/-- A directory that has been visited is passed over, and another one is made and listed. -/
theorem directory_ensures (hkept : Kept view origin push marks)
    (hbound : effort view push < bound)
    (hdirectory : view.directory? source = some place) :
    Ensures view.Shows mark? (StepEnds view origin (bound)) (do
      let place ← onHost (.realPlace source)
      if place ∈ push.visited then return some push
      else
        ensureDirectory target
        let names ← onHost (.names source)
        return some {
          visited := place :: push.visited
          pending := children source target names ++ push.pending }) marks := by
  refine .andThen (.onHost (fun told htold => ?_) fun fault => ?_)
  · obtain rfl := htold place hdirectory
    show Ensures _ _ _ (ite (told ∈ push.visited) _ _) _
    by_cases hvisited : told ∈ push.visited
    · rw [if_pos hvisited]
      exact ⟨hkept.placed told, hbound⟩
    · rw [if_neg hvisited]
      have hmade := hkept.made hvisited target
      refine .andThen ((ensureDirectory_ensures view.Shows target _).mono ?_)
      rintro later outcome ⟨rfl, hends⟩
      cases outcome with
      | abandoned => exact hmade.stops (by simp)
      | halted cause => exact absurd rfl (hends cause)
      | finished result =>
          cases result with
          | error error => exact hmade.stops (by simp)
          | ok value =>
              refine .andThen (.onHost (fun names hnames => ?_) fun fault => ?_)
              · have hperm := hnames told hdirectory
                have hknown := view.directory_mem hdirectory
                have hwidth := hperm.length_eq.trans_le (view.length_names_le hknown)
                have heffort := effort_entered hknown hvisited hwidth source target
                have hfirst : ∀ path ∈ (marks ++ [Mark.placed told] ++
                    [Mark.made target]).filterMap Mark.listed?,
                    view.directory? path ≠ some told := by
                  simpa [Mark.listed?] using hkept.not_listed hvisited
                exact ⟨hmade.listed List.mem_cons_self hdirectory hfirst target names,
                  heffort.trans_lt hbound⟩
              · show Thrifty view origin (_ ++ []) ∧ _
                rw [List.append_nil]
                exact hmade.stops (by simp)
  · show Thrifty view origin (marks ++ []) ∧ _
    rw [List.append_nil]
    exact hkept.stops (by simp)

/-- A step keeps what a push keeps, and leaves less to do. -/
theorem step_ensures (hkept : Kept view origin push marks) :
    Ensures view.Shows mark? (StepEnds view origin (effort view push)) (step config push)
      marks := by
  unfold step
  cases hpending : push.pending with
  | nil => exact hkept.stops (by simp)
  | cons copy pending =>
      obtain ⟨source, target⟩ := copy
      have hlooked := hkept.looked hpending
      have hfewer : effort view { push with pending } < effort view push := by
        simp only [effort, hpending, List.length_cons]
        omega
      refine .andThen (.stopIfCancelled ?_ (hkept.stops (by simp)))
      refine .andThen (.onHost (fun answer hanswer => ?_) fun fault => hlooked.stops (by simp))
      show Ensures _ _ _ (ite (answer = true) _ _) _
      cases answer with
      | false => exact file_ensures hlooked hfewer source target
      | true =>
          obtain ⟨place, hplace⟩ := Option.isSome_iff_exists.mp hanswer.symm
          exact directory_ensures hlooked hfewer hplace

/-- A number of steps in which every push of an origin ends. -/
def enough (view : HostView) : Nat :=
  view.directories.card * (view.width + 1) + 2

end Client.Push

end FileConduit
