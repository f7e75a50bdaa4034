import FileConduit.Proofs.Client.Walk.Outline

/-!
# The course of a walk

Whatever the device answers, as long as what it tells is what an outline has, a walk makes the
visits of the outline, one after another.  The directories that wait to be visited stand for what is
below them too: a visit takes the first of them away and puts the directories in it in front.
-/

namespace FileConduit

/-- What a round trip tells, unless it fails, is what an outline has at the path. -/
structure Round.Agrees (path : String) (root : Outline) (round : Round) : Prop where
  listing : ∀ place entries names, root.Leads place (.directory entries) →
    round = ⟨.readDirectory (RemotePath.below path place), some (.ok names)⟩ →
      names = entries.names
  look : ∀ place outline answer, root.Leads place outline →
    round = ⟨.fileInfo (RemotePath.below path place), some answer⟩ →
      outline.Answered answer ∨ ∃ error, Client.Sight.ofAnswer answer = .failed error

structure Round.Tells (path : String) (root : Outline) (round : Round) : Prop where
  listing : ∀ place entries answer, root.Leads place (.directory entries) →
    round = ⟨.readDirectory (RemotePath.below path place), answer⟩ →
      answer = some (.ok entries.names)
  look : ∀ place outline answer, root.Leads place outline →
    round = ⟨.fileInfo (RemotePath.below path place), answer⟩ →
      ∃ told, answer = some told ∧ outline.Answered told

theorem Round.Tells.agrees {path : String} {root : Outline} {round : Round}
    (htells : round.Tells path root) : round.Agrees path root where
  listing place entries names hleads hround := by
    cases htells.listing place entries _ hleads hround
    rfl
  look place outline answer hleads hround := by
    obtain ⟨told, htold, hanswered⟩ := htells.look place outline _ hleads hround
    cases htold
    exact .inl hanswered

namespace Client

open Program

/-! ## Looks -/

def sorting? : Except ClientError InfoDictionary → Except ClientError (Option Sorting)
  | .error (.reply (.status .readError)) => .ok none
  | .error error => if error.isNotFound then .ok none else .error error
  | .ok fields => (FileInfo.ofDictionary fields).map fun info => some (sortInfo (some info))

theorem sortNames_cons (directory : String) {name : String}
    (hname : RemotePath.isTraversal name = false) (names : List String) :
    sortNames directory (name :: names) =
      .call (.fileInfo (RemotePath.join directory name)) fun answer =>
        match sorting? answer with
        | .error error => fail error
        | .ok none => sortNames directory names
        | .ok (some sorting) =>
            (sortNames directory names).bind fun rest => done (.ok ((name, sorting) :: rest)) := by
  rw [sortNames, if_neg (by rw [hname]; exact Bool.false_ne_true)]
  refine congrArg (Program.call _) (funext fun answer => ?_)
  rcases answer with error | fields
  · unfold sorting?
    dsimp only
    split
    · rename_i heq
      cases heq
      rfl
    · rename_i hother heq
      cases heq
      show (if _ then _ else _) = _
      cases hfound : ClientError.isNotFound _ <;> simp [hfound]
    · rename_i heq
      cases heq
  · dsimp only
    split
    · rename_i hempty
      have hfields : fields = .empty := congrArg InfoDictionary.mk (List.isEmpty_iff.mp hempty)
      rw [hfields]
      rfl
    · rw [sorting?]
      cases hread : FileInfo.ofDictionary fields with
      | error error =>
          obtain ⟨key, value, rfl⟩ := FileInfo.ofDictionary_error hread
          rfl
      | ok info => rfl

theorem sorting?_of_failed {answer : Except ClientError InfoDictionary} {error : ClientError}
    (hsight : Sight.ofAnswer answer = .failed error) : sorting? answer = .error error := by
  rcases Sight.failed_iff.mp hsight with ⟨rfl, hother, hfound⟩ | ⟨fields, rfl, hread⟩
  · unfold sorting?
    split
    · rename_i heq
      cases heq
      exact absurd rfl hother
    · rename_i heq
      cases heq
      rw [hfound]
      rfl
    · rename_i heq
      cases heq
  · simp only [sorting?, hread]
    rfl

end Client

namespace Outline

def sorting? : Outline → Option Client.Sorting
  | absent => none
  | untyped => some .skipped
  | file => some .file
  | directory _ => some .directory

theorem Answered.sorting?_eq {outline : Outline} {answer : Except ClientError InfoDictionary}
    (hanswered : outline.Answered answer) : Client.sorting? answer = .ok outline.sorting? := by
  cases hanswered with
  | @absent error herror =>
      unfold Client.sorting?
      split
      · rfl
      · rename_i hother heq
        cases heq
        have hfound := herror.resolve_left hother
        rw [hfound]
        rfl
      · rename_i heq
        cases heq
  | @untyped about hkind =>
      simp only [Client.sorting?, about.reads, Except.map, Client.sortInfo, hkind, sorting?]
  | @file about kind hkind hother =>
      simp only [Client.sorting?, about.reads, Except.map, Client.sortInfo, hkind, sorting?]
  | @directory entries about hkind =>
      simp only [Client.sorting?, about.reads, Except.map, Client.sortInfo, hkind, sorting?]

theorem Answered.not_failed {outline : Outline} {answer : Except ClientError InfoDictionary}
    (hanswered : outline.Answered answer) (error : ClientError) :
    Client.Sight.ofAnswer answer ≠ .failed error := by
  intro hsight
  have hsorting := hanswered.sorting?_eq
  rw [Client.sorting?_of_failed hsight] at hsorting
  cases hsorting

end Outline

namespace Outlines

def sorted (entries : Outlines) : List (String × Client.Sorting) :=
  entries.children.filterMap fun child => child.2.sorting?.map (child.1, ·)

theorem namesSorted_directory (entries : Outlines) :
    Client.namesSorted .directory entries.sorted = entries.directories := by
  unfold Client.namesSorted sorted directories
  induction entries.children with
  | nil => rfl
  | cons child rest ih =>
      obtain ⟨name, outline⟩ := child
      cases outline <;> simpa [Outline.sorting?, Outline.isDirectory] using ih

theorem namesSorted_file (entries : Outlines) :
    Client.namesSorted .file entries.sorted = entries.files := by
  unfold Client.namesSorted sorted files
  induction entries.children with
  | nil => rfl
  | cons child rest ih =>
      obtain ⟨name, outline⟩ := child
      cases outline <;> simpa [Outline.sorting?, Outline.isFile] using ih

end Outlines

namespace Client

open Program

/-! ## Parts of a walk -/

def Pass (rounds : List Round) : Prop :=
  ∀ round ∈ rounds, ∀ error, ¬Stops round error

theorem pass_append {first rest : List Round} : Pass (first ++ rest) ↔ Pass first ∧ Pass rest :=
  List.forall_mem_append

/-- How something goes that is to make these requests for a value: it does, or one round trip stops
it and is the last one, or the caller gives up. -/
inductive Goes {α : Type} (requests : List Request) (value : α) :
    List Round → Outcome α → Prop where
  | completed {rounds : List Round} (hrequests : rounds.map Round.request = requests)
      (hpass : Pass rounds) : Goes requests value rounds (.finished (.ok value))
  | stopped {rounds earlier : List Round} {last : Round} {error : ClientError}
      (hrounds : earlier ++ [last] = rounds) (hrequests : rounds.map Round.request <+: requests)
      (hpass : Pass earlier) (hstops : Stops last error) :
      Goes requests value rounds (.finished (.error error))
  | abandoned {rounds earlier : List Round} {last : Round}
      (hrounds : earlier ++ [last] = rounds) (hrequests : rounds.map Round.request <+: requests)
      (hpass : Pass earlier) (hanswer : last.answer = none) :
      Goes requests value rounds .abandoned

namespace Goes

variable {requests later : List Request} {value : α} {final : β} {rounds first rest : List Round}
  {outcome : Outcome α}

/-- A part that goes on with another after its own requests. -/
theorem prepend (hrequests : first.map Round.request = requests) (hpass : Pass first)
    (hgoes : Goes later value rest outcome) :
    Goes (requests ++ later) value (first ++ rest) outcome := by
  cases hgoes with
  | completed hlater hrest =>
      refine .completed ?_ (pass_append.mpr ⟨hpass, hrest⟩)
      rw [List.map_append, hrequests, hlater]
  | stopped hrounds hlater hearlier hstops =>
      refine .stopped ?_ ?_ (pass_append.mpr ⟨hpass, hearlier⟩) hstops
      · rw [List.append_assoc, hrounds]
      · rw [List.map_append, hrequests]
        exact (List.prefix_append_right_inj requests).mpr hlater
  | abandoned hrounds hlater hearlier hanswer =>
      refine .abandoned ?_ ?_ (pass_append.mpr ⟨hpass, hearlier⟩) hanswer
      · rw [List.append_assoc, hrounds]
      · rw [List.map_append, hrequests]
        exact (List.prefix_append_right_inj requests).mpr hlater

theorem bind {program : Program α} {next : α → Program β} {result : Outcome β}
    (hmakes : Makes (program.bind next) rounds result)
    (hfirst : ∀ first outcome, first ⊆ rounds → Makes program first outcome →
      Goes requests value first outcome)
    (hnext : ∀ rest outcome, rest ⊆ rounds → Makes (next value) rest outcome →
      Goes later final rest outcome) :
    Goes (requests ++ later) final rounds result := by
  cases hmakes.chained with
  | @both first rest middle result hprogram hrest =>
      cases hfirst _ _ (List.subset_append_left _ _) hprogram with
      | completed hrequests hpass =>
          exact .prepend hrequests hpass (hnext _ _ (List.subset_append_right _ _) hrest)
      | stopped hrounds hrequests hpass hstops =>
          cases hrest
          rw [List.append_nil]
          exact .stopped hrounds (hrequests.trans (List.prefix_append _ _)) hpass hstops
  | abandoned hprogram =>
      cases hfirst _ _ (List.Subset.refl _) hprogram with
      | abandoned hrounds hrequests hpass hanswer =>
          exact .abandoned hrounds (hrequests.trans (List.prefix_append _ _)) hpass hanswer
  | halted hprogram => cases hfirst _ _ (List.Subset.refl _) hprogram

/-- A part of one value, which is taken further without a request. -/
theorem map {program : Program α} {result : Outcome β} (make : α → β)
    (hmakes : Makes (program.bind fun value => done (.ok (make value))) rounds result)
    (hprogram : ∀ first outcome, first ⊆ rounds → Makes program first outcome →
      Goes requests value first outcome) :
    Goes requests (make value) rounds result := by
  have hgoes : Goes (requests ++ []) (make value) rounds result :=
    bind hmakes hprogram fun rest outcome _ hrest => by
      cases hrest
      exact .completed rfl (List.forall_mem_nil _)
  rwa [List.append_nil] at hgoes

/-- A part that begins with a request, which either stops it or lets it go on. -/
theorem of_call {request : Request} {next : Except ClientError request.Answer → Program α}
    (hmakes : Makes (.call request next) rounds outcome)
    (hnext : ∀ answer rest, rounds = ⟨request, some answer⟩ :: rest →
      Makes (next answer) rest outcome →
        Pass [⟨request, some answer⟩] ∧ Goes later value rest outcome ∨
          ∃ error, Stops ⟨request, some answer⟩ error ∧ next answer = fail error) :
    Goes (request :: later) value rounds outcome := by
  have hone : [request] <+: request :: later := ⟨later, rfl⟩
  have hnone : Pass [] := List.forall_mem_nil _
  cases hmakes with
  | givenUp => exact .abandoned (List.nil_append _) hone hnone rfl
  | answered hrest =>
      rcases hnext _ _ rfl hrest with ⟨hpass, hgoes⟩ | ⟨error, hstops, hfail⟩
      · exact prepend rfl hpass hgoes
      · rw [hfail] at hrest
        cases hrest
        exact .stopped (List.nil_append _) hone hnone hstops

end Goes

/-- The entries of a directory are looked at in order, and sorted as what they are. -/
theorem sortNames_goes {directory : String} {entries : Outlines} {rounds : List Round}
    {outcome : Outcome (List (String × Sorting))}
    (hlooks : ∀ name child answer, (name, child) ∈ entries.children →
      ⟨.fileInfo (RemotePath.join directory name), some answer⟩ ∈ rounds →
        child.Answered answer ∨ ∃ error, Sight.ofAnswer answer = .failed error)
    (hmakes : Makes (sortNames directory entries.names) rounds outcome) :
    Goes (entries.looks directory) entries.sorted rounds outcome := by
  match entries with
  | .nil =>
      cases hmakes
      exact .completed rfl (List.forall_mem_nil _)
  | .cons name child rest =>
      cases hname : RemotePath.isTraversal name with
      | true =>
          have hchildren : (Outlines.cons name child rest).children = rest.children :=
            Outlines.children_traversal hname
          rw [Outlines.names, sortNames, if_pos hname] at hmakes
          rw [Outlines.looks, Outlines.sorted, hchildren]
          rw [hchildren] at hlooks
          exact sortNames_goes hlooks hmakes
      | false =>
          have hchildren : (Outlines.cons name child rest).children =
              (name, child) :: rest.children := Outlines.children_child hname
          rw [Outlines.names, sortNames_cons directory hname] at hmakes
          rw [Outlines.looks, Outlines.sorted, hchildren, List.map_cons, List.filterMap_cons]
          rw [hchildren] at hlooks
          refine .of_call hmakes fun answer later hrounds hnext => ?_
          subst hrounds
          rcases hlooks name child answer List.mem_cons_self List.mem_cons_self with
            hanswered | ⟨error, hsight⟩
          · refine .inl ⟨?_, ?_⟩
            · intro round hround error hstops
              rw [List.mem_singleton.mp hround] at hstops
              cases hstops with
              | look hsight => exact hanswered.not_failed error hsight
            · have hrest : ∀ rounds outcome, rounds ⊆ later →
                  Makes (sortNames directory rest.names) rounds outcome →
                    Goes (rest.looks directory) rest.sorted rounds outcome :=
                fun rounds outcome hsubset => sortNames_goes fun name child answer hchild hround =>
                  hlooks name child answer (List.mem_cons_of_mem _ hchild)
                    (List.mem_cons_of_mem _ (hsubset hround))
              rw [hanswered.sorting?_eq] at hnext
              cases hsorting : child.sorting? with
              | none =>
                  rw [hsorting] at hnext
                  exact hrest later outcome (List.Subset.refl _) hnext
              | some sorting =>
                  rw [hsorting] at hnext
                  exact .map ((name, sorting) :: ·) hnext hrest
          · refine .inr ⟨error, .look hsight, ?_⟩
            rw [sorting?_of_failed hsight]

def visitEntry (directory : String) (depth : Nat) (sorted : List (String × Sorting)) : WalkEntry :=
  ⟨directory, namesSorted .directory sorted, namesSorted .file sorted, depth⟩

theorem visit_eq (directory : String) (depth : Nat) :
    visit directory depth =
      .call (.readDirectory directory) fun answer =>
        match answer with
        | .error error => fail error
        | .ok names => (sortNames directory names).bind fun sorted =>
            done (.ok (visitEntry directory depth sorted)) := by
  refine congrArg (Program.call _) (funext fun answer => ?_)
  cases answer <;> rfl

/-- A visit asks for the listing, looks at each child, and tells of the directory. -/
theorem visit_goes {root : Outline} {path : String} {visited : Visit} {rounds : List Round}
    {outcome : Outcome WalkEntry}
    (hleads : root.Leads visited.place (.directory visited.entries))
    (hagrees : ∀ round ∈ rounds, round.Agrees path root)
    (hmakes : Makes (visit (visited.path path) visited.place.length) rounds outcome) :
    Goes (visited.requests path) (visited.entry path) rounds outcome := by
  rw [visit_eq] at hmakes
  refine .of_call hmakes fun answer rest hrounds hnext => ?_
  subst hrounds
  rcases answer with error | names
  · exact .inr ⟨error, .listing, rfl⟩
  · have hnames : names = visited.entries.names :=
      (hagrees _ List.mem_cons_self).listing _ _ _ hleads rfl
    subst hnames
    refine .inl ⟨?_, ?_⟩
    · intro round hround error hstops
      rw [List.mem_singleton.mp hround] at hstops
      cases hstops
    · have hentry : visited.entry path =
          visitEntry (visited.path path) visited.place.length visited.entries.sorted := by
        rw [visitEntry, visited.entries.namesSorted_directory, visited.entries.namesSorted_file]
        rfl
      rw [hentry]
      refine .map _ hnext fun first outcome hsubset hfirst => ?_
      refine sortNames_goes (fun name child answer hchild hround => ?_) hfirst
      have hplace : RemotePath.below path (visited.place ++ [name]) =
          RemotePath.join (visited.path path) name := RemotePath.below_concat _ _ _
      exact (hagrees _ (List.mem_cons_of_mem _ (hsubset hround))).look _ child answer
        (hleads.child hchild) (by rw [hplace])

end Client

end FileConduit
