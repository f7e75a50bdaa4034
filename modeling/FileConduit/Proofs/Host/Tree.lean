import FileConduit.Host.Tree
import FileConduit.Proofs.Device.Tree

/-!
# The host's files as the client changes them

`turn` is one part of a path followed, and `follow_cons` takes a path apart into turns.  A path that
has led somewhere leads there also when files are added, and what follows it is followed from there.
So an entry of a directory can be found, made and written by the path of the directory.
-/

namespace FileConduit.HostTree

variable {tree more : HostTree} {path : HostPath} {place spot : Location} {name : String}

/-! ## What is at a place -/

@[simp] theorem get?_mount (tree : HostTree) : tree.get? tree.mount = some .directory := by
  simp [get?]

theorem lookup_cons_eq (key : Location) (entry : HostEntry)
    (entries : List (Location × HostEntry)) (wanted : Location) :
    ((key, entry) :: entries).lookup wanted =
      if wanted = key then some entry else entries.lookup wanted := by
  by_cases hkey : wanted = key
  · simp [hkey]
  · have hbeq : (wanted == key) = false := beq_false_of_ne hkey
    simp [List.lookup_cons, hbeq, hkey]

theorem lookup_replaced (place : Location) (entry : HostEntry)
    (entries : List (Location × HostEntry)) (wanted : Location) :
    (entries.filter (fun other => other.1 ≠ place) ++ [(place, entry)]).lookup wanted =
      if wanted = place then some entry else entries.lookup wanted := by
  induction entries with
  | nil => exact lookup_cons_eq place entry [] wanted
  | cons first entries ih =>
      obtain ⟨key, held⟩ := first
      rw [lookup_cons_eq]
      by_cases hkey : key = place
      · rw [List.filter_cons_of_neg (by simpa using hkey), ih, hkey]
        by_cases hwanted : wanted = place
        · rw [if_pos hwanted, if_pos hwanted]
        · rw [if_neg hwanted, if_neg hwanted, if_neg hwanted]
      · rw [List.filter_cons_of_pos (by simpa using hkey), List.cons_append, lookup_cons_eq, ih]
        by_cases hwanted : wanted = place
        · have hne : wanted ≠ key := fun heq => hkey (heq ▸ hwanted)
          rw [if_neg hne, if_pos hwanted, if_pos hwanted]
        · rw [if_neg hwanted, if_neg hwanted]

@[simp] theorem mount_put (tree : HostTree) (place : Location) (entry : HostEntry) :
    (tree.put place entry).mount = tree.mount := rfl

theorem get?_put {entry : HostEntry} (hroot : place ≠ []) (hmount : place ≠ tree.mount)
    (other : Location) :
    (tree.put place entry).get? other = if other = place then some entry else tree.get? other := by
  rw [get?, mount_put, get?]
  by_cases hfixed : other = [] ∨ other = tree.mount
  · have hother : other ≠ place := by
      rintro rfl
      exact hfixed.elim hroot hmount
    rw [if_pos hfixed, if_pos hfixed, if_neg hother]
  · rw [if_neg hfixed, if_neg hfixed]
    exact lookup_replaced place entry tree.entries other

/-- What one host holds, the other holds too. -/
structure Extends (tree more : HostTree) : Prop where
  mount : more.mount = tree.mount
  held : ∀ place entry, tree.get? place = some entry → more.get? place = some entry

/-! ## Following a path -/

/-- Follows one part of a path from a place: how many links may still be passed, the place from
which to go on, and what is to be followed first. -/
def turn (tree : HostTree) (links : Nat) (place : Location) (part : String) :
    Except HostFault (Nat × Location × List String) :=
  match tree.get? place with
  | none => .error .notFound
  | some (.file _) | some (.link _) => .error .notADirectory
  | some .directory =>
      if HostPath.isIdle part then .ok (links, place, [])
      else if part = ".." then .ok (links, place.dropLast, [])
      else if nameLimit < part.utf8ByteSize then .error .nameTooLong
      else
        match tree.get? (place ++ [part]) with
        | some (.link target) =>
            if target.toList.head? = some '/' then .error .notFound
            else
              match links with
              | 0 => .error .linkLoop
              | links + 1 => .ok (links, place, (HostPath.ofText target).parts)
        | _ => .ok (links, place ++ [part], [])

theorem follow_nil (tree : HostTree) (last : Bool) (links : Nat) (place : Location) :
    tree.follow last links place [] = .ok place := by
  rw [follow]

theorem follow_cons (tree : HostTree) (links : Nat) (place : Location) (part : String)
    (rest : List String) :
    tree.follow true links place (part :: rest) =
      (tree.turn links place part).bind fun (links, place, front) =>
        tree.follow true links place (front ++ rest) := by
  rw [follow, turn]
  rcases tree.get? place with _ | _ | contents | target
  · rfl
  · dsimp only
    by_cases hidle : HostPath.isIdle part = true
    · rw [if_pos hidle, if_pos hidle]
      rfl
    · rw [if_neg hidle, if_neg hidle]
      by_cases hup : part = ".."
      · rw [if_pos hup, if_pos hup]
        rfl
      · rw [if_neg hup, if_neg hup]
        by_cases hlong : nameLimit < part.utf8ByteSize
        · rw [if_pos hlong, if_pos hlong]
          rfl
        · rw [if_neg hlong, if_neg hlong]
          -- A link is always followed: the path is not one of those whose last part is kept.
          rcases tree.get? (place ++ [part]) with _ | _ | contents | target
          · rfl
          · rfl
          · rfl
          · dsimp only
            rw [if_neg (by simp)]
            by_cases hfar : target.toList.head? = some '/'
            · rw [if_pos hfar, if_pos hfar]
              rfl
            · rw [if_neg hfar, if_neg hfar]
              cases links <;> rfl
  · rfl
  · rfl

theorem turn_decreases {links left : Nat} {part : String} {front : List String}
    (hturn : tree.turn links place part = .ok (left, spot, front)) :
    left = links ∧ front = [] ∨ left < links := by
  unfold turn at hturn
  repeat' split at hturn
  all_goals cases hturn
  all_goals simp

/-- Induction along the turns of a path. -/
theorem turns_induction (tree : HostTree) {motive : Nat → Location → List String → Prop}
    (hnil : ∀ links place, motive links place [])
    (hcons : ∀ links place part rest,
      (∀ left spot front, tree.turn links place part = .ok (left, spot, front) →
        motive left spot (front ++ rest)) →
      motive links place (part :: rest)) :
    ∀ links place parts, motive links place parts
  | links, place, [] => hnil links place
  | links, place, part :: rest =>
      hcons links place part rest fun left spot front _hturn =>
        turns_induction tree hnil hcons left spot (front ++ rest)
termination_by links _ parts => (links, parts.length)
decreasing_by
  rcases turn_decreases _hturn with ⟨rfl, rfl⟩ | hless
  · exact Prod.Lex.right _ (by simp)
  · exact Prod.Lex.left _ _ hless

/-- A path either fails whatever follows it, or what follows it is followed from one place. -/
theorem follow_append (tree : HostTree) (links : Nat) (place : Location) (parts : List String) :
    (∃ fault, ∀ extra, tree.follow true links place (parts ++ extra) = .error fault) ∨
      ∃ left spot, ∀ extra,
        tree.follow true links place (parts ++ extra) = tree.follow true left spot extra := by
  induction links, place, parts using turns_induction tree with
  | hnil links place => exact .inr ⟨links, place, fun extra => rfl⟩
  | hcons links place part rest ih =>
      simp only [List.cons_append, follow_cons]
      cases hturn : tree.turn links place part with
      | error fault => exact .inl ⟨fault, fun extra => rfl⟩
      | ok turned =>
          have hrest := ih turned.1 turned.2.1 turned.2.2 hturn
          simp only [List.append_assoc] at hrest
          exact hrest

theorem turn_extends (hextends : tree.Extends more) {links left : Nat} {part : String}
    {front : List String} (hturn : tree.turn links place part = .ok (left, spot, front)) :
    more.turn links place part = .ok (left, spot, front) ∨ front = [] ∧ tree.get? spot = none := by
  unfold turn at hturn ⊢
  rcases hplace : tree.get? place with _ | _ | contents | target
  · simp [hplace] at hturn
  · rw [hextends.held place _ hplace]
    simp only [hplace] at hturn
    dsimp only
    by_cases hidle : HostPath.isIdle part = true
    · rw [if_pos hidle] at hturn ⊢
      exact .inl hturn
    · rw [if_neg hidle] at hturn ⊢
      by_cases hup : part = ".."
      · rw [if_pos hup] at hturn ⊢
        exact .inl hturn
      · rw [if_neg hup] at hturn ⊢
        by_cases hlong : nameLimit < part.utf8ByteSize
        · rw [if_pos hlong] at hturn
          cases hturn
        · rw [if_neg hlong] at hturn ⊢
          cases hentry : tree.get? (place ++ [part]) with
          | some entry =>
              rw [hextends.held _ entry hentry]
              rw [hentry] at hturn
              exact .inl hturn
          | none =>
              rw [hentry] at hturn
              cases hturn
              exact .inr ⟨rfl, hentry⟩
  · simp [hplace] at hturn
  · simp [hplace] at hturn

/-- Nothing follows what is not there. -/
theorem follow_absent {links : Nat} {parts : List String} (hnone : tree.get? spot = none)
    (hfollow : tree.follow true links spot parts = .ok place) : tree.get? place = none := by
  cases parts with
  | nil =>
      rw [follow_nil] at hfollow
      cases hfollow
      exact hnone
  | cons part parts =>
      rw [follow_cons, turn, hnone] at hfollow
      cases hfollow

/-- A path that leads to something leads there also when files are added. -/
theorem follow_extends (hextends : tree.Extends more) {entry : HostEntry} (links : Nat)
    (place : Location) (parts : List String)
    (hfollow : tree.follow true links place parts = .ok spot)
    (hentry : tree.get? spot = some entry) : more.follow true links place parts = .ok spot := by
  induction links, place, parts using turns_induction tree with
  | hnil links place =>
      rw [follow_nil] at hfollow ⊢
      exact hfollow
  | hcons links place part rest ih =>
      rw [follow_cons] at hfollow ⊢
      cases hturn : tree.turn links place part with
      | error fault =>
          rw [hturn] at hfollow
          cases hfollow
      | ok turned =>
          obtain ⟨left, next, front⟩ := turned
          rw [hturn] at hfollow
          have hrest : tree.follow true left next (front ++ rest) = .ok spot := hfollow
          rcases turn_extends hextends hturn with hsame | ⟨rfl, habsent⟩
          · rw [hsame]
            exact ih left next front hturn hrest
          · -- Nothing is there, so nothing can follow.
            exfalso
            rw [follow_absent habsent hrest] at hentry
            cases hentry

/-! ## What a path leads to -/

theorem find_eq {entry : HostEntry} (hlocate : tree.locate path = .ok place)
    (hentry : tree.get? place = some entry) : tree.find path = .ok (place, entry) := by
  simp only [find, hlocate, bind, Except.bind, hentry]

theorem of_find {entry : HostEntry} (hfind : tree.find path = .ok (place, entry)) :
    tree.locate path = .ok place ∧ tree.get? place = some entry := by
  unfold find at hfind
  cases hlocate : tree.locate path with
  | error fault =>
      rw [hlocate] at hfind
      cases hfind
  | ok spot =>
      simp only [hlocate, bind, Except.bind] at hfind
      cases hentry : tree.get? spot with
      | none =>
          rw [hentry] at hfind
          cases hfind
      | some found =>
          rw [hentry] at hfind
          cases hfind
          exact ⟨rfl, hentry⟩

theorem Extends.find {entry : HostEntry} (hextends : tree.Extends more)
    (hfind : tree.find path = .ok (place, entry)) : more.find path = .ok (place, entry) := by
  obtain ⟨hlocate, hentry⟩ := of_find hfind
  have hfollow := follow_extends hextends _ _ _ hlocate hentry
  rw [← hextends.mount] at hfollow
  exact find_eq hfollow (hextends.held place entry hentry)

theorem isDirectory_found {entry : HostEntry} (hfind : tree.find path = .ok (place, entry)) :
    tree.isDirectory path = .ok (entry == .directory) := by
  simp only [isDirectory, hfind, bind, Except.bind, pure, Except.pure]

theorem read_found {contents : Bytes} (hfind : tree.find path = .ok (place, .file contents)) :
    tree.read path = .ok contents := by
  simp only [read, hfind, bind, Except.bind]

theorem realPlace_found {entry : HostEntry} (hfind : tree.find path = .ok (place, entry)) :
    tree.realPlace path = .ok place := by
  simp only [realPlace, hfind, bind, Except.bind, pure, Except.pure]

/-- What follows a path is followed from where the path leads. -/
theorem locate_append (hlocate : tree.locate path = .ok place) :
    ∃ left, ∀ extra, tree.follow true linkLimit tree.mount (path.parts ++ extra) =
      tree.follow true left place extra := by
  rcases follow_append tree linkLimit tree.mount path.parts with
    ⟨fault, hfault⟩ | ⟨left, spot, hspot⟩
  · have hnone := hfault []
    rw [List.append_nil,
      show tree.follow true linkLimit tree.mount path.parts = _ from hlocate] at hnone
    cases hnone
  · have hhere := hspot []
    rw [List.append_nil, show tree.follow true linkLimit tree.mount path.parts = _ from hlocate,
      follow_nil] at hhere
    cases hhere
    exact ⟨left, hspot⟩

/-- Names that the host can give to an entry of a directory. -/
structure Fits (name : String) : Prop where
  child : ChildName name
  short : name.utf8ByteSize ≤ nameLimit

instance (name : String) : Decidable (Fits name) :=
  decidable_of_iff (ChildName name ∧ name.utf8ByteSize ≤ nameLimit)
    ⟨fun ⟨hchild, hshort⟩ => ⟨hchild, hshort⟩, fun hfits => ⟨hfits.child, hfits.short⟩⟩

theorem turn_child (hfits : Fits name) (hplace : tree.get? place = some .directory)
    (hlink : ∀ target, tree.get? (place ++ [name]) ≠ some (.link target)) (links : Nat) :
    tree.turn links place name = .ok (links, place ++ [name], []) := by
  have hidle : HostPath.isIdle name ≠ true := by
    simp [HostPath.isIdle, hfits.child.ne_empty, hfits.child.ne_dot]
  have hshort := Nat.not_lt.mpr hfits.short
  unfold turn
  simp only [hplace]
  rw [if_neg hidle, if_neg hfits.child.ne_dots, if_neg hshort]

theorem locate_child (hfits : Fits name) (hfind : tree.find path = .ok (place, .directory))
    (hlink : ∀ target, tree.get? (place ++ [name]) ≠ some (.link target)) :
    tree.locate (path.child name) = .ok (place ++ [name]) := by
  obtain ⟨hlocate, hplace⟩ := of_find hfind
  obtain ⟨left, hfollow⟩ := locate_append hlocate
  show tree.follow true linkLimit tree.mount (path.parts ++ [name]) = _
  rw [hfollow, follow_cons, turn_child hfits hplace hlink]
  exact follow_nil tree true left _

theorem trimEnd_child (parts : List String) (hname : name ≠ "") :
    trimEnd (parts ++ [name]) = parts ++ [name] := by
  simp [trimEnd, hname]

theorem holder_child (hfind : tree.find path = .ok (place, .directory)) :
    tree.holder (path.parts ++ [name]) = .ok place := by
  obtain ⟨hlocate, hplace⟩ := of_find hfind
  obtain ⟨left, hfollow⟩ := locate_append hlocate
  rw [holder, List.dropLast_concat, hfollow, follow_cons, turn]
  simp only [hplace]
  exact follow_nil tree true left _

/-! ## Changes to the host's files -/

/-- A file can be written where nothing is. -/
theorem write_child (hfits : Fits name) (hfind : tree.find path = .ok (place, .directory))
    (hnone : tree.get? (place ++ [name]) = none) (contents : Bytes) :
    tree.write (path.child name) contents = .ok (tree.put (place ++ [name]) (.file contents)) := by
  have hlocate := locate_child hfits hfind (by simp [hnone])
  have hlast : (path.child name).parts.getLast? ≠ some "" := by
    simp [HostPath.child, hfits.child.ne_empty]
  rw [write, if_neg hlast]
  simp only [hlocate, bind, Except.bind, hnone]

theorem makeDirectory_child (hfits : Fits name) (hfind : tree.find path = .ok (place, .directory))
    (hnone : tree.get? (place ++ [name]) = none) :
    tree.makeDirectory (path.child name) = .ok (tree.put (place ++ [name]) .directory) := by
  have htrim : trimEnd (path.child name).parts = path.parts ++ [name] :=
    trimEnd_child path.parts hfits.child.ne_empty
  have hdots : ¬ (name = "." ∨ name = "..") := by
    simp [hfits.child.ne_dot, hfits.child.ne_dots]
  have hshort := Nat.not_lt.mpr hfits.short
  rw [makeDirectory, htrim]
  simp only [List.getLast?_concat, holder_child hfind, bind, Except.bind, hdots, hshort, hnone,
    if_false]

theorem makeDirectories_child (hfits : Fits name)
    (hfind : tree.find path = .ok (place, .directory))
    (hnone : tree.get? (place ++ [name]) = none) :
    tree.makeDirectories (path.child name).parts =
      (.ok (), tree.put (place ++ [name]) .directory) := by
  rw [makeDirectories, makeDirectory_child hfits hfind hnone]

theorem trimEnd_split (parts : List String) :
    ∃ blanks, parts = trimEnd parts ++ blanks ∧ (trimEnd parts).getLast? ≠ some "" := by
  refine ⟨(parts.reverse.takeWhile (· == "")).reverse, ?_, ?_⟩
  · rw [trimEnd, ← List.reverse_append, List.takeWhile_append_dropWhile, List.reverse_reverse]
  · rw [trimEnd, List.getLast?_reverse]
    intro hhead
    have hkept := List.head?_dropWhile_not (· == "") parts.reverse
    rw [hhead] at hkept
    simp at hkept

theorem turn_directory {links : Nat} {part : String} {turned : Nat × Location × List String}
    (hturn : tree.turn links place part = .ok turned) : tree.get? place = some .directory := by
  unfold turn at hturn
  split at hturn
  · cases hturn
  · cases hturn
  · cases hturn
  · assumption

theorem turn_name {links : Nat} {part : String} {turned : Nat × Location × List String}
    (hblank : part ≠ "") (hdots : ¬ (part = "." ∨ part = ".."))
    (hturn : tree.turn links place part = .ok turned) :
    ¬ nameLimit < part.utf8ByteSize ∧
      (tree.get? (place ++ [part]) = none → turned = (links, place ++ [part], [])) := by
  have hdot : part ≠ "." := fun heq => hdots (.inl heq)
  have hup : part ≠ ".." := fun heq => hdots (.inr heq)
  have hidle : HostPath.isIdle part ≠ true := by
    simp [HostPath.isIdle, hblank, hdot]
  have hplace := turn_directory hturn
  unfold turn at hturn
  simp only [hplace] at hturn
  rw [if_neg hidle, if_neg hup] at hturn
  by_cases hlong : nameLimit < part.utf8ByteSize
  · rw [if_pos hlong] at hturn
    cases hturn
  · rw [if_neg hlong] at hturn
    refine ⟨hlong, fun hnone => ?_⟩
    rw [hnone] at hturn
    cases hturn
    rfl

/-- A directory that is there is not made again. -/
theorem makeDirectory_present (hfind : tree.find path = .ok (place, .directory)) :
    tree.makeDirectory path = .error .alreadyExists := by
  obtain ⟨hlocate, hplace⟩ := of_find hfind
  obtain ⟨blanks, hparts, hlast⟩ := trimEnd_split path.parts
  rw [makeDirectory]
  rcases List.eq_nil_or_concat (trimEnd path.parts) with hnone | ⟨init, last, htrimmed⟩
  · rw [hnone]
    rfl
  rw [List.concat_eq_append] at htrimmed
  rw [htrimmed] at hlast hparts ⊢
  rw [List.getLast?_concat] at hlast ⊢
  have hfollow : tree.follow true linkLimit tree.mount (init ++ (last :: blanks)) = .ok place := by
    rw [List.append_cons, ← hparts]
    exact hlocate
  -- The path leads on from where its last name is looked up.
  rcases follow_append tree linkLimit tree.mount init with ⟨fault, hfault⟩ | ⟨left, spot, hspot⟩
  · rw [hfault] at hfollow
    cases hfollow
  rw [hspot, follow_cons] at hfollow
  cases hturn : tree.turn left spot last with
  | error fault =>
      rw [hturn] at hfollow
      cases hfollow
  | ok turned =>
      have hholder : tree.holder (init ++ [last]) = .ok spot := by
        rw [holder, List.dropLast_concat, hspot, follow_cons, turn]
        simp only [turn_directory hturn]
        exact follow_nil tree true left _
      simp only [hholder, bind, Except.bind]
      by_cases hdots : last = "." ∨ last = ".."
      · rw [if_pos hdots]
      obtain ⟨hshort, hgone⟩ := turn_name (fun heq => hlast (congrArg some heq)) hdots hturn
      rw [if_neg hdots, if_neg hshort]
      cases hentry : tree.get? (spot ++ [last]) with
      | some entry => rfl
      | none =>
          rw [hturn, hgone hentry] at hfollow
          have habsent := follow_absent hentry hfollow
          rw [hplace] at habsent
          cases habsent

theorem makeDirectories_present (hfind : tree.find path = .ok (place, .directory)) :
    tree.makeDirectories path.parts = (.ok (), tree) := by
  have hpresent : tree.isDirectory path = .ok true := isDirectory_found hfind
  rw [makeDirectories, makeDirectory_present hfind]
  simp only [orPresent, hpresent]

end FileConduit.HostTree
