import FileConduit.Client.Transfer
import FileConduit.Proofs.Client.Fetching
import FileConduit.Proofs.Client.Pull.Containment
import FileConduit.Proofs.Path.Confusion
import FileConduit.Proofs.Program.Ensuring
import FileConduit.Session.Script
import Mathlib.Data.List.Nodup

/-!
# Pulls that overwrite nothing of their own

The entries of a directory are copied to places of their own just when the host can tell their names
apart.  If that is so in every listing, a whole pull comes to no place twice: what waits to be
copied goes to places none of which is above another one or above what has been copied.
-/

namespace FileConduit

namespace Client.Pull

open Program

variable {config : ClientConfig} {source : String} {target : HostPath} {names : List String}

/-! ## One directory -/

/-- Whether names can be entries of one directory of which the host tells each from the others. -/
structure Distinguished (style : NamingStyle) (names : List String) : Prop where
  child : ∀ name ∈ names, ChildName name
  apart : names.Pairwise fun first second => ¬HostName.Confused style first second

instance (style : NamingStyle) (names : List String) : Decidable (Distinguished style names) :=
  decidable_of_iff ((∀ name ∈ names, ChildName name) ∧
      names.Pairwise fun first second => ¬HostName.Confused style first second)
    ⟨fun ⟨hchild, hapart⟩ => ⟨hchild, hapart⟩, fun hnames => ⟨hnames.child, hnames.apart⟩⟩

theorem children_named (hnames : ∀ name ∈ names, ChildName name) :
    (children config source target names).map Prod.snd =
      names.map fun name => target.child (HostName.sanitize config.namingStyle name) := by
  have hall : (names.filter fun name => !RemotePath.isTraversal name) = names := by
    apply List.filter_eq_self.mpr
    intro name hname
    rw [(hnames name hname).not_traversal]
    rfl
  rw [children, hall, List.map_map]
  rfl

/-- The entries for the directory itself and the one above it are not copied. -/
theorem children_filter (config : ClientConfig) (source : String) (target : HostPath)
    (names : List String) :
    children config source target (names.filter fun name => !RemotePath.isTraversal name) =
      children config source target names := by
  simp [children, List.filter_filter]

theorem child_inj {first second : String} :
    target.child first = target.child second ↔ first = second := by
  simp [HostPath.child]

/-- The entries of a directory are copied to places of their own just when no two names are
confused. -/
theorem children_nodup_iff (config : ClientConfig) (source : String) (target : HostPath)
    (hnames : ∀ name ∈ names, ChildName name) :
    ((children config source target names).map Prod.snd).Nodup ↔
      names.Pairwise fun first second => ¬HostName.Confused config.namingStyle first second := by
  rw [children_named hnames, List.Nodup, List.pairwise_map]
  apply List.Pairwise.iff_of_mem
  intro first second hfirst hsecond
  rw [Ne, child_inj, HostName.sanitize_eq_iff (hnames first hfirst) (hnames second hsecond)]

/-! ## A whole pull -/

def Apart (first second : HostPath) : Prop :=
  ¬first.parts <+: second.parts ∧ ¬second.parts <+: first.parts

def mark? : Event → Option HostPath
  | .host (.write path _) _ => some path
  | .host (.makeDirectories path) _ => some path
  | _ => none

/-- The names in a listing that are copied: those other than of the directory itself and of the one
above it. -/
def listed? : Event → Option (List String)
  | .round ⟨.readDirectory _, some (.ok names)⟩ =>
      some (names.filter fun name => !RemotePath.isTraversal name)
  | _ => none

/-- Whether an event, if it is a listing, names entries that the host tells apart. -/
def Clear (style : NamingStyle) (event : Event) : Prop :=
  ∀ names, listed? event = some names → Distinguished style names

/-- What a pull keeps: it has come to no place twice, and what waits goes to places apart from each
other and not above those. -/
structure Kept (waiting : List (String × HostPath)) (places : List HostPath) : Prop where
  nodup : places.Nodup
  pairwise : (waiting.map Prod.snd).Pairwise Apart
  ahead : ∀ target ∈ waiting.map Prod.snd, ∀ place ∈ places, ¬target.parts <+: place.parts

variable {waiting : List (String × HostPath)} {places : List HostPath}

theorem apart_of_same_length {first second : HostPath} (hne : first ≠ second)
    (hlength : first.parts.length = second.parts.length) : Apart first second := by
  have hparts : first.parts ≠ second.parts := fun heq => hne (congrArg HostPath.mk heq)
  exact ⟨fun hleads => hparts (hleads.eq_of_length hlength),
    fun hleads => hparts (hleads.eq_of_length hlength.symm).symm⟩

theorem target_prefix_child (target : HostPath) (name : String) :
    target.parts <+: (target.child name).parts :=
  List.prefix_append _ _

/-- What is apart from a directory is apart from its entries. -/
theorem Apart.child {other : HostPath} (hapart : Apart target other) (name : String) :
    Apart (target.child name) other := by
  refine ⟨fun hleads => hapart.1 ((target_prefix_child target name).trans hleads),
    fun hleads => ?_⟩
  rcases List.prefix_concat_iff.mp hleads with hsame | habove
  · exact hapart.1 (hsame ▸ target_prefix_child target name)
  · exact hapart.2 habove

namespace Kept

/-- The next copy goes to its place. -/
theorem taken (hkept : Kept ((source, target) :: waiting) places) :
    Kept waiting (places ++ [target]) := by
  have hahead := List.forall_mem_cons.mp hkept.ahead
  have hpairwise := List.pairwise_cons.mp hkept.pairwise
  constructor
  · rw [← List.concat_eq_append]
    exact hkept.nodup.concat fun hmem => hahead.1 target hmem (List.prefix_refl _)
  · exact hpairwise.2
  · intro other hother place hplace
    rcases List.mem_append.mp hplace with hearlier | hlast
    · exact hahead.2 other hother place hearlier
    · rw [List.mem_singleton.mp hlast]
      exact (hpairwise.1 other hother).2

/-- The entries of a directory are put in front of what waits. -/
theorem entered (hkept : Kept ((source, target) :: waiting) places)
    (hnames : Distinguished config.namingStyle
      (names.filter fun name => !RemotePath.isTraversal name)) (place : String) :
    Kept (children config place target names ++ waiting) (places ++ [target]) := by
  have htaken := hkept.taken
  have hahead := List.forall_mem_cons.mp hkept.ahead
  have hpairwise := List.pairwise_cons.mp hkept.pairwise
  have hchild : ∀ other ∈ (children config place target names).map Prod.snd,
      ∃ name, other = target.child name := by
    intro other hother
    simp only [children, List.map_map, List.mem_map] at hother
    obtain ⟨name, -, rfl⟩ := hother
    exact ⟨_, rfl⟩
  constructor
  · exact htaken.nodup
  · rw [List.map_append, List.pairwise_append]
    refine ⟨?_, htaken.pairwise, fun first hfirst second hsecond => ?_⟩
    · have hnodup := (children_nodup_iff config place target hnames.child).mpr hnames.apart
      rw [children_filter] at hnodup
      apply hnodup.imp_of_mem
      intro first second hfirst hsecond hne
      obtain ⟨left, rfl⟩ := hchild first hfirst
      obtain ⟨right, rfl⟩ := hchild second hsecond
      exact apart_of_same_length hne (by simp [HostPath.child])
    · obtain ⟨name, rfl⟩ := hchild first hfirst
      exact (hpairwise.1 second hsecond).child name
  · intro other hother used hused
    rw [List.map_append] at hother
    rcases List.mem_append.mp hother with hfront | hrest
    · obtain ⟨name, rfl⟩ := hchild other hfront
      rcases List.mem_append.mp hused with hearlier | hlast
      · exact fun hleads =>
          hahead.1 used hearlier ((target_prefix_child target name).trans hleads)
      · rw [List.mem_singleton.mp hlast]
        intro hleads
        have hlength := hleads.length_le
        simp only [HostPath.child, List.length_append, List.length_singleton] at hlength
        omega
    · exact htaken.ahead other hrest used hused

end Kept

/-! ## Steps -/

abbrev StepEnds : List HostPath → Outcome (Option Pull) → Prop :=
  Ensures.Stepped (fun places _ => places.Nodup) fun next places => Kept next.pending places

variable {trusted : Event → Prop} {α β : Type} {program : Program α} {next : α → Program β}
  {post : List HostPath → Outcome β → Prop}

/-- A program that only asks the device comes to no place. -/
theorem ensures_bind (config : ClientConfig) {good : α → Prop}
    (honly : Only (Request.Fetching config) [.capacity] program)
    (hconfined : program.Confined (fun _ => False) good)
    (hnext : ∀ value, Ensures trusted mark? post (next value) places)
    (hfails : ∀ error, post places (.finished (.error error)))
    (habandoned : post places .abandoned) (hhalts : post places (.halted .capacity)) :
    Ensures trusted mark? post (program >>= next) places := by
  refine .andThen (.unmarked honly hconfined (fun _ _ _ => rfl) fun outcome hends => ?_)
  cases outcome with
  | finished result =>
      cases result with
      | ok value => exact hnext value
      | error error => exact hfails error
  | abandoned => exact habandoned
  | halted cause =>
      obtain rfl := List.mem_singleton.mp (hends cause rfl)
      exact hhalts

theorem step_ensures {pull : Pull} (hkept : Kept pull.pending places) :
    Ensures (Clear config.namingStyle) mark? StepEnds (step config pull) places := by
  unfold step
  cases hpending : pull.pending with
  | nil => exact hkept.nodup
  | cons copy pending =>
      obtain ⟨source, target⟩ := copy
      rw [hpending] at hkept
      have htaken := hkept.taken
      refine .andThen (.stopIfCancelled ?_ hkept.nodup)
      refine ensures_bind config (resolve_only (.fileInfo source)) (resolve_confined source)
        (fun source => ?_) (fun _ => hkept.nodup) hkept.nodup hkept.nodup
      refine ensures_bind config (isDirectory_only (.fileInfo source))
        (isDirectory_confined source) (fun directory => ?_) (fun _ => hkept.nodup) hkept.nodup
        hkept.nodup
      cases directory with
      | true =>
          rw [if_pos rfl]
          refine .andThen (.onHost (fun _ _ => ?_) fun fault => htaken.nodup)
          show Ensures _ _ _ (ite (source ∈ pull.visited) _ _) _
          by_cases hvisited : source ∈ pull.visited
          · rw [if_pos hvisited]
            exact htaken
          · rw [if_neg hvisited, listDirectory]
            refine .andThen (.request (.readDirectory source) ?_ fun answer hclear => ?_)
            · show (_ ++ []).Nodup
              rw [List.append_nil]
              exact htaken.nodup
            · show Ensures.Next _ _ _ _ (_ ++ []) _
              rw [List.append_nil]
              cases answer with
              | error error => exact htaken.nodup
              | ok names => exact hkept.entered (hclear _ rfl) source
      | false =>
          rw [if_neg (by simp)]
          refine ensures_bind config (getContents_only config source)
            (getContents_confined config source) (fun contents => ?_) (fun _ => hkept.nodup)
            hkept.nodup hkept.nodup
          exact .andThen (.onHost (fun _ _ => htaken) fun fault => htaken.nodup)

theorem pull_ensures (config : ClientConfig) (steps : Nat) (remote : String)
    (directory : HostPath) :
    Ensures (Clear config.namingStyle) mark? (fun places _ => places.Nodup)
      (Client.pull config steps remote directory) [] := by
  apply Ensures.repeatUntilNone (fun _ now places => Kept now.pending places)
  · exact fun now places hkept => hkept.nodup
  · exact fun count now places hkept => step_ensures hkept
  · exact ⟨.nil, List.pairwise_singleton _ _, by simp⟩

/-- The entries of a directory are copied to places of their own just when the host can tell their
names apart, which it always can outside the Windows style.  If that is so in every listing that a
pull is given, the pull writes no file and makes no directory at a place that it has come to
before, whatever else it is answered. -/
theorem pull_overwrites_nothing (config : ClientConfig) (steps : Nat) (remote : String)
    (directory : HostPath) :
    (∀ (source : String) (target : HostPath) (names : List String),
      (∀ name ∈ names, ChildName name) →
        (((children config source target names).map Prod.snd).Nodup ↔
          names.Pairwise fun first second => ¬HostName.Confused config.namingStyle first second) ∧
        (config.namingStyle ≠ .windows → names.Nodup →
          ((children config source target names).map Prod.snd).Nodup)) ∧
    ∀ (events : List Event) (outcome : Outcome Unit),
      Traces (Client.pull config steps remote directory) events outcome →
      (∀ names ∈ events.filterMap listed?, Distinguished config.namingStyle names) →
        (events.filterMap mark?).Nodup := by
  refine ⟨fun source target names hnames => ?_, fun events outcome htraces hlisted => ?_⟩
  · have hiff := children_nodup_iff config source target hnames
    refine ⟨hiff, fun hstyle hnodup => hiff.mpr (hnodup.imp fun hne => ?_)⟩
    rwa [HostName.confused_iff hstyle]
  · apply (pull_ensures config steps remote directory).of_traces htraces
    intro event hevent names hnames
    exact hlisted names (List.mem_filterMap.mpr ⟨event, hevent, hnames⟩)

open Script in
def paired : Session Script :=
  .fresh {} ⟨[kind "S_IFDIR", kind "S_IFDIR", strings [".", "..", "a:b", "a?b"], kind "S_IFDIR",
    kind "S_IFDIR", strings [], kind "S_IFDIR", kind "S_IFDIR", strings []], 0, none, none, false⟩
    (.empty "host") []

/-- Two entries whose names the Windows style would not tell apart are copied to places of their
own in another one; and in the Windows style an underscore keeps the name of a device apart. -/
theorem pull_keeps_apart :
    let events := paired.events Script.device (Client.pull {} 4 "/d" ⟨[]⟩)
    events.filterMap mark? = [⟨["d"]⟩, ⟨["d", "a:b"]⟩, ⟨["d", "a?b"]⟩] ∧
      (events.filterMap mark?).Nodup ∧
      ((children { namingStyle := .windows } "/d" ⟨["d"]⟩ ["a", "con"]).map Prod.snd).Nodup := by
  have hplaces : (paired.events Script.device (Client.pull {} 4 "/d" ⟨[]⟩)).filterMap mark? =
      [⟨["d"]⟩, ⟨["d", "a:b"]⟩, ⟨["d", "a?b"]⟩] := by cbv
  have hlisted : (paired.events Script.device (Client.pull {} 4 "/d" ⟨[]⟩)).filterMap listed? =
      [["a:b", "a?b"], [], []] := by cbv
  obtain ⟨-, hruns⟩ := pull_overwrites_nothing {} 4 "/d" ⟨[]⟩
  obtain ⟨hentries, -⟩ := pull_overwrites_nothing { namingStyle := .windows } 4 "/d" ⟨[]⟩
  refine ⟨hplaces, hruns _ _ (paired.run_traces Script.device _) ?_, ?_⟩
  · rw [hlisted]
    decide
  · exact (hentries "/d" ⟨["d"]⟩ ["a", "con"] (by decide)).1.mpr (by decide)

/-- In the Windows style two entries are copied to one place, where the later copy replaces the
earlier one. -/
theorem pull_confuses_entries :
    let names := ["a", "a."]
    names.Nodup ∧ (∀ name ∈ names, ChildName name) ∧
      (children { namingStyle := .windows } "/d" ⟨["d"]⟩ names).map Prod.snd =
        [⟨["d", "a"]⟩, ⟨["d", "a"]⟩] := by
  decide

end Client.Pull

end FileConduit
