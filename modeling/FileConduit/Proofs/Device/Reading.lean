import FileConduit.Proofs.Device.Tree

/-!
# How devices read paths

The client builds the path of an entry from the path of its directory, and leaves it to the
device what a path means.  It relies on one thing alone: a name behind a slash leads from a
directory to its entry.  A device may read what stands behind the path of a link in its own way;
here are readings that take every name behind a slash for a step down.
-/

namespace FileConduit

/-- A way to read paths in which a name behind a slash leads one step down from wherever. -/
structure PathReading where
  locate : String → Option Place
  locate_join : ∀ {path name : String} {place : Place}, locate path = some place →
    ChildName name → locate (RemotePath.join path name) = some (place ++ [name])

/-- Reads a path as its pieces between slashes. -/
def PathReading.plain : PathReading where
  locate path :=
    some (((Text.pieces '/' path.toList).filter fun piece => !piece.isEmpty).map String.ofList)
  locate_join {path name place} hpath hname := by
    have hkept : name.toList.isEmpty = false := by
      simpa using fun hempty => hname.ne_empty (String.toList_eq_nil_iff.mp hempty)
    rw [← Option.some.inj hpath, Option.some.injEq]
    unfold RemotePath.join
    split
    · rename_i hlast
      obtain ⟨front, hfront⟩ := List.getLast?_eq_some_iff.mp hlast
      rw [String.toList_append, hfront, List.append_assoc, List.singleton_append,
        Text.pieces_append, Text.pieces_append, Text.pieces_of_not_mem hname.no_slash]
      simp [Text.pieces, hkept]
    · rw [String.toList_append, String.toList_append, List.append_assoc,
        show "/".toList ++ name.toList = '/' :: name.toList from rfl, Text.pieces_append,
        Text.pieces_of_not_mem hname.no_slash]
      simp [hkept]

/-- The path of an entry leads to the entry. -/
theorem PathReading.locate_entry (reading : PathReading) {root node : Node} (hvalid : root.Valid)
    {path name : String} {place : Place} (hlocate : reading.locate path = some place)
    (hnode : root.find? place = some node) (hname : name ∈ node.entries.names) :
    reading.locate (RemotePath.join path name) = some (place ++ [name]) := by
  obtain ⟨child, hchild⟩ :=
    Option.isSome_iff_exists.mp ((Entries.child?_isSome node.entries name).mpr hname)
  exact reading.locate_join hlocate ((hvalid.find? hnode).entries.child hchild).1

end FileConduit
