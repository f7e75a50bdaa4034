import FileConduit.Proofs.Wire.Strings

/-!
# Dictionaries that are read whole

A dictionary is read out of all the strings that came, each as one key or as one value.  A key that
comes more than once keeps the value that came last.  What cannot be read is no text or has one
string left over, and nothing else is refused.
-/

namespace FileConduit

namespace InfoDictionary

def GivenLast (pairs : List (String × String)) (key value : String) : Prop :=
  ∃ earlier later, pairs = earlier ++ (key, value) :: later ∧ ∀ pair ∈ later, pair.1 ≠ key

/-- Whether a dictionary holds every key of the pairs once, with the value that it was given last,
and no other key. -/
structure Records (info : InfoDictionary) (pairs : List (String × String)) : Prop where
  get?_iff : ∀ key value, info.get? key = some value ↔ GivenLast pairs key value
  nodup : (info.pairs.map Prod.fst).Nodup

theorem givenLast_cons_iff {first : String × String} {rest : List (String × String)}
    {key value : String} :
    GivenLast (first :: rest) key value ↔
      GivenLast rest key value ∨ first = (key, value) ∧ ∀ pair ∈ rest, pair.1 ≠ key := by
  constructor
  · rintro ⟨earlier, later, heq, hlater⟩
    cases earlier with
    | nil =>
        obtain ⟨rfl, rfl⟩ := List.cons.inj heq
        exact .inr ⟨rfl, hlater⟩
    | cons pair earlier =>
        obtain ⟨-, rfl⟩ := List.cons.inj heq
        exact .inl ⟨earlier, later, rfl, hlater⟩
  · rintro (⟨earlier, later, rfl, hlater⟩ | ⟨rfl, hrest⟩)
    · exact ⟨first :: earlier, later, rfl, hlater⟩
    · exact ⟨[], rest, rfl, hrest⟩

theorem not_givenLast {pairs : List (String × String)} {key : String}
    (hkey : ∀ pair ∈ pairs, pair.1 ≠ key) (value : String) : ¬GivenLast pairs key value := by
  rintro ⟨earlier, later, rfl, -⟩
  exact hkey (key, value) (List.mem_append_right _ List.mem_cons_self) rfl

/-! ## Entering pairs -/

theorem lookup_others {key wanted : String} (hwanted : wanted ≠ key)
    (pairs : List (String × String)) :
    (pairs.filter fun pair => pair.1 ≠ key).lookup wanted = pairs.lookup wanted := by
  induction pairs with
  | nil => rfl
  | cons first rest ih =>
      by_cases hfirst : first.1 = key
      · have hother : (wanted == first.1) = false := beq_false_of_ne (hfirst ▸ hwanted)
        rw [List.filter_cons_of_neg (by simpa using hfirst), ih, List.lookup_cons, hother]
      · rw [List.filter_cons_of_pos (by simpa using hfirst), List.lookup_cons, List.lookup_cons, ih]

theorem get?_insert (info : InfoDictionary) (key value wanted : String) :
    (info.insert key value).get? wanted =
      if wanted = key then some value else info.get? wanted := by
  show ((key, value) :: info.pairs.filter fun pair => pair.1 ≠ key).lookup wanted = _
  rw [List.lookup_cons]
  by_cases hwanted : wanted = key
  · rw [if_pos hwanted, beq_iff_eq.mpr hwanted]
  · rw [if_neg hwanted, beq_false_of_ne hwanted]
    exact lookup_others hwanted info.pairs

theorem nodup_insert {info : InfoDictionary} (hinfo : (info.pairs.map Prod.fst).Nodup)
    (key value : String) : ((info.insert key value).pairs.map Prod.fst).Nodup := by
  refine List.nodup_cons.mpr ⟨?_, hinfo.sublist (List.filter_sublist.map Prod.fst)⟩
  intro hkey
  obtain ⟨pair, hpair, hsame⟩ := List.mem_map.mp hkey
  exact of_decide_eq_true (List.mem_filter.mp hpair).2 hsame

/-- Pairs that are entered one after another are found where they are the last for their key; a key
that none of them has is found as it was before. -/
theorem get?_foldl_insert (pairs : List (String × String)) (info : InfoDictionary)
    (key value : String) :
    (pairs.foldl (fun info pair => info.insert pair.1 pair.2) info).get? key = some value ↔
      GivenLast pairs key value ∨
        info.get? key = some value ∧ ∀ pair ∈ pairs, pair.1 ≠ key := by
  induction pairs generalizing info with
  | nil =>
      have hnone : ¬GivenLast [] key value := not_givenLast (by simp) value
      simp [hnone]
  | cons first rest ih =>
      obtain ⟨named, given⟩ := first
      rw [List.foldl_cons, ih, get?_insert, givenLast_cons_iff, List.forall_mem_cons, Prod.mk.injEq]
      by_cases hkey : key = named
      · subst hkey
        simp [eq_comm]
      · simp [hkey, Ne.symm hkey]

theorem nodup_foldl_insert {info : InfoDictionary} (hinfo : (info.pairs.map Prod.fst).Nodup)
    (pairs : List (String × String)) :
    ((pairs.foldl (fun info pair => info.insert pair.1 pair.2) info).pairs.map Prod.fst).Nodup := by
  induction pairs generalizing info with
  | nil => exact hinfo
  | cons first rest ih => exact ih (nodup_insert hinfo first.1 first.2)

theorem records_ofPairs (pairs : List (String × String)) : (ofPairs pairs).Records pairs where
  get?_iff key value := by
    rw [ofPairs, get?_foldl_insert]
    simp [empty, get?]
  nodup := by
    have hempty : (empty.pairs.map Prod.fst).Nodup := List.nodup_nil
    exact nodup_foldl_insert hempty pairs

/-! ## Pairing strings -/

theorem alternate_of_pairs? {strings : List String} {pairs : List (String × String)}
    (hpairs : pairs? strings = some pairs) : alternate pairs = strings := by
  fun_induction pairs? strings generalizing pairs with
  | case1 =>
      cases hpairs
      rfl
  | case2 => cases hpairs
  | case3 key value rest ih =>
      obtain ⟨others, hothers, rfl⟩ := Option.map_eq_some_iff.mp hpairs
      rw [← ih hothers]
      rfl

theorem pairs?_eq_none_iff {strings : List String} :
    pairs? strings = none ↔ strings.length % 2 = 1 := by
  fun_induction pairs? strings with
  | case1 => simp
  | case2 => simp
  | case3 key value rest ih =>
      rw [Option.map_eq_none_iff, ih, List.length_cons, List.length_cons]
      omega

end InfoDictionary

namespace Reply

open InfoDictionary

variable {bytes : Bytes}

theorem parseInfo_of_error {error : ReplyError} (hstrings : parseStrings bytes = .error error) :
    parseInfo bytes = .error error := by
  rw [parseInfo, hstrings]
  rfl

theorem parseInfo_of_pairs {pairs : List (String × String)}
    (hstrings : parseStrings bytes = .ok (alternate pairs)) :
    parseInfo bytes = .ok (ofPairs pairs) := by
  simp only [parseInfo, hstrings, bind, Except.bind, ofStrings?_alternate]

theorem parseInfo_of_odd {strings : List String} (hstrings : parseStrings bytes = .ok strings)
    (hodd : strings.length % 2 = 1) :
    parseInfo bytes = .error (.unbalancedInfo strings.length) := by
  have hpairs := pairs?_eq_none_iff.mpr hodd
  simp only [parseInfo, hstrings, bind, Except.bind, ofStrings?, hpairs, Option.map_none]

/-- The strings of a text are pairs, unless their number is odd. -/
theorem parseStrings_cases (bytes : Bytes) :
    (¬IsUtf8 bytes ∧ parseStrings bytes = .error .invalidUtf8) ∨
      (∃ strings, parseStrings bytes = .ok strings ∧ strings.length % 2 = 1) ∨
      ∃ pairs, parseStrings bytes = .ok (alternate pairs) := by
  cases hstrings : parseStrings bytes with
  | error error =>
      obtain ⟨hother, rfl⟩ := parseStrings_eq_error_iff.mp hstrings
      exact .inl ⟨hother, rfl⟩
  | ok strings =>
      cases hpairs : pairs? strings with
      | none => exact .inr (.inl ⟨strings, rfl, pairs?_eq_none_iff.mp hpairs⟩)
      | some pairs => exact .inr (.inr ⟨pairs, by rw [alternate_of_pairs? hpairs]⟩)

theorem parseInfo_eq_error_iff {error : ReplyError} :
    parseInfo bytes = .error error ↔
      (¬IsUtf8 bytes ∧ error = .invalidUtf8) ∨
        ∃ strings, parseStrings bytes = .ok strings ∧ strings.length % 2 = 1 ∧
          error = .unbalancedInfo strings.length := by
  constructor
  · intro hinfo
    rcases parseStrings_cases bytes with ⟨hother, hstrings⟩ | ⟨strings, hstrings, hodd⟩ |
      ⟨pairs, hstrings⟩
    · rw [parseInfo_of_error hstrings, Except.error.injEq] at hinfo
      exact .inl ⟨hother, hinfo.symm⟩
    · rw [parseInfo_of_odd hstrings hodd, Except.error.injEq] at hinfo
      exact .inr ⟨strings, hstrings, hodd, hinfo.symm⟩
    · rw [parseInfo_of_pairs hstrings] at hinfo
      cases hinfo
  · rintro (⟨hother, rfl⟩ | ⟨strings, hstrings, hodd, rfl⟩)
    · exact parseInfo_of_error (parseStrings_eq_error_iff.mpr ⟨hother, rfl⟩)
    · exact parseInfo_of_odd hstrings hodd

end Reply

open InfoDictionary

/-- Pairs of strings without a NUL that are written in turn are read as the dictionary that records
them.  Whatever bytes are read, they are refused as no text just when they are not UTF-8, and as
unbalanced just when an odd number of strings is in them; all else is read, and every string is the
key or the value of one of the pairs that are recorded. -/
theorem dictionaries_read_whole :
    (∀ pairs : List (String × String),
      (∀ pair ∈ pairs, '\x00' ∉ pair.1.toList ∧ '\x00' ∉ pair.2.toList) →
        ∃ info, Reply.parseInfo (StringList.encode (alternate pairs)) = .ok info ∧
          info.Records pairs) ∧
    ∀ bytes : Bytes,
      (Reply.parseInfo bytes = .error .invalidUtf8 ↔ ¬IsUtf8 bytes) ∧
      (∀ count, Reply.parseInfo bytes = .error (.unbalancedInfo count) ↔
        ∃ strings, Reply.parseStrings bytes = .ok strings ∧ strings.length = count ∧
          count % 2 = 1) ∧
      (IsUtf8 bytes →
        (¬∃ strings, Reply.parseStrings bytes = .ok strings ∧ strings.length % 2 = 1) →
          ∃ pairs info, Reply.parseStrings bytes = .ok (alternate pairs) ∧
            Reply.parseInfo bytes = .ok info ∧ info.Records pairs) := by
  refine ⟨fun pairs hpairs => ?_, fun bytes => ⟨?_, fun count => ?_, fun htext hbalanced => ?_⟩⟩
  · refine ⟨ofPairs pairs, Reply.parseInfo_of_pairs ?_, records_ofPairs pairs⟩
    apply Reply.parseStrings_eq_ok_iff.mpr
    apply StringList.decode?_of_encode
    intro text htext
    obtain ⟨pair, hpair, htext⟩ := List.mem_flatMap.mp htext
    rcases List.mem_pair.mp htext with rfl | rfl
    · exact (hpairs pair hpair).1
    · exact (hpairs pair hpair).2
  · rw [Reply.parseInfo_eq_error_iff]
    simp
  · rw [Reply.parseInfo_eq_error_iff]
    constructor
    · rintro (⟨-, hother⟩ | ⟨strings, hstrings, hodd, hcount⟩)
      · cases hother
      · cases hcount
        exact ⟨strings, hstrings, rfl, hodd⟩
    · rintro ⟨strings, hstrings, rfl, hodd⟩
      exact .inr ⟨strings, hstrings, hodd, rfl⟩
  · rcases Reply.parseStrings_cases bytes with ⟨hother, -⟩ | hodd | ⟨pairs, hstrings⟩
    · exact absurd htext hother
    · exact absurd hodd hbalanced
    · exact ⟨pairs, _, hstrings, Reply.parseInfo_of_pairs hstrings, records_ofPairs pairs⟩

/-- A key that comes twice has the value that came last, an empty value is a value, and the last
terminator may be missing. -/
theorem repeated_key_read :
    (∃ info, Reply.parseInfo
        (StringList.encode (alternate [("a", "1"), ("b", ""), ("a", "2")])) = .ok info ∧
      info.get? "a" = some "2" ∧ info.get? "b" = some "" ∧ info.get? "1" = none) ∧
    Reply.parseInfo (StringList.encode ["a", "1", "b"]) = .error (.unbalancedInfo 3) ∧
    ∃ info, Reply.parseInfo [97, 0, 98] = .ok info ∧ info.get? "a" = some "b" := by
  obtain ⟨hread, hbytes⟩ := dictionaries_read_whole
  refine ⟨?_, ?_, ?_⟩
  · obtain ⟨info, hinfo, hrecords⟩ := hread [("a", "1"), ("b", ""), ("a", "2")] (by decide)
    refine ⟨info, hinfo, ?_, ?_, ?_⟩
    · exact (hrecords.get?_iff "a" "2").mpr ⟨[("a", "1"), ("b", "")], [], rfl, by simp⟩
    · exact (hrecords.get?_iff "b" "").mpr ⟨[("a", "1")], [("a", "2")], rfl, by simp⟩
    · rw [Option.eq_none_iff_forall_ne_some]
      intro value hvalue
      exact not_givenLast (by decide) value ((hrecords.get?_iff "1" value).mp hvalue)
  · exact ((hbytes _).2.1 3).mpr ⟨["a", "1", "b"], rfl, rfl, rfl⟩
  · have htext : IsUtf8 [97, 0, 98] := ⟨['a', '\x00', 'b'], rfl⟩
    have hstrings : Reply.parseStrings [97, 0, 98] = .ok ["a", "b"] := rfl
    obtain ⟨pairs, info, hpairs, hinfo, hrecords⟩ := (hbytes [97, 0, 98]).2.2 htext (by
      rintro ⟨strings, hodd⟩
      rw [hstrings] at hodd
      cases hodd.1
      exact absurd hodd.2 (by decide))
    rw [hstrings, Except.ok.injEq] at hpairs
    have hpair := pairs?_alternate pairs
    rw [← hpairs] at hpair
    cases hpair
    exact ⟨info, hinfo, (hrecords.get?_iff "a" "b").mpr ⟨[], [], rfl, by simp⟩⟩

end FileConduit
