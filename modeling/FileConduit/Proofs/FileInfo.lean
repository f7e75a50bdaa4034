import FileConduit.FileInfo
import FileConduit.Proofs.Text.Grammar

/-!
# What a description says

The description of a file is read out of a dictionary just when each number in it is one by the
grammar and within its range; then it says what the dictionary says, and otherwise the first number
that is none is reported.  Other keys than those that are read make no difference.
-/

namespace FileConduit

namespace FileInfo

/-- An unsigned number of 64 bits, with blanks around it. -/
def Counts (text : List Char) (number : UInt64) : Prop :=
  ∃ core, Text.Padded core text ∧ Decimal.Natural core number.toNat

/-- A signed number of 64 bits, with blanks around it.  It counts nanoseconds, and the time is the
number of whole milliseconds in them, counted toward zero. -/
def Dates (text : List Char) (time : Timestamp) : Prop :=
  ∃ core nanoseconds, Text.Padded core text ∧ Decimal.Integer core nanoseconds ∧
    Int64.minValue.toInt ≤ nanoseconds ∧ nanoseconds ≤ Int64.maxValue.toInt ∧
    time.milliseconds = nanoseconds.tdiv 1000000

structure NumberKey where
  key : String
  Written : List Char → Prop

/-- The keys of numbers, in the order in which they are read. -/
def numberKeys : List NumberKey :=
  [⟨"st_size", fun text => ∃ number, Counts text number⟩,
    ⟨"st_blocks", fun text => ∃ number, Counts text number⟩,
    ⟨"st_nlink", fun text => ∃ number, Counts text number⟩,
    ⟨"st_mtime", fun text => ∃ time, Dates text time⟩,
    ⟨"st_birthtime", fun text => ∃ time, Dates text time⟩]

def knownKeys : List String :=
  numberKeys.map NumberKey.key ++ ["st_ifmt", "LinkTarget"]

/-- Whether the value of a key, if it is there, is written as it should be. -/
def Legible (info : InfoDictionary) (number : NumberKey) : Prop :=
  ∀ value, info.get? number.key = some value → number.Written value.toList

/-- The first of some keys whose value is not written as it should be is reported, with the value
as it is. -/
inductive Rejects (info : InfoDictionary) : List NumberKey → ClientError → Prop where
  | first {number : NumberKey} {later : List NumberKey} {value : String}
      (hvalue : info.get? number.key = some value) (hwritten : ¬number.Written value.toList) :
      Rejects info (number :: later) (.invalidInfoValue number.key value)
  | later {number : NumberKey} {later : List NumberKey} {error : ClientError}
      (hlegible : Legible info number) (hlater : Rejects info later error) :
      Rejects info (number :: later) error

/-- What a dictionary holds for a key whose values are read so: nothing if it does not have the
key. -/
inductive Holds (info : InfoDictionary) (key : String) (Means : List Char → α → Prop) :
    Option α → Prop where
  | absent (hkey : info.get? key = none) : Holds info key Means none
  | present {value : String} {meaning : α} (hkey : info.get? key = some value)
      (hmeans : Means value.toList meaning) : Holds info key Means (some meaning)

structure Describes (info : InfoDictionary) (file : FileInfo) : Prop where
  kind : file.kind = (info.get? "st_ifmt").map .ofSpelling
  size : Holds info "st_size" Counts file.size
  blocks : Holds info "st_blocks" Counts file.blocks
  links : Holds info "st_nlink" Counts file.links
  modified : Holds info "st_mtime" Dates file.modified
  born : Holds info "st_birthtime" Dates file.born
  linkTarget : file.linkTarget = info.get? "LinkTarget"

/-! ## Reading one value -/

theorem word?_trim_iff {text : List Char} {number : UInt64} :
    Decimal.word? (Text.trim text) = some number ↔ Counts text number := by
  rw [Decimal.word?_eq_some_iff]
  constructor
  · exact fun hnumber => ⟨_, Text.padded_trim text, hnumber⟩
  · rintro ⟨core, hpadded, hnumber⟩
    rwa [hpadded.trim_eq (Decimal.Integer.natural hnumber).not_blank]

theorem timestamp?_trim_iff {text : List Char} {time : Timestamp} :
    timestamp? (Text.trim text) = some time ↔ Dates text time := by
  unfold timestamp?
  rw [Option.map_eq_some_iff]
  constructor
  · rintro ⟨nanoseconds, hsigned, rfl⟩
    obtain ⟨hnumber, hlow, hhigh⟩ := Decimal.signed?_eq_some_iff.mp hsigned
    exact ⟨_, nanoseconds, Text.padded_trim text, hnumber, hlow, hhigh, rfl⟩
  · rintro ⟨core, nanoseconds, hpadded, hnumber, hlow, hhigh, htime⟩
    refine ⟨nanoseconds, ?_, congrArg Timestamp.mk htime.symm⟩
    rw [hpadded.trim_eq hnumber.not_blank]
    exact Decimal.signed?_eq_some_iff.mpr ⟨hnumber, hlow, hhigh⟩

variable {info : InfoDictionary} {key : String} {read : List Char → Option α}
  {Means : List Char → α → Prop}

theorem field_eq_ok_iff (hread : ∀ {text meaning},
      read (Text.trim text) = some meaning ↔ Means text meaning) {found : Option α} :
    field info key read = .ok found ↔ Holds info key Means found := by
  unfold field
  cases hkey : info.get? key with
  | none =>
      dsimp only
      constructor
      · rintro ⟨⟩
        exact .absent hkey
      · intro hholds
        cases hholds with
        | absent _ => rfl
        | present hpresent _ =>
            rw [hkey] at hpresent
            cases hpresent
  | some value =>
      dsimp only
      constructor
      · intro hfield
        split at hfield
        · rename_i meaning htext
          cases hfield
          exact .present hkey (hread.mp htext)
        · cases hfield
      · intro hholds
        cases hholds with
        | absent habsent =>
            rw [hkey] at habsent
            cases habsent
        | present hpresent hmeans =>
            rw [hkey] at hpresent
            cases hpresent
            rw [hread.mpr hmeans]

theorem field_eq_error_iff (hread : ∀ {text meaning},
      read (Text.trim text) = some meaning ↔ Means text meaning) {error : ClientError} :
    field info key read = .error error ↔
      ∃ value, info.get? key = some value ∧ (¬∃ meaning, Means value.toList meaning) ∧
        error = .invalidInfoValue key value := by
  unfold field
  cases hkey : info.get? key with
  | none => simp
  | some value =>
      dsimp only
      simp only [Option.some.injEq, exists_eq_left']
      cases htext : read (Text.trim value.toList) with
      | none =>
          have hnone : ¬∃ meaning, Means value.toList meaning := by
            rintro ⟨meaning, hmeans⟩
            rw [hread.mpr hmeans] at htext
            cases htext
          rw [Except.error.injEq, eq_comm, and_iff_right hnone]
      | some meaning =>
          exact iff_of_false (by simp) fun h => h.1 ⟨meaning, hread.mp htext⟩

/-- Whatever comes of reading a key that is legible, it is no failure. -/
theorem exists_field_eq_ok_iff (hread : ∀ {text meaning},
      read (Text.trim text) = some meaning ↔ Means text meaning) :
    (∃ found, field info key read = .ok found) ↔
      Legible info ⟨key, fun text => ∃ meaning, Means text meaning⟩ := by
  constructor
  · rintro ⟨found, hfound⟩ value hkey
    cases (field_eq_ok_iff hread).mp hfound with
    | absent habsent =>
        rw [habsent] at hkey
        cases hkey
    | present hpresent hmeans =>
        rw [hpresent] at hkey
        cases hkey
        exact ⟨_, hmeans⟩
  · intro hlegible
    cases hfield : field info key read with
    | ok found => exact ⟨found, rfl⟩
    | error error =>
        obtain ⟨value, hkey, hnone, -⟩ := (field_eq_error_iff hread).mp hfield
        exact absurd (hlegible value hkey) hnone

/-! ## Reading one key after another -/

theorem bind_field_eq_ok_iff (hread : ∀ {text meaning},
      read (Text.trim text) = some meaning ↔ Means text meaning)
    {next : Option α → Except ClientError β} {result : β} :
    field info key read >>= next = .ok result ↔
      ∃ found, Holds info key Means found ∧ next found = .ok result := by
  simp only [← field_eq_ok_iff hread]
  cases field info key read <;> simp [bind, Except.bind]

/-- A key is reported if its value is illegible, and otherwise what comes after it decides. -/
theorem bind_field_eq_error_iff (hread : ∀ {text meaning},
      read (Text.trim text) = some meaning ↔ Means text meaning)
    {next : Option α → Except ClientError β} {later : List NumberKey} {error : ClientError}
    (hnext : ∀ found, next found = .error error ↔ Rejects info later error) :
    field info key read >>= next = .error error ↔
      Rejects info (⟨key, fun text => ∃ meaning, Means text meaning⟩ :: later) error := by
  cases hfield : field info key read with
  | ok found =>
      have hlegible := (exists_field_eq_ok_iff hread).mp ⟨found, hfield⟩
      rw [show (Except.ok found >>= next) = next found from rfl, hnext]
      constructor
      · exact .later hlegible
      · intro hrejects
        cases hrejects with
        | first hvalue hwritten => exact absurd (hlegible _ hvalue) hwritten
        | later _ hlater => exact hlater
  | error cause =>
      obtain ⟨value, hkey, hnone, rfl⟩ := (field_eq_error_iff hread).mp hfield
      constructor
      · rintro ⟨⟩
        exact .first hkey hnone
      · intro hrejects
        cases hrejects with
        | first hvalue _ =>
            rw [hkey] at hvalue
            cases hvalue
            rfl
        | later hlegible _ => exact absurd (hlegible value hkey) hnone

theorem ofDictionary_eq_error_iff {error : ClientError} :
    ofDictionary info = .error error ↔ Rejects info numberKeys error := by
  refine bind_field_eq_error_iff word?_trim_iff fun size => ?_
  refine bind_field_eq_error_iff word?_trim_iff fun blocks => ?_
  refine bind_field_eq_error_iff word?_trim_iff fun links => ?_
  refine bind_field_eq_error_iff timestamp?_trim_iff fun modified => ?_
  refine bind_field_eq_error_iff timestamp?_trim_iff fun born => ?_
  exact iff_of_false nofun nofun

/-- Nothing but the value of a key is reported. -/
theorem Rejects.invalid {keys : List NumberKey} {error : ClientError}
    (hrejects : Rejects info keys error) : ∃ key value, error = .invalidInfoValue key value := by
  induction hrejects with
  | first hvalue hwritten => exact ⟨_, _, rfl⟩
  | later hlegible hlater ih => exact ih

/-- A description is refused only for a number in it. -/
theorem ofDictionary_error {error : ClientError} (hinfo : ofDictionary info = .error error) :
    ∃ key value, error = .invalidInfoValue key value :=
  (ofDictionary_eq_error_iff.mp hinfo).invalid

theorem ofDictionary_eq_ok_iff {file : FileInfo} :
    ofDictionary info = .ok file ↔ Describes info file := by
  unfold ofDictionary
  simp only [bind_field_eq_ok_iff word?_trim_iff, bind_field_eq_ok_iff timestamp?_trim_iff]
  constructor
  · rintro ⟨size, hsize, blocks, hblocks, links, hlinks, modified, hmodified, born, hborn, ⟨⟩⟩
    exact ⟨rfl, hsize, hblocks, hlinks, hmodified, hborn, rfl⟩
  · rintro ⟨hkind, hsize, hblocks, hlinks, hmodified, hborn, htarget⟩
    refine ⟨_, hsize, _, hblocks, _, hlinks, _, hmodified, _, hborn, ?_⟩
    rw [← hkind, ← htarget]
    rfl

/-- Something is reported just when one of the keys is illegible. -/
theorem exists_rejects_iff {keys : List NumberKey} :
    (∃ error, Rejects info keys error) ↔ ∃ number ∈ keys, ¬Legible info number := by
  induction keys with
  | nil => exact iff_of_false (fun ⟨_, hrejects⟩ => nomatch hrejects) (by simp)
  | cons number later ih =>
      simp only [List.mem_cons, exists_eq_or_imp, ← ih]
      constructor
      · rintro ⟨error, hrejects⟩
        cases hrejects with
        | first hvalue hwritten =>
            exact .inl fun hlegible => hwritten (hlegible _ hvalue)
        | later _ hlater => exact .inr ⟨error, hlater⟩
      · intro hillegible
        by_cases hlegible : Legible info number
        · obtain ⟨error, hlater⟩ := hillegible.resolve_left (not_not_intro hlegible)
          exact ⟨error, .later hlegible hlater⟩
        · obtain ⟨value, hrest⟩ := not_forall.mp hlegible
          obtain ⟨hvalue, hwritten⟩ := Classical.not_imp.mp hrest
          exact ⟨_, .first hvalue hwritten⟩

theorem field_congr {other : InfoDictionary} (hkey : info.get? key = other.get? key) :
    field info key read = field other key read := by
  unfold field
  rw [hkey]

theorem ofDictionary_congr {other : InfoDictionary}
    (hkeys : ∀ key ∈ knownKeys, info.get? key = other.get? key) :
    ofDictionary info = ofDictionary other := by
  simp only [knownKeys, numberKeys, List.map_cons, List.map_nil, List.cons_append,
    List.nil_append, List.forall_mem_cons, List.not_mem_nil, false_imp_iff, implies_true,
    and_true] at hkeys
  obtain ⟨hsize, hblocks, hlinks, hmodified, hborn, hkind, htarget⟩ := hkeys
  unfold ofDictionary
  rw [field_congr hsize, field_congr hblocks, field_congr hlinks, field_congr hmodified,
    field_congr hborn, hkind, htarget]

/-- A description is refused just when one of its numbers is none by the grammar or out of range,
and with the first such; otherwise it says what the dictionary says, and nothing but the keys
that are known counts. -/
theorem description_exact (info : InfoDictionary) :
    ((∃ error, ofDictionary info = .error error) ↔
        ∃ number ∈ numberKeys, ¬Legible info number) ∧
      (∀ error, ofDictionary info = .error error ↔ Rejects info numberKeys error) ∧
      (∀ file, ofDictionary info = .ok file ↔ Describes info file) ∧
      ∀ other, (∀ key ∈ knownKeys, info.get? key = other.get? key) →
        ofDictionary info = ofDictionary other := by
  refine ⟨?_, fun error => ofDictionary_eq_error_iff, fun file => ofDictionary_eq_ok_iff,
    fun other hkeys => ofDictionary_congr hkeys⟩
  simp only [ofDictionary_eq_error_iff]
  exact exists_rejects_iff

/-- A size with a sign and blanks, and a number of links that is negative. -/
def misfit : InfoDictionary :=
  ⟨[("st_size", " +7\n"), ("st_mtime", "-1500000"), ("st_nlink", "-1")]⟩

/-- The number of links is reported, also beside a key that is not known. -/
theorem misfit_reported :
    (∀ key ∈ knownKeys, (misfit.insert "st_flags" "?").get? key = misfit.get? key) ∧
      Rejects misfit numberKeys (.invalidInfoValue "st_nlink" "-1") ∧
      ofDictionary (misfit.insert "st_flags" "?") = ofDictionary misfit := by
  have hkeys : ∀ key ∈ knownKeys,
      (misfit.insert "st_flags" "?").get? key = misfit.get? key := by decide
  exact ⟨hkeys, ((description_exact misfit).2.1 _).mp (by decide),
    (description_exact _).2.2.2 misfit hkeys⟩

end FileInfo

end FileConduit
