import FileConduit.Client.Path
import FileConduit.Proofs.FileInfo
import FileConduit.Proofs.Program.Rounds

/-!
# What the client sees

What the client takes a path for, by the answer to a request for its fields, and how an operation
goes on that looks at a path first.  A look that fails stops the operation, and so does a listing
that is not given.
-/

namespace FileConduit

namespace Client

open Program

/-! ## What the client sees at a path -/

inductive Sight where
  | directory
  | other
  | absent
  | failed (error : ClientError)

def Sight.ofAnswer : Except ClientError InfoDictionary → Sight
  | .error (.reply (.status .readError)) => absent
  | .error error => if error.isNotFound then absent else failed error
  | .ok fields =>
      match FileInfo.ofDictionary fields with
      | .ok info => if info.isDirectory then directory else other
      | .error error => failed error

/-- A look fails with what it is told of, or because the description cannot be read. -/
theorem Sight.failed_iff {answer : Except ClientError InfoDictionary} {error : ClientError} :
    Sight.ofAnswer answer = .failed error ↔
      (answer = .error error ∧ error ≠ .reply (.status .readError) ∧ error.isNotFound = false) ∨
        ∃ fields, answer = .ok fields ∧ FileInfo.ofDictionary fields = .error error := by
  rcases answer with told | fields
  · unfold Sight.ofAnswer
    split
    · rename_i heq
      cases heq
      simp only [reduceCtorEq, false_iff]
      rintro (⟨heq, hother, -⟩ | ⟨fields, heq, -⟩)
      · cases heq
        exact hother rfl
      · cases heq
    · rename_i told hother heq
      cases heq
      cases hfound : told.isNotFound with
      | true =>
          simp only [if_true, reduceCtorEq, false_iff]
          rintro (⟨heq, -, hpresent⟩ | ⟨fields, heq, -⟩)
          · cases heq
            rw [hfound] at hpresent
            cases hpresent
          · cases heq
      | false =>
          simp only [Bool.false_eq_true, if_false, failed.injEq, Except.error.injEq, reduceCtorEq,
            false_and, exists_false, or_false]
          constructor
          · rintro rfl
            exact ⟨rfl, hother, hfound⟩
          · rintro ⟨rfl, -, -⟩
            rfl
    · rename_i heq
      cases heq
  · cases hfields : FileInfo.ofDictionary fields with
    | error cause => simp [Sight.ofAnswer, hfields]
    | ok info => cases hdirectory : info.isDirectory <;> simp [Sight.ofAnswer, hfields, hdirectory]

inductive Sight.Gives : Sight → Except ClientError (Option FileInfo) → Prop where
  | directory {info : Option FileInfo} (hinfo : describesDirectory info = true) :
      Gives directory (.ok info)
  | other {info : Option FileInfo} (hinfo : describesDirectory info = false) :
      Gives other (.ok info)
  | absent {error : ClientError} (herror : error.isNotFound = true) : Gives absent (.error error)
  | failed {error : ClientError} (herror : error.isNotFound = false) :
      Gives (failed error) (.error error)

inductive Looks (path : String) (next : Except ClientError (Option FileInfo) → Program α) :
    List Round → Outcome α → Prop where
  | givenUp : Looks path next [⟨.fileInfo path, none⟩] .abandoned
  | answered {answer : Except ClientError InfoDictionary}
      {result : Except ClientError (Option FileInfo)} {rounds : List Round} {outcome : Outcome α}
      (hgives : (Sight.ofAnswer answer).Gives result) (hnext : Makes (next result) rounds outcome) :
      Looks path next (⟨.fileInfo path, some answer⟩ :: rounds) outcome

theorem stat_looks {path : String} {next : Except ClientError (Option FileInfo) → Program α}
    {rounds : List Round} {outcome : Outcome α}
    (hmakes : Makes ((stat path).andThen next) rounds outcome) :
    Looks path next rounds outcome := by
  cases hmakes with
  | givenUp => exact .givenUp
  | @answered _ _ answer rounds _ hnext =>
      have hgives : ∀ result, Makes (next result) rounds outcome →
          (Sight.ofAnswer answer).Gives result →
          Looks path next (⟨.fileInfo path, some answer⟩ :: rounds) outcome :=
        fun result hmakes hgives => .answered hgives hmakes
      dsimp only at hnext
      split at hnext
      · exact hgives _ hnext (.absent rfl)
      · rename_i error hother
        have hsight : Sight.ofAnswer (.error error) =
            if error.isNotFound then .absent else .failed error := by
          unfold Sight.ofAnswer
          split <;> simp_all
        refine hgives _ hnext ?_
        rw [hsight]
        cases hfound : error.isNotFound with
        | true => exact .absent hfound
        | false => exact .failed hfound
      · rename_i fields
        split at hnext
        · rename_i hempty
          have hfields : fields = .empty := congrArg InfoDictionary.mk (List.isEmpty_iff.mp hempty)
          refine hgives _ hnext ?_
          rw [hfields]
          exact .other rfl
        · cases hread : FileInfo.ofDictionary fields with
          | error error =>
              obtain ⟨key, value, rfl⟩ := FileInfo.ofDictionary_error hread
              rw [hread] at hnext
              refine hgives _ hnext ?_
              simp only [Sight.ofAnswer, hread]
              exact .failed rfl
          | ok info =>
              rw [hread] at hnext
              refine hgives _ hnext ?_
              simp only [Sight.ofAnswer, hread]
              split
              · rename_i hdirectory
                exact .directory hdirectory
              · rename_i hother
                rw [Bool.not_eq_true] at hother
                exact .other hother

/-! ## Failures -/

/-- Round trips after which nothing can simply go on, and the failure they are told of.  The
status of a request for removal is none: it is a value. -/
inductive Stops : Round → ClientError → Prop where
  | look {path : String} {answer : Except ClientError InfoDictionary} {error : ClientError}
      (hsight : Sight.ofAnswer answer = .failed error) :
      Stops ⟨.fileInfo path, some answer⟩ error
  | listing {path : String} {error : ClientError} :
      Stops ⟨.readDirectory path, some (.error error)⟩ error
  | removal {path : String} {error : ClientError} (herror : error.isStatus = false) :
      Stops ⟨.remove path, some (.error error)⟩ error

end Client

end FileConduit
