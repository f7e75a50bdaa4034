import FileConduit.Client.Path
import FileConduit.Proofs.Device.Tree
import FileConduit.Proofs.Program.Play

/-!
# What the device says of a path

How the operations on a path end, given the answer of the device.
-/

namespace FileConduit.Client

open Program

variable {σ : Type} {responder : Responder σ} {path : String} {world : World σ} {device : σ}

def seen (about : Description) : Option FileInfo :=
  if about.fields.isEmpty then none else some about.info

theorem describesDirectory_seen (about : Description) :
    describesDirectory (seen about) = about.info.isDirectory := by
  unfold seen
  split
  · rename_i hempty
    have hfields : about.fields = .empty :=
      congrArg InfoDictionary.mk (List.isEmpty_iff.mp hempty)
    have hreads := about.reads
    rw [hfields] at hreads
    rw [← Except.ok.inj hreads]
    rfl
  · rfl

theorem stat_described {about : Description}
    (hrespond : responder.respond world.device (.fileInfo path) = (.ok about.fields, device)) :
    Ends responder (stat path) world (.ok (seen about)) [.fileInfo path]
      { world with device } := by
  apply Ends.call hrespond
  unfold seen
  dsimp only [Except.mapError]
  split
  · exact .done _ _
  · rw [about.reads]
    exact .done _ _

theorem stat_absent {code : StatusCode} (hcode : code = .readError ∨ code = .objectNotFound)
    (hrespond :
      responder.respond world.device (.fileInfo path) = (.error (.status code), device)) :
    ∃ error, error.isNotFound = true ∧
      Ends responder (stat path) world (.error error) [.fileInfo path] { world with device } := by
  rcases hcode with rfl | rfl
  · exact ⟨.fileNotFound path, rfl, .call hrespond (.done _ _)⟩
  · exact ⟨.reply (.status .objectNotFound), rfl, .call hrespond (.done _ _)⟩

theorem stat_refused {cause : ReplyError}
    (hrespond : responder.respond world.device (.fileInfo path) = (.error cause, device)) :
    ∃ error, Ends responder (stat path) world (.error error) [.fileInfo path]
      { world with device } := by
  -- The match on the answer only opens once the code is known.
  cases cause with
  | status code => cases code <;> exact ⟨_, .call hrespond (.done _ _)⟩
  | _ => exact ⟨_, .call hrespond (.done _ _)⟩

theorem isDirectory_described {about : Description}
    (hrespond : responder.respond world.device (.fileInfo path) = (.ok about.fields, device)) :
    Ends responder (isDirectory path) world (.ok about.info.isDirectory) [.fileInfo path]
      { world with device } := by
  rw [← describesDirectory_seen]
  exact (stat_described hrespond).bind (.done _ _)

theorem listDirectory_answered {names : List String}
    (hrespond : responder.respond world.device (.readDirectory path) = (.ok names, device)) :
    Ends responder (listDirectory path) world (.ok names) [.readDirectory path]
      { world with device } :=
  .request hrespond

end FileConduit.Client
