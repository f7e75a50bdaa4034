import FileConduit.Proofs.Wire.Taking

/-!
# Streams in pieces

A buffer that is drained after each piece that comes gives, in all, what the whole stream gives at
once.  So it makes no difference where the stream is cut.  Once a draining has ended in an error,
every later one ends in the same error and gives no frame.
-/

namespace FileConduit.Frame

/-- What drainings give in all: the frames of each in turn, and the error and the rest of the
last. -/
def Drained.inAll (drains : List Drained) : Drained where
  frames := drains.flatMap Drained.frames
  error := drains.getLast?.bind Drained.error
  rest := (drains.getLast?.map Drained.rest).getD []

variable {limit : UInt64}

theorem Drained.inAll_single (drained : Drained) : inAll [drained] = drained := by
  simp [inAll]

theorem Drained.inAll_cons (first : Drained) {later : List Drained} (hlater : later ≠ []) :
    inAll (first :: later) = (inAll later).behind first.frames := by
  cases later with
  | nil => contradiction
  | cons second later => simp [inAll, behind]

/-- To drain a buffer and then the rest with more bytes is to drain all of it. -/
theorem drain_append (limit : UInt64) (bytes more : Bytes) :
    drain limit (bytes ++ more) =
      (drain limit ((drain limit bytes).rest ++ more)).behind (drain limit bytes).frames :=
  ((drain_taken limit bytes).append more).drain_eq

theorem drainPieces_ne_nil (limit : UInt64) (buffer piece : Bytes) (pieces : List Bytes) :
    drainPieces limit buffer (piece :: pieces) ≠ [] := by
  simp [drainPieces]

theorem inAll_drainPieces_cons (limit : UInt64) (pieces : List Bytes) :
    ∀ buffer piece : Bytes, Drained.inAll (drainPieces limit buffer (piece :: pieces)) =
      drain limit (buffer ++ (piece :: pieces).flatten) := by
  induction pieces with
  | nil =>
      intro buffer piece
      simp only [drainPieces, Drained.inAll_single, List.flatten_cons, List.flatten_nil,
        List.append_nil]
  | cons next pieces ih =>
      intro buffer piece
      calc
        Drained.inAll (drainPieces limit buffer (piece :: next :: pieces)) =
          (Drained.inAll (drainPieces limit (drain limit (buffer ++ piece)).rest
            (next :: pieces))).behind (drain limit (buffer ++ piece)).frames := by
            rw [drainPieces, Drained.inAll_cons _ (drainPieces_ne_nil limit _ next pieces)]
        _ = drain limit (buffer ++ piece ++ (next :: pieces).flatten) := by
            rw [ih, ← drain_append]
        _ = drain limit (buffer ++ (piece :: next :: pieces).flatten) := by
            rw [List.flatten_cons (l := piece), List.append_assoc]

/-- Draining after each piece gives what draining the whole stream gives. -/
theorem inAll_drainPieces (limit : UInt64) (pieces : List Bytes) :
    Drained.inAll (drainPieces limit [] pieces) = drain limit pieces.flatten := by
  cases pieces with
  | nil => exact (drain_of_wait rfl).symm
  | cons piece pieces =>
      rw [inAll_drainPieces_cons, List.nil_append]

/-! ## After an error -/

/-- A refused buffer stays refused, whatever comes. -/
theorem drainPieces_refused {error : FramingError} (pieces : List Bytes) :
    ∀ {buffer : Bytes}, next limit buffer = .refused error →
      ∀ drained ∈ drainPieces limit buffer pieces,
        drained.error = some error ∧ drained.frames = [] := by
  induction pieces with
  | nil => simp [drainPieces]
  | cons piece pieces ih =>
      intro buffer hrefused drained hdrained
      have hmore := next_append_refused hrefused piece
      rw [drainPieces, drain_of_refused hmore] at hdrained
      rcases List.mem_cons.mp hdrained with rfl | hlater
      · exact ⟨rfl, rfl⟩
      · exact ih hmore drained hlater

/-- An error of one draining is the error of all later ones, and they give no frame. -/
theorem drainPieces_error_stays {drained : Drained} {error : FramingError}
    (herror : drained.error = some error) {later : List Drained} (earlier : List Drained) :
    ∀ {buffer : Bytes} {pieces : List Bytes},
      drainPieces limit buffer pieces = earlier ++ drained :: later →
      ∀ after ∈ later, after.error = some error ∧ after.frames = [] := by
  induction earlier with
  | nil =>
      intro buffer pieces hdrains
      cases pieces with
      | nil => cases hdrains
      | cons piece pieces =>
          obtain ⟨rfl, rfl⟩ := List.cons.inj hdrains
          have hrest := next_rest_drain limit (buffer ++ piece)
          rw [herror] at hrest
          exact drainPieces_refused pieces hrest
  | cons first earlier ih =>
      intro buffer pieces hdrains
      cases pieces with
      | nil => cases hdrains
      | cons piece pieces => exact ih (List.cons.inj hdrains).2

/-- However a stream is cut into pieces, draining after each piece gives the same frames in all, the
same error or none after the last piece, and the same rest.  Once an error has come, each later
piece gives the same error and no frame. -/
theorem drained_however_cut (limit : UInt64) (pieces others : List Bytes)
    (hsame : pieces.flatten = others.flatten) :
    Drained.inAll (drainPieces limit [] pieces) = Drained.inAll (drainPieces limit [] others) ∧
      ∀ earlier drained later error,
        drainPieces limit [] pieces = earlier ++ drained :: later → drained.error = some error →
        ∀ after ∈ later, after.error = some error ∧ after.frames = [] := by
  constructor
  · rw [inAll_drainPieces, inAll_drainPieces, hsame]
  · intro earlier drained later error hdrains herror
    exact drainPieces_error_stays herror earlier hdrains

/-- A frame, and forty bytes behind it that open no frame, in pieces. -/
def spoilt : List Bytes :=
  [(single .data [1, 2] 0).encode.take 41, (single .data [1, 2] 0).encode.drop 41 ++ [0],
    List.replicate 39 0, [], [7]]

/-- The error comes with the third piece and stays; in one piece, frame and error come at once. -/
theorem spoilt_however_cut :
    spoilt.flatten = [spoilt.flatten].flatten ∧
      Drained.inAll (drainPieces 1024 [] spoilt) =
        Drained.inAll (drainPieces 1024 [] [spoilt.flatten]) ∧
      (Drained.inAll (drainPieces 1024 [] spoilt)).frames = [single .data [1, 2] 0] ∧
      ∀ after ∈ (drainPieces 1024 [] spoilt).drop 3,
        after.error = some .badMagic ∧ after.frames = [] := by
  have hwhole : spoilt.flatten = [spoilt.flatten].flatten := by simp
  have hdrains : drainPieces 1024 [] spoilt =
      (drainPieces 1024 [] spoilt).take 2 ++
        ⟨[], some .badMagic, List.replicate 40 0⟩ :: (drainPieces 1024 [] spoilt).drop 3 := by
    cbv
  obtain ⟨hcut, hstays⟩ := drained_however_cut 1024 spoilt [spoilt.flatten] hwhole
  exact ⟨hwhole, hcut, by cbv, hstays _ _ _ .badMagic hdrains rfl⟩

end FileConduit.Frame
