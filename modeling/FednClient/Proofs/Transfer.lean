import FednClient.Spec.Transfer

/-! The chunk protocol. The generator in `set_model` sends a buffer as its
`CHUNK_SIZE` pieces and one empty `OK` frame, and has returned by then; `get_model`
keeps the `IN_PROGRESS` data up to the first terminal frame. Read back as a
download, an upload gives the buffer back, at every length. -/

namespace Fedn

theorem BytesBuf.write_end (b : BytesBuf) (d : List UInt8) (h : b.pos = b.buf.length) :
    b.write d = ⟨b.buf ++ d, b.pos + d.length⟩ := by
  simp [BytesBuf.write, h, List.drop_eq_nil_of_le]

/-! ### Download -/

/-- What a download keeps of a frame sequence: the `IN_PROGRESS` data before the
first terminal frame, or nothing when that frame is `FAILED`. -/
def received : List ModelResponse → Option (List UInt8)
  | [] => some []
  | p :: ps =>
    match p.status with
    | .IN_PROGRESS => (received ps).map (p.data ++ ·)
    | .OK => some []
    | .FAILED => none

theorem getModelLoop_eq (parts : List ModelResponse) :
    ∀ d : BytesBuf, d.pos = d.buf.length →
      getModelLoop d parts = (received parts).map (fun l => ⟨d.buf ++ l, d.pos + l.length⟩) := by
  induction parts with
  | nil => intro d _; simp [getModelLoop, received]
  | cons p ps ih =>
    intro d hd
    rcases p with ⟨data, status⟩
    cases status with
    | OK => simp [getModelLoop, received]
    | FAILED => simp [getModelLoop, received]
    | IN_PROGRESS =>
      have hw := BytesBuf.write_end d data hd
      simp only [getModelLoop, received, if_pos, hw, reduceCtorEq, if_false]
      rw [ih _ (by simp [hd])]
      cases received ps <;> simp [Nat.add_assoc]

theorem received_eq (parts : List ModelResponse) :
    received parts =
      if (parts.find? (·.status ≠ .IN_PROGRESS)).map (·.status) = some .FAILED then none
      else some ((parts.takeWhile (·.status = .IN_PROGRESS)).flatMap (·.data)) := by
  induction parts with
  | nil => rfl
  | cons p ps ih =>
    rcases p with ⟨data, status⟩
    cases status <;> simp [received, ih, List.find?_cons, List.takeWhile_cons]
    split <;> simp

/-- `get_model` returns nothing exactly when the first terminal frame is `FAILED`;
otherwise, also for a stream that ends with no terminal frame, a buffer holding the
`IN_PROGRESS` data before that frame. -/
theorem getModel_spec (parts : List ModelResponse) :
    (getModel parts).map BytesBuf.buf =
      if (parts.find? (·.status ≠ .IN_PROGRESS)).map (·.status) = some .FAILED then none
      else some ((parts.takeWhile (·.status = .IN_PROGRESS)).flatMap (·.data)) := by
  rw [getModel, getModelLoop_eq parts _ rfl, ← received_eq]
  cases received parts <;> rfl

/-- A stream cut off before any terminal frame still yields a buffer. -/
theorem getModel_without_terminal :
    ¬ ∀ parts : List ModelResponse, (getModel parts).isSome = true ↔
      (parts.find? (·.status ≠ .IN_PROGRESS)).map (·.status) = some .OK := by
  intro h
  exact absurd ((h [⟨[1], .IN_PROGRESS⟩]).mp (by decide)) (by decide)

/-! ### Upload -/

/-- `l` cut into `CHUNK_SIZE`-byte pieces, the last one possibly shorter. -/
def chunks (l : List UInt8) : List (List UInt8) :=
  if h : l = [] then [] else l.take CHUNK_SIZE :: chunks (l.drop CHUNK_SIZE)
termination_by l.length
decreasing_by
  have := List.length_pos.mpr h
  have := chunk_size_pos
  simp only [List.length_drop]
  omega

/-- The frames of the chunk protocol for `l`: one per chunk, then an empty `OK`. -/
def chunkFrames (id : String) (l : List UInt8) : List ModelRequest :=
  (chunks l).map (fun c => ⟨c, id, .IN_PROGRESS⟩) ++ [⟨[], id, .OK⟩]

@[simp] theorem chunks_nil : chunks [] = [] := by
  rw [chunks]; rfl

theorem chunks_of_ne_nil {l : List UInt8} (h : l ≠ []) :
    chunks l = l.take CHUNK_SIZE :: chunks (l.drop CHUNK_SIZE) := by
  rw [chunks, dif_neg h]

theorem flatten_chunks (l : List UInt8) : (chunks l).flatten = l := by
  induction l using chunks.induct with
  | case1 => simp
  | case2 l h ih => rw [chunks_of_ne_nil h, List.flatten_cons, ih, List.take_append_drop]

theorem chunks_length (l : List UInt8) :
    (chunks l).length = (l.length + CHUNK_SIZE - 1) / CHUNK_SIZE := by
  induction l using chunks.induct with
  | case1 => simp [CHUNK_SIZE]
  | case2 l h ih =>
    have := List.length_pos.mpr h
    rw [chunks_of_ne_nil h, List.length_cons, ih, List.length_drop]
    simp only [CHUNK_SIZE]
    omega

theorem chunks_length_le (l : List UInt8) : (chunks l).length ≤ l.length := by
  rw [chunks_length]
  simp only [CHUNK_SIZE]
  omega

theorem chunk_length_mem (l : List UInt8) :
    ∀ c ∈ chunks l, 0 < c.length ∧ c.length ≤ CHUNK_SIZE := by
  induction l using chunks.induct with
  | case1 => simp
  | case2 l h ih =>
    rw [chunks_of_ne_nil h]
    intro c hc
    rcases List.mem_cons.mp hc with rfl | hc
    · have := List.length_pos.mpr h
      have := chunk_size_pos
      simp only [List.length_take]
      omega
    · exact ih c hc

theorem chunk_length_full (l : List UInt8) :
    ∀ c ∈ (chunks l).dropLast, c.length = CHUNK_SIZE := by
  induction l using chunks.induct with
  | case1 => simp
  | case2 l h ih =>
    rw [chunks_of_ne_nil h]
    intro c hc
    by_cases hd : l.drop CHUNK_SIZE = []
    · simp [hd] at hc
    · rw [chunks_of_ne_nil hd, List.dropLast_cons₂, ← chunks_of_ne_nil hd] at hc
      rcases List.mem_cons.mp hc with rfl | hc
      · have := List.length_pos.mpr hd
        simp only [List.length_take, List.length_drop] at this ⊢
        omega
      · exact ih c hc

@[simp] theorem uploadRequestGenerator_none (id : String) (n : Nat) :
    uploadRequestGenerator id n none = ([], none) := by
  cases n <;> rfl

theorem resume_eq (id : String) (buf : List UInt8) (p : Nat) :
    uploadRequestGenerator.resume id ⟨buf, p⟩ =
      if buf.drop p = [] then (⟨[], id, .OK⟩, none)
      else (⟨(buf.drop p).take CHUNK_SIZE, id, .IN_PROGRESS⟩,
        some ⟨buf, p + ((buf.drop p).take CHUNK_SIZE).length⟩) := by
  have hc := chunk_size_pos
  by_cases h : buf.drop p = [] <;> simp [uploadRequestGenerator.resume, BytesBuf.read, h]
  omega

/-- Resumed often enough, the generator yields the chunk frames of the unread
bytes and returns. -/
theorem uploadRequestGenerator_eq (id : String) (buf : List UInt8) (n : Nat) :
    ∀ p, (chunks (buf.drop p)).length < n →
      uploadRequestGenerator id n (some ⟨buf, p⟩) = (chunkFrames id (buf.drop p), none) := by
  induction n with
  | zero => intro p h; omega
  | succ n ih =>
    intro p hn
    by_cases h : buf.drop p = []
    · simp [uploadRequestGenerator, resume_eq, h, chunkFrames]
    · rw [chunks_of_ne_nil h, List.length_cons] at hn
      have hd : buf.drop (p + ((buf.drop p).take CHUNK_SIZE).length) = (buf.drop p).drop CHUNK_SIZE := by
        rw [← List.drop_drop, List.length_take]
        by_cases hl : CHUNK_SIZE ≤ (buf.drop p).length
        · rw [Nat.min_eq_left hl]
        · rw [Nat.min_eq_right (by omega), List.drop_length, List.drop_eq_nil_of_le (by omega)]
      simp only [uploadRequestGenerator, resume_eq, h, if_false]
      rw [ih _ (by rw [hd]; omega), hd]
      simp [chunkFrames, chunks_of_ne_nil h]

theorem setModel_eq (model : BytesBuf) (id : String) :
    setModel model id = chunkFrames id model.buf := by
  rw [setModel, BytesBuf.seek0, uploadRequestGenerator_eq id model.buf _ 0
    (by have := chunks_length_le model.buf; simpa using Nat.lt_succ_of_le this)]
  rfl

theorem setModel_drains (model : BytesBuf) (id : String) :
    uploadRequestGenerator id (setModel model id).length (some model.seek0) =
      (setModel model id, none) := by
  rw [setModel_eq, BytesBuf.seek0, uploadRequestGenerator_eq id model.buf _ 0
    (by simp [chunkFrames])]
  rfl

/-- The generator is finite: `⌈N / CHUNK_SIZE⌉` `IN_PROGRESS` frames of one to
`CHUNK_SIZE` bytes, all full but the last, then one empty `OK` frame, after which it
has returned; every frame carries `id`. -/
theorem setModel_frames (model : BytesBuf) (id : String) :
    ∃ cs : List (List UInt8),
      setModel model id = cs.map (fun c => ⟨c, id, .IN_PROGRESS⟩) ++ [⟨[], id, .OK⟩] ∧
      (uploadRequestGenerator id (setModel model id).length (some model.seek0)).2 = none ∧
      cs.length = (model.buf.length + CHUNK_SIZE - 1) / CHUNK_SIZE ∧
      (∀ c ∈ cs, 0 < c.length ∧ c.length ≤ CHUNK_SIZE) ∧
      (∀ c ∈ cs.dropLast, c.length = CHUNK_SIZE) :=
  ⟨chunks model.buf, setModel_eq model id, by rw [setModel_drains], chunks_length _,
    chunk_length_mem _, chunk_length_full _⟩

theorem received_inProgress_ok (cs : List (List UInt8)) :
    received (cs.map (fun c => ⟨c, .IN_PROGRESS⟩) ++ [⟨[], .OK⟩]) = some cs.flatten := by
  induction cs with
  | nil => rfl
  | cons c cs ih => simp [received, ih]

theorem received_chunkFrames (id : String) (l : List UInt8) :
    received ((chunkFrames id l).map ModelRequest.toResponse) = some l := by
  have h : (chunkFrames id l).map ModelRequest.toResponse =
      (chunks l).map (fun c => ⟨c, .IN_PROGRESS⟩) ++ [⟨[], .OK⟩] := by
    simp [chunkFrames, ModelRequest.toResponse]
  rw [h, received_inProgress_ok, flatten_chunks]

/-- Upload then download is the identity on the buffer's bytes, wherever its read
position stood. -/
theorem getModel_setModel (model : BytesBuf) (id : String) :
    (getModel ((setModel model id).map ModelRequest.toResponse)).map BytesBuf.buf =
      some model.buf := by
  rw [getModel, getModelLoop_eq _ _ rfl, setModel_eq, received_chunkFrames]
  rfl

end Fedn
