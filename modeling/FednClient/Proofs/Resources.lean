import FednClient.Proofs.Success

/-! Open file descriptors and temporary files. With a `get_tmp_path` that closes what it
opens, every step of a training task leaves the descriptors as they were, whatever it
raises; a validation task that returns leaves one more open, so a run of
`process_request` leaks one descriptor per completed validation. The `os.unlink` calls
stand at the end of the `try` blocks, with no `finally`, so a training task whose command
fails leaves the downloaded model behind in a temporary file. -/

namespace Fedn

open PyM

/-- `get_tmp_path` closes the descriptor it opens. -/
def Helper.Closes (h : Helper) : Prop := ∀ fs, (h.getTmpPath fs).2.fds = fs.fds

theorem Helper.tempfile_closes : Helper.tempfile.Closes := fun fs => by
  show (fs.fds ++ [fs.next]).erase fs.next = fs.fds
  rw [List.erase_append_right _ (fun h => Nat.lt_irrefl _ (fs.fds_lt _ h))]
  simp

variable {α β : Type}

/-- `x` leaves the open descriptors as they are, whatever it returns or raises. -/
def KeepsFds (x : PyM α) : Prop := ∀ w, (x.exec w).2.fs.fds = w.fs.fds

namespace KeepsFds

theorem of_fs {x : PyM α} (h : ∀ w, (x.exec w).2.fs = w.fs) : KeepsFds x := fun w => by rw [h]

theorem pure (a : α) : KeepsFds (Pure.pure a : PyM α) := fun _ => rfl

theorem throw (e : PyExc) : KeepsFds (MonadExcept.throw e : PyM α) := fun _ => rfl

theorem bind {x : PyM α} {f : α → PyM β} (hx : KeepsFds x) (hf : ∀ a, KeepsFds (f a)) :
    KeepsFds (x >>= f) := by
  intro w
  rw [exec_bind, ← hx w]
  rcases x.exec w with ⟨_ | a, w'⟩
  · rfl
  · exact hf a w'

theorem tryCatch {x : PyM α} {h : PyExc → PyM α} (hx : KeepsFds x) (hh : ∀ e, KeepsFds (h e)) :
    KeepsFds (tryCatch x h) := by
  intro w
  rw [exec_tryCatch, ← hx w]
  rcases x.exec w with ⟨e | a, w'⟩
  · exact hh e w'
  · rfl

end KeepsFds

theorem keepsFds_setState (st : ClientState) : KeepsFds (setState st) := fun _ => rfl

theorem keepsFds_rpc (ok : Bool) (m : Sent) : KeepsFds (rpc ok m) := fun _ => by cases ok <;> rfl

theorem keepsFds_getModelM (env : TaskEnv) (id : String) : KeepsFds (getModelM env id) :=
  fun w => by rw [exec_getModelM]; cases env.download id <;> rfl

theorem keepsFds_getbuffer (b : Option BytesBuf) : KeepsFds (getbuffer b) := fun _ => by cases b <;> rfl

theorem keepsFds_getTmpPath {ctx : Ctx} (hc : ctx.helper.Closes) : KeepsFds (getTmpPath ctx) :=
  fun w => hc w.fs

theorem keepsFds_writeFile (p : String) (d : List UInt8) : KeepsFds (writeFile p d) := fun _ => rfl

theorem keepsFds_runCmd (env : TaskEnv) (name : String) (args : List String) :
    KeepsFds (runCmd env name args) :=
  fun w => by rw [exec_runCmd]; cases env.runCmd name args w.fs.files <;> rfl

theorem keepsFds_readBytes (p : String) : KeepsFds (readBytes p) :=
  fun w => by rw [exec_readBytes]; cases w.fs.read p <;> rfl

theorem keepsFds_readText (ctx : Ctx) (p : String) : KeepsFds (readText ctx p) :=
  KeepsFds.bind (keepsFds_readBytes p) fun b => by
    cases ctx.decode b
    exacts [KeepsFds.throw _, KeepsFds.pure _]

theorem keepsFds_jsonLoads (ctx : Ctx) (s : String) : KeepsFds (jsonLoads ctx s) :=
  fun w => by rw [exec_jsonLoads]; cases ctx.json.loads s <;> rfl

theorem keepsFds_setModelM (env : TaskEnv) (model : BytesBuf) (id : String) :
    KeepsFds (setModelM env model id) := keepsFds_rpc _ _

theorem keepsFds_unlink (p : String) : KeepsFds (unlink p) := fun w => by
  rw [exec_unlink]
  unfold Fs.unlink
  split_ifs <;> rfl

section Training

variable {ctx : Ctx} (hc : ctx.helper.Closes) (env : TaskEnv)
include hc

theorem keepsFds_trainingBody (modelId : String) :
    KeepsFds (processTrainingRequest.body ctx env modelId) := by
  unfold processTrainingRequest.body
  refine KeepsFds.bind (keepsFds_getModelM _ _) fun mdl => ?_
  refine KeepsFds.bind (keepsFds_getTmpPath hc) fun inpath => ?_
  refine KeepsFds.bind (keepsFds_getbuffer _) fun b => ?_
  refine KeepsFds.bind (keepsFds_writeFile _ _) fun _ => ?_
  refine KeepsFds.bind (keepsFds_getTmpPath hc) fun outpath => ?_
  refine KeepsFds.bind (keepsFds_runCmd _ _ _) fun _ => ?_
  refine KeepsFds.bind (keepsFds_readBytes _) fun out => ?_
  refine KeepsFds.bind (keepsFds_setModelM _ _ _) fun _ => ?_
  refine KeepsFds.bind (keepsFds_readText _ _) fun t => ?_
  refine KeepsFds.bind (keepsFds_jsonLoads _ _) fun v => ?_
  refine KeepsFds.bind (keepsFds_unlink _) fun _ => ?_
  refine KeepsFds.bind (keepsFds_unlink _) fun _ => ?_
  refine KeepsFds.bind (keepsFds_unlink _) fun _ => ?_
  exact KeepsFds.pure _

/-- A training task closes every descriptor it opens, whether it returns or raises. -/
theorem keepsFds_handle_train (request : Request) :
    KeepsFds (processRequest.handle ctx env (.train, request)) := by
  unfold processRequest.handle processTrainingRequest
  refine KeepsFds.bind (keepsFds_setState _) fun _ => ?_
  refine KeepsFds.bind ?_ fun ⟨modelId, meta⟩ => ?_
  · refine KeepsFds.bind (keepsFds_rpc _ _) fun _ => ?_
    refine KeepsFds.bind (keepsFds_setState _) fun _ => ?_
    refine KeepsFds.bind (KeepsFds.tryCatch ?_ fun _ => KeepsFds.pure _) fun _ => ?_
    · exact KeepsFds.bind (keepsFds_trainingBody hc env _) fun _ => KeepsFds.pure _
    · exact KeepsFds.bind (keepsFds_setState _) fun _ => KeepsFds.pure _
  · cases modelId
    · exact KeepsFds.bind (keepsFds_rpc _ _) fun _ => keepsFds_setState _
    · exact KeepsFds.bind (keepsFds_rpc _ _) fun _ =>
        KeepsFds.bind (keepsFds_rpc _ _) fun _ => keepsFds_setState _

end Training

/-- A validation task that returns has left open the descriptor of its
`tempfile.mkstemp()`, bound to `_` and never closed. -/
theorem handle_validate_fds {ctx : Ctx} (hc : ctx.helper.Closes) (env : TaskEnv) (request : Request)
    (w : World) (h : ((processRequest.handle ctx env (.validate, request)).exec w).1 = .ok ()) :
    ∃ fd, ((processRequest.handle ctx env (.validate, request)).exec w).2.fs.fds = w.fs.fds ++ [fd] := by
  have hs : env.startStatusOk = true := by
    cases hs : env.startStatusOk
    · simp [processRequest.handle, processValidationRequest, sendStatus, hs, exec_bind] at h
    · rfl
  rcases hb : (processValidationRequest.body ctx env (if request.isInference then "infer" else "validate")
      request.modelId).exec (validationEntry ctx request.modelId request.isInference
        { w with state := some .validating }) with ⟨e | v, w3⟩
  · simp [processRequest.handle, exec_bind, exec_processValidationRequest _ _ _ _ _ hs, hb] at h
  · obtain ⟨-, -, -, -, -, -, -, -, -, -, -, -, hfds⟩ := validationBody_ok hb
    have hv : (processValidationRequest ctx env request.modelId request.isInference).exec
        { w with state := some .validating } = (.ok v, { w3 with state := some .idle }) := by
      rw [exec_processValidationRequest _ _ _ _ _ hs, hb]
    refine ⟨(ctx.helper.getTmpPath w.fs).2.next, ?_⟩
    unfold processRequest.handle
    rw [exec_bind_ok (exec_setState _ w), exec_bind_ok hv]
    refine (show KeepsFds _ from ?k) _ |>.trans ?_
    case k =>
      split
      · exact KeepsFds.bind (keepsFds_rpc _ _) fun _ =>
          KeepsFds.bind (keepsFds_rpc _ _) fun _ => keepsFds_setState _
      · exact KeepsFds.bind (keepsFds_rpc _ _) fun _ => keepsFds_setState _
    rw [hfds, validationEntry_fs, hc]

/-- Over a run of `process_request` that returns, the open descriptors grow by one for each
validate envelope and by none for a train envelope. -/
theorem run_leaks_validation_fds {ctx : Ctx} (hc : ctx.helper.Closes) (env : TaskEnv) :
    ∀ (es : List Envelope) (w : World), ((processRequest ctx env es).exec w).1 = .ok () →
      ∃ l, ((processRequest ctx env es).exec w).2.fs.fds = w.fs.fds ++ l ∧
        l.length = es.countP (·.1 = .validate)
  | [], w, _ => ⟨[], by simp [processRequest]⟩
  | (t, request) :: es, w, h => by
    obtain ⟨u, w1, h1, k1⟩ := exec_bind_eq_ok (exec_eq_of_result h)
    obtain ⟨l, hl, hlen⟩ := run_leaks_validation_fds hc env es w1 (by rw [k1])
    rw [show (processRequest ctx env ((t, request) :: es)).exec w = (processRequest ctx env es).exec w1
      from exec_bind_ok h1 _]
    cases t with
    | train =>
      have hk := keepsFds_handle_train hc env request w
      rw [h1] at hk
      exact ⟨l, by rw [hl, hk], by simp [hlen]⟩
    | validate =>
      obtain ⟨fd, hfd⟩ := handle_validate_fds hc env request w (by rw [h1])
      rw [h1] at hfd
      exact ⟨fd :: l, by rw [hl, hfd]; simp, by simp [hlen]⟩

example : ((processRequest workerCtx okEnv [(.validate, combinerRequest)]).exec startWorld).2.fs.fds =
    [0, 1, 2, 4] := by rfl

/-- One validation for the combiner in `okEnv` returns, from a worker with descriptors 0 to 2
open. -/
theorem run_leaks_validation_fds_okEnv :
    ((processRequest workerCtx okEnv [(.validate, combinerRequest)]).exec startWorld).1 = .ok () ∧
    ∃ l, ((processRequest workerCtx okEnv [(.validate, combinerRequest)]).exec startWorld).2.fs.fds =
      [0, 1, 2] ++ l ∧ l.length = 1 :=
  have h : ((processRequest workerCtx okEnv [(.validate, combinerRequest)]).exec startWorld).1 =
      .ok () := rfl
  ⟨h, run_leaks_validation_fds Helper.tempfile_closes okEnv _ startWorld h⟩

/-! ### Temporary files -/

theorem lookup_eq_none_of_ne {β : Type} (key : String) :
    ∀ l : List (String × β), (∀ x ∈ l, x.1 ≠ key) → l.lookup key = none
  | [], _ => rfl
  | (k, v) :: l, h => by
    have hk : (key == k) = false := beq_false_of_ne (h (k, v) (List.mem_cons_self _ _)).symm
    simp only [List.lookup_cons, hk]
    exact lookup_eq_none_of_ne key l fun x hx => h x (by simp [hx])

theorem le_foldr_max_length {β : Type} :
    ∀ (l : List (String × β)) (x : String × β), x ∈ l →
      x.1.length ≤ l.foldr (fun p n => max n p.1.length) 0
  | [], _, h => by simp at h
  | y :: l, x, h => by
    rcases List.mem_cons.mp h with rfl | h
    · simp
    · exact le_trans (le_foldr_max_length l x h) (by simp)

/-- A path in use is shorter than the fresh one. -/
theorem Fs.length_lt_freshPath (fs : Fs) {x : String × List UInt8} (h : x ∈ fs.files) :
    x.1.length < fs.freshPath.length := by
  have := le_foldr_max_length fs.files x h
  simp only [Fs.freshPath, String.length_append, String.length_mk, List.length_replicate]
  have : "/tmp/tmp".length = 8 := rfl
  omega

@[simp] theorem Fs.read_freshPath (fs : Fs) : fs.read fs.freshPath = none :=
  lookup_eq_none_of_ne _ _ fun x hx he => by
    have := fs.length_lt_freshPath hx
    rw [he] at this
    exact Nat.lt_irrefl _ this

@[simp] theorem Fs.read_write_self (fs : Fs) (p : String) (d : List UInt8) : (fs.write p d).read p = some d := by
  simp [Fs.write, Fs.read, List.lookup_cons]

/-- `get_tmp_path` of the temp-file helper adds one empty file, at the fresh path. -/
theorem Helper.tempfile_read (fs : Fs) (p : String) :
    (Helper.tempfile.getTmpPath fs).2.read p = if p = fs.freshPath then some [] else fs.read p := by
  by_cases h : p = fs.freshPath
  · subst h; simp [Helper.tempfile, Fs.mkstemp, Fs.close, Fs.read, List.lookup_cons]
  · simp [Helper.tempfile, Fs.mkstemp, Fs.close, Fs.read, List.lookup_cons, h, beq_false_of_ne h]

@[simp] theorem Helper.tempfile_path (fs : Fs) : (Helper.tempfile.getTmpPath fs).1 = fs.freshPath := rfl

/-- For every download that yields a model and every world: when the `train` command raises,
`_process_training_request` reports a failed update and leaves behind a file it created,
absent before, holding the downloaded model; its `os.unlink` calls sit in the `try` block
after the command, and there is no `finally`. -/
theorem trainingRequest_leaves_model_file {ctx : Ctx} (hc : ctx.helper = Helper.tempfile)
    {env : TaskEnv} {modelId : String} {parts : List ModelResponse} {b : BytesBuf} (w : World)
    (hs : env.startStatusOk = true) (hd : env.download modelId = some parts)
    (hm : getModel parts = some b) (hcmd : ∀ args files, ∃ e, env.runCmd "train" args files = .error e) :
    (∃ meta, ((processTrainingRequest ctx env modelId).exec w).1 = .ok (none, meta)) ∧
    ∃ p, w.fs.read p = none ∧ ((processTrainingRequest ctx env modelId).exec w).2.fs.read p = some b.buf := by
  -- the block raises at `run_cmd`, with the model written to its first temporary path
  have hb : ∃ e w', (processTrainingRequest.body ctx env modelId).exec (trainingEntry ctx modelId w) =
      (.error e, w') ∧
      w'.fs = (Helper.tempfile.getTmpPath ((Helper.tempfile.getTmpPath w.fs).2.write w.fs.freshPath b.buf)).2 := by
    choose fail hfail using hcmd
    simp only [processTrainingRequest.body, exec_bind, exec_getModelM, hd, hm, exec_getTmpPath,
      exec_getbuffer_some, exec_writeFile, exec_runCmd, hc, trainingEntry_fs, Helper.tempfile_path, hfail]
    exact ⟨_, _, rfl, rfl⟩
  obtain ⟨e, w', hb, hfs⟩ := hb
  rw [exec_processTrainingRequest ctx env modelId w hs, hb]
  refine ⟨⟨_, rfl⟩, w.fs.freshPath, Fs.read_freshPath _, ?_⟩
  have h2 := Fs.read_write_self (Helper.tempfile.getTmpPath w.fs).2 w.fs.freshPath b.buf
  have hne : w.fs.freshPath ≠ ((Helper.tempfile.getTmpPath w.fs).2.write w.fs.freshPath b.buf).freshPath :=
    fun h => by
      have := Fs.read_freshPath ((Helper.tempfile.getTmpPath w.fs).2.write w.fs.freshPath b.buf)
      rw [← h, h2] at this
      cases this
  simp only [hfs, Helper.tempfile_read, hne, if_false, h2]

/-- A download of three bytes, and a `train` command that raises. -/
def trainFails : TaskEnv :=
  ⟨fun _ => some [⟨[1, 2, 3], .IN_PROGRESS⟩, ⟨[], .OK⟩], fun _ _ _ => .error (.command "train failed"),
    "", true, true, true, true, 0⟩

/-- The theorem for a training request on `trainFails`: the three bytes stay on disk. -/
theorem trainingRequest_leaves_model_file_trainFails :
    (∃ meta, ((processTrainingRequest workerCtx trainFails "m1").exec startWorld).1 = .ok (none, meta)) ∧
    ∃ p, startWorld.fs.read p = none ∧
      ((processTrainingRequest workerCtx trainFails "m1").exec startWorld).2.fs.read p = some [1, 2, 3] :=
  trainingRequest_leaves_model_file rfl startWorld rfl rfl
    (rfl : getModel [⟨[1, 2, 3], .IN_PROGRESS⟩, ⟨[], .OK⟩] = some ⟨[1, 2, 3], 3⟩) fun _ _ => ⟨_, rfl⟩

end Fedn
