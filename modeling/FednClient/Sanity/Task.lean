import FednClient.Spec.Task

/-! Running task steps. `PyM.exec x w` is the result and final world of `x` started
in `w`; there is one equation per step of `Spec.Task` and a rule for `bind`, so that
proofs about whole tasks rewrite step by step and never unfold `ExceptT`. -/

namespace Fedn

variable {α β : Type}

/-- The result and the final world of `x` started in `w`. -/
def PyM.exec (x : PyM α) (w : World) : Except PyExc α × World := x.run.run w

namespace PyM

@[simp] theorem exec_pure (a : α) (w : World) : (pure a : PyM α).exec w = (.ok a, w) := rfl

@[simp] theorem exec_throw (e : PyExc) (w : World) : (throw e : PyM α).exec w = (.error e, w) := rfl

theorem exec_bind (x : PyM α) (f : α → PyM β) (w : World) :
    (x >>= f).exec w =
      match x.exec w with
      | (.ok a, w') => (f a).exec w'
      | (.error e, w') => (.error e, w') := by
  rcases h : x.exec w with ⟨_ | a, w'⟩ <;>
  · simp only [exec, StateT.run] at h ⊢
    show StateT.bind x.run (ExceptT.bindCont f) w = _
    simp only [StateT.bind, h]
    rfl

theorem exec_bind_ok {x : PyM α} {w w' : World} {a : α} (h : x.exec w = (.ok a, w'))
    (f : α → PyM β) : (x >>= f).exec w = (f a).exec w' := by
  rw [exec_bind, h]

theorem exec_bind_error {x : PyM α} {w w' : World} {e : PyExc} (h : x.exec w = (.error e, w'))
    (f : α → PyM β) : (x >>= f).exec w = (.error e, w') := by
  rw [exec_bind, h]

theorem exec_tryCatch (x : PyM α) (handler : PyExc → PyM α) (w : World) :
    (tryCatch x handler).exec w =
      match x.exec w with
      | (.ok a, w') => (.ok a, w')
      | (.error e, w') => (handler e).exec w' := by
  rcases h : x.exec w with ⟨_ | a, w'⟩ <;>
  · simp only [exec, StateT.run, ExceptT.run] at h ⊢
    simp only [tryCatch, tryCatchThe, MonadExceptOf.tryCatch, ExceptT.tryCatch, ExceptT.mk,
      ExceptT.run, bind, StateT.bind, h, pure, StateT.pure]

end PyM

open PyM

@[simp] theorem exec_get (w : World) : (get : PyM World).exec w = (.ok w, w) := rfl

@[simp] theorem exec_setState (st : ClientState) (w : World) :
    (setState st).exec w = (.ok (), { w with state := some st }) := rfl

@[simp] theorem exec_rpc_true (m : Sent) (w : World) :
    (rpc true m).exec w = (.ok (), w.emit m) := rfl

@[simp] theorem exec_rpc_false (m : Sent) (w : World) :
    (rpc false m).exec w = (.error .rpcError, w) := rfl

@[simp] theorem exec_writeFile (p : String) (d : List UInt8) (w : World) :
    (writeFile p d).exec w = (.ok (), { w with fs := w.fs.write p d }) := rfl

@[simp] theorem exec_getTmpPath (ctx : Ctx) (w : World) :
    (getTmpPath ctx).exec w =
      (.ok (ctx.helper.getTmpPath w.fs).1, { w with fs := (ctx.helper.getTmpPath w.fs).2 }) := rfl

@[simp] theorem exec_mkstemp (w : World) :
    mkstemp.exec w = (.ok w.fs.mkstemp.1, { w with fs := w.fs.mkstemp.2 }) := rfl

theorem exec_getModelM (env : TaskEnv) (id : String) (w : World) :
    (getModelM env id).exec w =
      match env.download id with
      | some parts => (.ok (getModel parts), w)
      | none => (.error .rpcError, w) := by
  unfold getModelM; cases env.download id <;> rfl

@[simp] theorem exec_getbuffer_some (b : BytesBuf) (w : World) :
    (getbuffer (some b)).exec w = (.ok b.buf, w) := rfl

@[simp] theorem exec_getbuffer_none (w : World) :
    (getbuffer none).exec w = (.error .attributeError, w) := rfl

theorem exec_readBytes (p : String) (w : World) :
    (readBytes p).exec w =
      match w.fs.read p with
      | some b => (.ok b, w)
      | none => (.error (.fileNotFound p), w) := by
  unfold readBytes
  rw [exec_bind_ok (exec_get w)]
  cases w.fs.read p <;> rfl

theorem exec_unlink (p : String) (w : World) :
    (unlink p).exec w =
      match w.fs.unlink p with
      | some fs => (.ok (), { w with fs := fs })
      | none => (.error (.fileNotFound p), w) := by
  unfold unlink
  rw [exec_bind_ok (exec_get w)]
  cases w.fs.unlink p <;> rfl

theorem exec_jsonLoads (ctx : Ctx) (s : String) (w : World) :
    (jsonLoads ctx s).exec w =
      match ctx.json.loads s with
      | some v => (.ok v, w)
      | none => (.error .valueError, w) := by
  unfold jsonLoads; cases ctx.json.loads s <;> rfl

theorem exec_runCmd (env : TaskEnv) (name : String) (args : List String) (w : World) :
    (runCmd env name args).exec w =
      match env.runCmd name args w.fs.files with
      | .ok files => (.ok (), { w with fs := { w.fs with files := files } })
      | .error e => (.error e, w) := by
  unfold runCmd
  rw [exec_bind_ok (exec_get w)]
  cases env.runCmd name args w.fs.files <;> rfl

/-! ### What a `try` block can change -/

/-- An upload frame list, the one kind of message a `try` block delivers. -/
def Sent.isUpload : Sent → Bool
  | .upload _ => true
  | _ => false

/-- `x` leaves `state` as it is and delivers nothing but uploads. -/
def Quiet (x : PyM α) : Prop :=
  ∀ w, (x.exec w).2.state = w.state ∧
    ∃ l, (x.exec w).2.sent = w.sent ++ l ∧ ∀ m ∈ l, m.isUpload

namespace Quiet

theorem of_world {x : PyM α}
    (h : ∀ w, (x.exec w).2.state = w.state ∧ (x.exec w).2.sent = w.sent) : Quiet x :=
  fun w => ⟨(h w).1, [], by simp [(h w).2], by simp⟩

theorem pure (a : α) : Quiet (Pure.pure a : PyM α) := of_world fun _ => ⟨rfl, rfl⟩

theorem throw (e : PyExc) : Quiet (MonadExcept.throw e : PyM α) := of_world fun _ => ⟨rfl, rfl⟩

theorem bind {x : PyM α} {f : α → PyM β} (hx : Quiet x) (hf : ∀ a, Quiet (f a)) :
    Quiet (x >>= f) := by
  intro w
  obtain ⟨hs, l, hl, hu⟩ := hx w
  rw [exec_bind]
  rcases hr : x.exec w with ⟨_ | a, w'⟩ <;> rw [hr] at hs hl
  · exact ⟨hs, l, hl, hu⟩
  · obtain ⟨hs', l', hl', hu'⟩ := hf a w'
    refine ⟨hs'.trans hs, l ++ l', by rw [hl', hl, List.append_assoc], ?_⟩
    intro m hm
    rcases List.mem_append.mp hm with h | h
    exacts [hu m h, hu' m h]

end Quiet

theorem quiet_getModelM (env : TaskEnv) (id : String) : Quiet (getModelM env id) :=
  Quiet.of_world fun w => by rw [exec_getModelM]; cases env.download id <;> exact ⟨rfl, rfl⟩

theorem quiet_getbuffer (b : Option BytesBuf) : Quiet (getbuffer b) :=
  Quiet.of_world fun _ => by cases b <;> exact ⟨rfl, rfl⟩

theorem quiet_getTmpPath (ctx : Ctx) : Quiet (getTmpPath ctx) := Quiet.of_world fun _ => ⟨rfl, rfl⟩

theorem quiet_mkstemp : Quiet mkstemp := Quiet.of_world fun _ => ⟨rfl, rfl⟩

theorem quiet_writeFile (p : String) (d : List UInt8) : Quiet (writeFile p d) :=
  Quiet.of_world fun _ => ⟨rfl, rfl⟩

theorem quiet_readBytes (p : String) : Quiet (readBytes p) :=
  Quiet.of_world fun w => by rw [exec_readBytes]; cases w.fs.read p <;> exact ⟨rfl, rfl⟩

theorem quiet_unlink (p : String) : Quiet (unlink p) :=
  Quiet.of_world fun w => by rw [exec_unlink]; cases w.fs.unlink p <;> exact ⟨rfl, rfl⟩

theorem quiet_jsonLoads (ctx : Ctx) (s : String) : Quiet (jsonLoads ctx s) :=
  Quiet.of_world fun w => by rw [exec_jsonLoads]; cases ctx.json.loads s <;> exact ⟨rfl, rfl⟩

theorem quiet_runCmd (env : TaskEnv) (name : String) (args : List String) :
    Quiet (runCmd env name args) :=
  Quiet.of_world fun w => by rw [exec_runCmd]; cases env.runCmd name args w.fs.files <;> exact ⟨rfl, rfl⟩

theorem quiet_readText (ctx : Ctx) (p : String) : Quiet (readText ctx p) := by
  unfold readText
  refine Quiet.bind (quiet_readBytes p) fun b => ?_
  cases ctx.decode b
  exacts [Quiet.throw _, Quiet.pure _]

theorem quiet_setModelM (env : TaskEnv) (model : BytesBuf) (id : String) :
    Quiet (setModelM env model id) := by
  intro w
  unfold setModelM
  cases env.uploadOk
  · exact ⟨rfl, [], by simp, by simp⟩
  · exact ⟨rfl, [_], rfl, by simp [Sent.isUpload]⟩

/-! ### What a step that returned did -/

theorem exec_bind_eq_ok {x : PyM α} {f : α → PyM β} {w w'' : World} {b : β}
    (h : (x >>= f).exec w = (.ok b, w'')) :
    ∃ a w', x.exec w = (.ok a, w') ∧ (f a).exec w' = (.ok b, w'') := by
  rw [exec_bind] at h
  rcases hx : x.exec w with ⟨e | a, w'⟩ <;> rw [hx] at h
  · cases h
  · exact ⟨a, w', rfl, h⟩

theorem exec_eq_of_result {x : PyM α} {w : World} {a : α} (h : (x.exec w).1 = .ok a) :
    x.exec w = (.ok a, (x.exec w).2) := Prod.ext h rfl

section Returned

variable {w w' : World}

theorem getModelM_ok {env : TaskEnv} {id : String} {m : Option BytesBuf}
    (h : (getModelM env id).exec w = (.ok m, w')) :
    ∃ parts, env.download id = some parts ∧ m = getModel parts ∧ w' = w := by
  rw [exec_getModelM] at h
  split at h
  · cases h; exact ⟨_, ‹_›, rfl, rfl⟩
  · cases h

theorem getbuffer_ok {o : Option BytesBuf} {b : List UInt8} (h : (getbuffer o).exec w = (.ok b, w')) :
    ∃ mdl, o = some mdl ∧ b = mdl.buf ∧ w' = w := by
  cases o with
  | none => cases h
  | some mdl => cases h; exact ⟨mdl, rfl, rfl, rfl⟩

theorem runCmd_ok {env : TaskEnv} {name : String} {args : List String} {u : Unit}
    (h : (runCmd env name args).exec w = (.ok u, w')) :
    ∃ files, env.runCmd name args w.fs.files = .ok files ∧
      w' = { w with fs := { w.fs with files := files } } := by
  rw [exec_runCmd] at h
  split at h
  · cases h; exact ⟨_, ‹_›, rfl⟩
  · cases h

theorem readBytes_ok {p : String} {b : List UInt8} (h : (readBytes p).exec w = (.ok b, w')) :
    w.fs.read p = some b ∧ w' = w := by
  rw [exec_readBytes] at h
  split at h
  · cases h; exact ⟨‹_›, rfl⟩
  · cases h

theorem readText_ok {ctx : Ctx} {p t : String} (h : (readText ctx p).exec w = (.ok t, w')) :
    ∃ b, w.fs.read p = some b ∧ ctx.decode b = some t ∧ w' = w := by
  obtain ⟨b, w1, h1, h2⟩ := exec_bind_eq_ok h
  obtain ⟨hr, rfl⟩ := readBytes_ok h1
  refine ⟨b, hr, ?_⟩
  split at h2
  · cases h2; exact ⟨‹_›, rfl⟩
  · cases h2

theorem jsonLoads_ok {ctx : Ctx} {s : String} {v : Json} (h : (jsonLoads ctx s).exec w = (.ok v, w')) :
    ctx.json.loads s = some v ∧ w' = w := by
  rw [exec_jsonLoads] at h
  split at h
  · cases h; exact ⟨‹_›, rfl⟩
  · cases h

theorem setModelM_ok {env : TaskEnv} {model : BytesBuf} {id : String} {u : Unit}
    (h : (setModelM env model id).exec w = (.ok u, w')) :
    env.uploadOk = true ∧ w' = w.emit (.upload (setModel model id)) := by
  unfold setModelM at h
  cases hu : env.uploadOk <;> rw [hu] at h
  · cases h
  · cases h; exact ⟨rfl, rfl⟩

theorem unlink_ok {p : String} {u : Unit} (h : (unlink p).exec w = (.ok u, w')) :
    (w.fs.read p).isSome ∧ w' = { w with fs := { w.fs with files := w.fs.files.filter (·.1 ≠ p) } } := by
  rw [exec_unlink] at h
  by_cases hr : (w.fs.read p).isSome
  · simp only [Fs.unlink, hr, if_true] at h
    cases h; exact ⟨hr, rfl⟩
  · simp only [Fs.unlink, hr] at h
    cases h

end Returned

end Fedn
