import FednClient.Sanity.Task

/-! The two task functions as steps of `process_request`: the status each sends before
its `try` block, how it handles what the block raises, and, for a block that returns,
every step it took. -/

namespace Fedn

open PyM

theorem quiet_trainingBody (ctx : Ctx) (env : TaskEnv) (modelId : String) :
    Quiet (processTrainingRequest.body ctx env modelId) := by
  unfold processTrainingRequest.body
  refine Quiet.bind (quiet_getModelM _ _) fun mdl => ?_
  refine Quiet.bind (quiet_getTmpPath _) fun inpath => ?_
  refine Quiet.bind (quiet_getbuffer _) fun b => ?_
  refine Quiet.bind (quiet_writeFile _ _) fun _ => ?_
  refine Quiet.bind (quiet_getTmpPath _) fun outpath => ?_
  refine Quiet.bind (quiet_runCmd _ _ _) fun _ => ?_
  refine Quiet.bind (quiet_readBytes _) fun out => ?_
  refine Quiet.bind (quiet_setModelM _ _ _) fun _ => ?_
  refine Quiet.bind (quiet_readText _ _) fun t => ?_
  refine Quiet.bind (quiet_jsonLoads _ _) fun v => ?_
  refine Quiet.bind (quiet_unlink _) fun _ => ?_
  refine Quiet.bind (quiet_unlink _) fun _ => ?_
  refine Quiet.bind (quiet_unlink _) fun _ => ?_
  exact Quiet.pure _

theorem quiet_validationBody (ctx : Ctx) (env : TaskEnv) (cmd modelId : String) :
    Quiet (processValidationRequest.body ctx env cmd modelId) := by
  unfold processValidationRequest.body
  refine Quiet.bind (quiet_getModelM _ _) fun model => ?_
  refine Quiet.bind (quiet_getTmpPath _) fun inpath => ?_
  refine Quiet.bind (quiet_getbuffer _) fun b => ?_
  refine Quiet.bind (quiet_writeFile _ _) fun _ => ?_
  refine Quiet.bind quiet_mkstemp fun ⟨_, outpath⟩ => ?_
  refine Quiet.bind (quiet_runCmd _ _ _) fun _ => ?_
  refine Quiet.bind (quiet_readText _ _) fun t => ?_
  refine Quiet.bind (quiet_jsonLoads _ _) fun v => ?_
  refine Quiet.bind (quiet_unlink _) fun _ => ?_
  refine Quiet.bind (quiet_unlink _) fun _ => ?_
  exact Quiet.pure _

/-- The status `_process_training_request` sends before its `try` block. -/
def trainingStarted (ctx : Ctx) (modelId : String) : Sent :=
  ctx.status .INFO ("\t Starting processing of training request for model_id " ++ modelId) none

/-- The status `_process_validation_request` sends before its `try` block. -/
def validationStarted (ctx : Ctx) (modelId : String) (isInference : Bool) : Sent :=
  ctx.status .INFO ("Processing " ++ (if isInference then "infer" else "validate") ++
    " request for model_id " ++ modelId) none

/-- The world when the `try` block of `_process_training_request` starts. -/
def trainingEntry (ctx : Ctx) (modelId : String) (w : World) : World :=
  { w.emit (trainingStarted ctx modelId) with state := some .training }

/-- The world when the `try` block of `_process_validation_request` starts. -/
def validationEntry (ctx : Ctx) (modelId : String) (isInference : Bool) (w : World) : World :=
  { w.emit (validationStarted ctx modelId isInference) with state := some .validating }

@[simp] theorem trainingEntry_state (ctx : Ctx) (modelId : String) (w : World) :
    (trainingEntry ctx modelId w).state = some .training := rfl

@[simp] theorem trainingEntry_fs (ctx : Ctx) (modelId : String) (w : World) :
    (trainingEntry ctx modelId w).fs = w.fs := rfl

@[simp] theorem trainingEntry_sent (ctx : Ctx) (modelId : String) (w : World) :
    (trainingEntry ctx modelId w).sent = w.sent ++ [trainingStarted ctx modelId] := rfl

@[simp] theorem validationEntry_state (ctx : Ctx) (modelId : String) (isInference : Bool) (w : World) :
    (validationEntry ctx modelId isInference w).state = some .validating := rfl

@[simp] theorem validationEntry_fs (ctx : Ctx) (modelId : String) (isInference : Bool) (w : World) :
    (validationEntry ctx modelId isInference w).fs = w.fs := rfl

@[simp] theorem validationEntry_sent (ctx : Ctx) (modelId : String) (isInference : Bool) (w : World) :
    (validationEntry ctx modelId isInference w).sent =
      w.sent ++ [validationStarted ctx modelId isInference] := rfl

theorem exec_processTrainingRequest (ctx : Ctx) (env : TaskEnv) (modelId : String) (w : World)
    (hs : env.startStatusOk = true) :
    (processTrainingRequest ctx env modelId).exec w =
      match (processTrainingRequest.body ctx env modelId).exec
          (trainingEntry ctx modelId w) with
      | (.ok r, w') => (.ok (some r.1, r.2), { w' with state := some .idle })
      | (.error e, w') =>
        (.ok (none, [("status", .str "failed"), ("error", .str e.str)]),
          { w' with state := some .idle }) := by
  unfold processTrainingRequest
  simp only [sendStatus, hs, exec_bind, exec_rpc_true, exec_setState, exec_tryCatch,
    trainingEntry, trainingStarted]
  rcases (processTrainingRequest.body ctx env modelId).exec _ with ⟨_ | ⟨id, meta⟩, w'⟩ <;> rfl

theorem exec_processValidationRequest (ctx : Ctx) (env : TaskEnv) (modelId : String)
    (isInference : Bool) (w : World) (hs : env.startStatusOk = true) :
    (processValidationRequest ctx env modelId isInference).exec w =
      match (processValidationRequest.body ctx env (if isInference then "infer" else "validate")
          modelId).exec
          (validationEntry ctx modelId isInference w) with
      | (.ok v, w') => (.ok v, { w' with state := some .idle })
      | (.error e, w') => (.error e, w') := by
  unfold processValidationRequest
  simp only [sendStatus, hs, exec_bind, exec_rpc_true, exec_setState, exec_tryCatch,
    validationEntry, validationStarted]
  rcases (processValidationRequest.body ctx env _ modelId).exec _ with ⟨_ | v, w'⟩ <;> rfl

/-! ### A `try` block that returned -/

/-- A training block that returns ran the `train` command, read its output and its
`-metadata` sidecar, and uploaded the output under the fresh id. -/
theorem trainingBody_ok {ctx : Ctx} {env : TaskEnv} {modelId : String} {w w' : World}
    {r : String × Dict}
    (h : (processTrainingRequest.body ctx env modelId).exec w = (.ok r, w')) :
    ∃ inpath outpath before files out side text v,
      env.runCmd "train" [inpath, outpath] before = .ok files ∧ files.lookup outpath = some out ∧
      files.lookup (outpath ++ "-metadata") = some side ∧ ctx.decode side = some text ∧
      ctx.json.loads text = some v ∧
      r = (env.uuid, [("fetch_model", .num env.elapsed), ("exec_training", .num env.elapsed),
        ("upload_model", .num env.elapsed), ("training_metadata", v)]) ∧
      w'.state = w.state ∧ w'.sent = w.sent ++ [.upload (setModel ⟨out, 0⟩ env.uuid)] := by
  obtain ⟨mdl, w1, h1, k1⟩ := exec_bind_eq_ok h
  obtain ⟨parts, -, -, rfl⟩ := getModelM_ok h1
  obtain ⟨inpath, w2, h2, k2⟩ := exec_bind_eq_ok k1
  cases h2
  obtain ⟨buf, w3, h3, k3⟩ := exec_bind_eq_ok k2
  obtain ⟨mdl, -, -, rfl⟩ := getbuffer_ok h3
  obtain ⟨u, w4, h4, k4⟩ := exec_bind_eq_ok k3
  cases h4
  obtain ⟨outpath, w5, h5, k5⟩ := exec_bind_eq_ok k4
  cases h5
  obtain ⟨u, w6, h6, k6⟩ := exec_bind_eq_ok k5
  obtain ⟨files, hrun, rfl⟩ := runCmd_ok h6
  obtain ⟨out, w7, h7, k7⟩ := exec_bind_eq_ok k6
  obtain ⟨hout, rfl⟩ := readBytes_ok h7
  obtain ⟨u, w8, h8, k8⟩ := exec_bind_eq_ok k7
  obtain ⟨-, rfl⟩ := setModelM_ok h8
  obtain ⟨text, w9, h9, k9⟩ := exec_bind_eq_ok k8
  obtain ⟨side, hside, hdec, rfl⟩ := readText_ok h9
  obtain ⟨v, w10, h10, k10⟩ := exec_bind_eq_ok k9
  obtain ⟨hload, rfl⟩ := jsonLoads_ok h10
  obtain ⟨u, w11, h11, k11⟩ := exec_bind_eq_ok k10
  obtain ⟨-, rfl⟩ := unlink_ok h11
  obtain ⟨u, w12, h12, k12⟩ := exec_bind_eq_ok k11
  obtain ⟨-, rfl⟩ := unlink_ok h12
  obtain ⟨u, w13, h13, k13⟩ := exec_bind_eq_ok k12
  obtain ⟨-, rfl⟩ := unlink_ok h13
  cases k13
  refine ⟨_, _, _, files, out, side, text, v, hrun, hout, hside, hdec, hload, ?_, rfl, rfl⟩
  simp [Dict.set]
/-- A validation block that returns ran the command it was given and parsed its output. -/
theorem validationBody_ok {ctx : Ctx} {env : TaskEnv} {cmd modelId : String} {w w' : World} {v : Json}
    (h : (processValidationRequest.body ctx env cmd modelId).exec w = (.ok v, w')) :
    ∃ inpath outpath before files b text,
      env.runCmd cmd [inpath, outpath] before = .ok files ∧ files.lookup outpath = some b ∧
      ctx.decode b = some text ∧ ctx.json.loads text = some v ∧
      w'.state = w.state ∧ w'.sent = w.sent ∧
      w'.fs.fds = (ctx.helper.getTmpPath w.fs).2.fds ++ [(ctx.helper.getTmpPath w.fs).2.next] := by
  obtain ⟨mdl, w1, h1, k1⟩ := exec_bind_eq_ok h
  obtain ⟨parts, -, -, rfl⟩ := getModelM_ok h1
  obtain ⟨inpath, w2, h2, k2⟩ := exec_bind_eq_ok k1
  cases h2
  obtain ⟨buf, w3, h3, k3⟩ := exec_bind_eq_ok k2
  obtain ⟨mdl, -, -, rfl⟩ := getbuffer_ok h3
  obtain ⟨u, w4, h4, k4⟩ := exec_bind_eq_ok k3
  cases h4
  obtain ⟨⟨fd, outpath⟩, w5, h5, k5⟩ := exec_bind_eq_ok k4
  cases h5
  obtain ⟨u, w6, h6, k6⟩ := exec_bind_eq_ok k5
  obtain ⟨files, hrun, rfl⟩ := runCmd_ok h6
  obtain ⟨text, w7, h7, k7⟩ := exec_bind_eq_ok k6
  obtain ⟨b, hb, hdec, rfl⟩ := readText_ok h7
  obtain ⟨v', w8, h8, k8⟩ := exec_bind_eq_ok k7
  obtain ⟨hload, rfl⟩ := jsonLoads_ok h8
  obtain ⟨u, w9, h9, k9⟩ := exec_bind_eq_ok k8
  obtain ⟨-, rfl⟩ := unlink_ok h9
  obtain ⟨u, w10, h10, k10⟩ := exec_bind_eq_ok k9
  obtain ⟨-, rfl⟩ := unlink_ok h10
  cases k10
  exact ⟨_, _, _, files, b, text, hrun, hb, hdec, hload, rfl, rfl, rfl⟩
end Fedn
