import FednClient.Proofs.Failure

/-! Tasks whose every step returns. A training task then publishes one `ModelUpdate`
under the id its output was uploaded with, whose `meta` holds the parsed sidecar and the
request's `data`; a validation task publishes one `ModelValidation` of the parsed output,
unless that output is JSON `null`, which `process_request` takes for a failed validation
and reports with a WARNING status. The two kinds of task are stated apart, each under the
answers of the calls it makes. -/

namespace Fedn

open PyM

/-- The loop body after a training block that returned. -/
theorem handle_train_success (ctx : Ctx) (env : TaskEnv) (request : Request) (w : World)
    (hs : env.startStatusOk = true) (hsend : env.sendOk = true) (he : env.endStatusOk = true)
    (id : String) (meta : Dict) (w' : World)
    (hb : (processTrainingRequest.body ctx env request.modelId).exec
      (trainingEntry ctx request.modelId { w with state := some .training }) = (.ok (id, meta), w')) :
    (processRequest.handle ctx env (.train, request)).exec w =
      (.ok (), { w' with
        state := some .idle,
        sent := w'.sent ++ [.update ⟨⟨ctx.name, .WORKER⟩, request.sender, request.modelId, id,
            request.correlationId, ctx.json.dumps
              (.obj ((meta.set "processing_time" (.num env.elapsed)).set "config" (.str request.data)))⟩,
          ctx.status .AUDIT "Model update completed." (some .MODEL_UPDATE)] }) := by
  simp only [processRequest.handle, exec_bind, exec_setState, exec_processTrainingRequest _ _ _ _ hs,
    hb, hsend, exec_rpc_true, sendStatus, he]
  simp [World.emit]

/-- The loop body after a validation block that returned a value other than `null`. -/
theorem handle_validate_success (ctx : Ctx) (env : TaskEnv) (request : Request) (w : World)
    (hs : env.startStatusOk = true) (hsend : env.sendOk = true) (he : env.endStatusOk = true)
    (v : Json) (w' : World)
    (hb : (processValidationRequest.body ctx env (if request.isInference then "infer" else "validate")
      request.modelId).exec (validationEntry ctx request.modelId request.isInference
        { w with state := some .validating }) = (.ok v, w'))
    (hv : v ≠ .null) :
    (processRequest.handle ctx env (.validate, request)).exec w =
      (.ok (), { w' with
        state := some .idle,
        sent := w'.sent ++ [.validation ⟨⟨ctx.name, .WORKER⟩, request.sender, request.modelId,
            ctx.json.dumps v, request.correlationId⟩,
          ctx.status .AUDIT "Model validation completed."
            (some (if request.isInference then .INFERENCE else .MODEL_VALIDATION))] }) := by
  have hn : v.isNotNone = true := by cases v <;> simp_all [Json.isNotNone]
  simp only [processRequest.handle, exec_bind, exec_setState, exec_processValidationRequest _ _ _ _ _ hs,
    hb, hn, if_true, hsend, exec_rpc_true, sendStatus, he]
  simp [World.emit]

/-- The loop body after a validation block that returned `null`: no `ModelValidation`,
and the WARNING status. -/
theorem handle_validate_null (ctx : Ctx) (env : TaskEnv) (request : Request) (w : World)
    (hs : env.startStatusOk = true) (he : env.endStatusOk = true) (w' : World)
    (hb : (processValidationRequest.body ctx env (if request.isInference then "infer" else "validate")
      request.modelId).exec (validationEntry ctx request.modelId request.isInference
        { w with state := some .validating }) = (.ok .null, w')) :
    (processRequest.handle ctx env (.validate, request)).exec w =
      (.ok (), { w' with
        state := some .idle,
        sent := w'.sent ++
          [ctx.status .WARNING ("Client " ++ ctx.name ++ " failed to complete model validation.") none] }) := by
  simp only [processRequest.handle, exec_bind, exec_setState, exec_processValidationRequest _ _ _ _ _ hs,
    hb, Json.isNotNone, Bool.false_eq_true, if_false, sendStatus, he, exec_rpc_true]
  simp [World.emit]

/-- What `process_request` sends for a train task and for a validate task whose steps all
return, with what each read from the files its command wrote; each part holds under the
answers its own calls get, and the validate part covers an output of `null`. -/
theorem task_success_publishes (ctx : Ctx) (env : TaskEnv) (request : Request) (w : World) :
    (env.startStatusOk = true → env.sendOk = true → env.endStatusOk = true →
      ∀ res, ((processTrainingRequest.body ctx env request.modelId).exec
        (trainingEntry ctx request.modelId { w with state := some .training })).1 = .ok res →
      ∃ inpath outpath before files out side text tm,
        env.runCmd "train" [inpath, outpath] before = .ok files ∧ files.lookup outpath = some out ∧
        files.lookup (outpath ++ "-metadata") = some side ∧ ctx.decode side = some text ∧
        ctx.json.loads text = some tm ∧
        let meta : Dict := [("fetch_model", .num env.elapsed), ("exec_training", .num env.elapsed),
          ("upload_model", .num env.elapsed), ("training_metadata", tm),
          ("processing_time", .num env.elapsed), ("config", .str request.data)]
        let r := (processRequest.handle ctx env (.train, request)).exec w
        r.1 = .ok () ∧ r.2.state = some .idle ∧
        r.2.sent = w.sent ++ [trainingStarted ctx request.modelId, .upload (setModel ⟨out, 0⟩ env.uuid),
          .update ⟨⟨ctx.name, .WORKER⟩, request.sender, request.modelId, env.uuid,
            request.correlationId, ctx.json.dumps (.obj meta)⟩,
          ctx.status .AUDIT "Model update completed." (some .MODEL_UPDATE)] ∧
        ctx.json.loads (ctx.json.dumps (.obj meta)) = some (.obj meta)) ∧
    (env.startStatusOk = true → env.sendOk = true → env.endStatusOk = true →
      ∀ v, ((processValidationRequest.body ctx env (if request.isInference then "infer" else "validate")
        request.modelId).exec (validationEntry ctx request.modelId request.isInference
          { w with state := some .validating })).1 = .ok v → v ≠ .null →
      ∃ inpath outpath before files b text,
        env.runCmd (if request.isInference then "infer" else "validate") [inpath, outpath] before =
          .ok files ∧
        files.lookup outpath = some b ∧ ctx.decode b = some text ∧ ctx.json.loads text = some v ∧
        let r := (processRequest.handle ctx env (.validate, request)).exec w
        r.1 = .ok () ∧ r.2.state = some .idle ∧
        r.2.sent = w.sent ++ [validationStarted ctx request.modelId request.isInference,
          .validation ⟨⟨ctx.name, .WORKER⟩, request.sender, request.modelId, ctx.json.dumps v,
            request.correlationId⟩,
          ctx.status .AUDIT "Model validation completed."
            (some (if request.isInference then .INFERENCE else .MODEL_VALIDATION))] ∧
        ctx.json.loads (ctx.json.dumps v) = some v) ∧
    (env.startStatusOk = true → env.endStatusOk = true →
      ((processValidationRequest.body ctx env (if request.isInference then "infer" else "validate")
        request.modelId).exec (validationEntry ctx request.modelId request.isInference
          { w with state := some .validating })).1 = .ok .null →
      ∃ inpath outpath before files b text,
        env.runCmd (if request.isInference then "infer" else "validate") [inpath, outpath] before =
          .ok files ∧
        files.lookup outpath = some b ∧ ctx.decode b = some text ∧ ctx.json.loads text = some .null ∧
        let r := (processRequest.handle ctx env (.validate, request)).exec w
        r.1 = .ok () ∧ r.2.state = some .idle ∧
        r.2.sent = w.sent ++ [validationStarted ctx request.modelId request.isInference,
          ctx.status .WARNING ("Client " ++ ctx.name ++ " failed to complete model validation.") none]) := by
  refine ⟨fun hst hsend hend res htrain => ?_, fun hst hsend hend v hval hv => ?_,
    fun hst hend hval => ?_⟩
  · have hT := exec_eq_of_result htrain
    obtain ⟨inpath, outpath, before, files, out, side, text, tm, hrun, hout, hside, hdec, hload, hres,
      -, hsent⟩ := trainingBody_ok hT
    refine ⟨inpath, outpath, before, files, out, side, text, tm, hrun, hout, hside, hdec, hload, ?_⟩
    subst hres
    rw [handle_train_success ctx env request w hst hsend hend _ _ _ hT]
    refine ⟨rfl, rfl, ?_, ctx.json.loads_dumps _⟩
    simp [hsent, Dict.set]
  · have hV := exec_eq_of_result hval
    obtain ⟨inpath, outpath, before, files, b, text, hrun, hb, hdec, hload, -, hsent, -⟩ :=
      validationBody_ok hV
    refine ⟨inpath, outpath, before, files, b, text, hrun, hb, hdec, hload, ?_⟩
    rw [handle_validate_success ctx env request w hst hsend hend _ _ hV hv]
    refine ⟨rfl, rfl, ?_, ctx.json.loads_dumps _⟩
    simp [hsent]
  · have hV := exec_eq_of_result hval
    obtain ⟨inpath, outpath, before, files, b, text, hrun, hb, hdec, hload, -, hsent, -⟩ :=
      validationBody_ok hV
    refine ⟨inpath, outpath, before, files, b, text, hrun, hb, hdec, hload, ?_⟩
    rw [handle_validate_null ctx env request w hst hend _ hV]
    exact ⟨rfl, rfl, by simp [hsent]⟩

/-! ### A run where every step returns -/

/-- The bytes of an ASCII text. -/
def encodeText (s : String) : List UInt8 := s.data.map fun c => c.toNat.toUInt8

/-- A combiner and a dispatcher for which every call returns: the download is one empty
`OK` frame, `train` writes a model and its sidecar, any other command its metrics. -/
def okEnv : TaskEnv where
  download _ := some [⟨[], .OK⟩]
  runCmd name args files :=
    match name, args with
    | "train", [_, o] =>
      .ok ((o ++ "-metadata", encodeText "\x7b\"epochs\": 1\x7d") :: (o, [7]) :: files)
    | _, [_, o] => .ok ((o, encodeText "\x7b\"accuracy\": 1\x7d") :: files)
    | _, _ => .error (.command "usage")
  uuid := "u1"
  startStatusOk := true
  uploadOk := true
  sendOk := true
  endStatusOk := true
  elapsed := 0

/-- Both blocks return for the combiner's request in `okEnv`, and the theorem then gives
the messages of both tasks. -/
theorem task_success_publishes_okEnv :
    ((processTrainingRequest.body workerCtx okEnv "m1").exec
      (trainingEntry workerCtx "m1" { startWorld with state := some .training })).1 =
        .ok ("u1", [("fetch_model", .num 0), ("exec_training", .num 0), ("upload_model", .num 0),
          ("training_metadata", .obj [("epochs", .num 1)])]) ∧
    ((processValidationRequest.body workerCtx okEnv "validate" "m1").exec
      (validationEntry workerCtx "m1" false { startWorld with state := some .validating })).1 =
        .ok (.obj [("accuracy", .num 1)]) ∧
    (∃ inpath outpath before files out side text tm,
      okEnv.runCmd "train" [inpath, outpath] before = .ok files ∧ files.lookup outpath = some out ∧
      files.lookup (outpath ++ "-metadata") = some side ∧ workerCtx.decode side = some text ∧
      workerCtx.json.loads text = some tm ∧
      let meta : Dict := [("fetch_model", .num 0), ("exec_training", .num 0),
        ("upload_model", .num 0), ("training_metadata", tm),
        ("processing_time", .num 0), ("config", .str "")]
      let r := (processRequest.handle workerCtx okEnv (.train, combinerRequest)).exec startWorld
      r.1 = .ok () ∧ r.2.state = some .idle ∧
      r.2.sent = [trainingStarted workerCtx "m1", .upload (setModel ⟨out, 0⟩ "u1"),
        .update ⟨⟨"worker", .WORKER⟩, ⟨"combiner", .COMBINER⟩, "m1", "u1", "c1",
          workerCtx.json.dumps (.obj meta)⟩,
        workerCtx.status .AUDIT "Model update completed." (some .MODEL_UPDATE)] ∧
      workerCtx.json.loads (workerCtx.json.dumps (.obj meta)) = some (.obj meta)) ∧
    (∃ inpath outpath before files b text,
      okEnv.runCmd "validate" [inpath, outpath] before = .ok files ∧
      files.lookup outpath = some b ∧ workerCtx.decode b = some text ∧
      workerCtx.json.loads text = some (.obj [("accuracy", .num 1)]) ∧
      let r := (processRequest.handle workerCtx okEnv (.validate, combinerRequest)).exec startWorld
      r.1 = .ok () ∧ r.2.state = some .idle ∧
      r.2.sent = [validationStarted workerCtx "m1" false,
        .validation ⟨⟨"worker", .WORKER⟩, ⟨"combiner", .COMBINER⟩, "m1",
          workerCtx.json.dumps (.obj [("accuracy", .num 1)]), "c1"⟩,
        workerCtx.status .AUDIT "Model validation completed." (some .MODEL_VALIDATION)] ∧
      workerCtx.json.loads (workerCtx.json.dumps (.obj [("accuracy", .num 1)])) =
        some (.obj [("accuracy", .num 1)])) :=
  have htrain : ((processTrainingRequest.body workerCtx okEnv "m1").exec
      (trainingEntry workerCtx "m1" { startWorld with state := some .training })).1 =
        .ok ("u1", [("fetch_model", .num 0), ("exec_training", .num 0), ("upload_model", .num 0),
          ("training_metadata", .obj [("epochs", .num 1)])]) := rfl
  have hval : ((processValidationRequest.body workerCtx okEnv "validate" "m1").exec
      (validationEntry workerCtx "m1" false { startWorld with state := some .validating })).1 =
        .ok (.obj [("accuracy", .num 1)]) := rfl
  ⟨htrain, hval, (task_success_publishes workerCtx okEnv combinerRequest startWorld).1 rfl rfl rfl _ htrain,
    (task_success_publishes workerCtx okEnv combinerRequest startWorld).2.1 rfl rfl rfl _ hval
      Json.noConfusion⟩

/-- `okEnv` with commands that write the metrics `null`. -/
def nullEnv : TaskEnv :=
  { okEnv with runCmd := fun _ args files =>
      match args with
      | [_, o] => .ok ((o, encodeText "null") :: files)
      | _ => .error (.command "usage") }

/-- A validation whose every step returns, with metrics `null`: `process_request` sends the
WARNING status and no `ModelValidation`. -/
theorem validation_null_metrics_unpublished :
    ((processValidationRequest.body workerCtx nullEnv "validate" "m1").exec
      (validationEntry workerCtx "m1" false { startWorld with state := some .validating })).1 =
        .ok .null ∧
    ((processRequest.handle workerCtx nullEnv (.validate, combinerRequest)).exec startWorld).2.sent =
      [validationStarted workerCtx "m1" false,
       workerCtx.status .WARNING "Client worker failed to complete model validation." none] :=
  ⟨rfl, rfl⟩

end Fedn
