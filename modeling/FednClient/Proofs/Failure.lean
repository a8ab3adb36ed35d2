import FednClient.Sanity.Process
import FednClient.Proofs.JsonText

/-! Failed tasks. A training task that fails anywhere in its `try` block is reported
with a WARNING status and the loop goes on with `state` back at `idle`. A validation
task that fails re-raises at `raise` in `_process_validation_request`, and since
`process_request` catches only `queue.Empty` the exception ends the pipeline thread
with `state` still `validating` and no status sent for the failure. -/

namespace Fedn

open PyM

/-- The WARNING status `process_request` sends for a training task that failed. -/
def trainingFailed (ctx : Ctx) : Sent :=
  ctx.status .WARNING "Client \x7b\x7d failed to complete model update." none

/-- Latin-1, which decodes every byte. -/
def decodeLatin1 (b : List UInt8) : Option String := some ⟨b.map fun x => Char.ofNat x.toNat⟩

/-- A worker with the temp-file helper, JSON text and Latin-1 files. -/
def workerCtx : Ctx := ⟨"worker", Helper.tempfile, textJson, decodeLatin1⟩

/-- An idle worker with no files and descriptors 0 to 2 in use. -/
def startWorld : World := ⟨some .idle, ⟨[], [0, 1, 2], 3, by decide⟩, []⟩

/-- The combiner's request the closed statements below answer. -/
def combinerRequest : Request := ⟨⟨"combiner", .COMBINER⟩, "m1", "", "c1", false⟩

/-- A download stream that fails at once; every other call succeeds. -/
def downloadFails : TaskEnv :=
  ⟨fun _ => some [⟨[], .FAILED⟩], fun _ _ files => .ok files, "", true, true, true, true, 0⟩

/-- A training task whose `try` block raises, wherever it does: the loop body returns
normally with `state` back at `idle` and the WARNING status as the last message. -/
theorem handle_train_failure (ctx : Ctx) (env : TaskEnv) (request : Request) (w : World)
    (hs : env.startStatusOk = true) (he : env.endStatusOk = true) (e : PyExc) (w' : World)
    (hb : (processTrainingRequest.body ctx env request.modelId).exec
      (trainingEntry ctx request.modelId { w with state := some .training }) = (.error e, w')) :
    (processRequest.handle ctx env (.train, request)).exec w =
      (.ok (), { w'.emit (trainingFailed ctx) with state := some .idle }) := by
  simp only [processRequest.handle, exec_bind, exec_setState, exec_processTrainingRequest _ _ _ _ hs,
    hb, sendStatus, he, exec_rpc_true, trainingFailed]
  rfl

/-- So no `ModelUpdate` is sent for it: after the opening status come only the uploads
the block made, then the WARNING status. -/
theorem handle_train_failure_warns (ctx : Ctx) (env : TaskEnv) (request : Request) (w : World)
    (hs : env.startStatusOk = true) (he : env.endStatusOk = true) (e : PyExc) (w' : World)
    (hb : (processTrainingRequest.body ctx env request.modelId).exec
      (trainingEntry ctx request.modelId { w with state := some .training }) = (.error e, w')) :
    ∃ l, (∀ m ∈ l, m.isUpload) ∧
      ((processRequest.handle ctx env (.train, request)).exec w).2.sent =
        w.sent ++ trainingStarted ctx request.modelId :: l ++ [trainingFailed ctx] := by
  obtain ⟨-, l, hl, hu⟩ := quiet_trainingBody ctx env request.modelId
    (trainingEntry ctx request.modelId { w with state := some .training })
  rw [hb, trainingEntry_sent] at hl
  simp only at hl
  refine ⟨l, hu, ?_⟩
  rw [handle_train_failure ctx env request w hs he e w' hb]
  simp [World.emit, hl]

/-- The theorem for the combiner's request when the download fails: `None.getbuffer()`
raises inside the block. -/
theorem handle_train_failure_warns_downloadFails :
    ∃ l, (∀ m ∈ l, m.isUpload) ∧
      ((processRequest.handle workerCtx downloadFails (.train, combinerRequest)).exec startWorld).2.sent =
        startWorld.sent ++ trainingStarted workerCtx combinerRequest.modelId :: l ++
          [trainingFailed workerCtx] :=
  handle_train_failure_warns workerCtx downloadFails combinerRequest startWorld rfl rfl .attributeError _
    (Prod.ext rfl rfl)

/-- The loop goes on with the next envelope after a failed training task. -/
theorem processRequest_train_failure (ctx : Ctx) (env : TaskEnv) (request : Request)
    (rest : List Envelope) (w : World) (hs : env.startStatusOk = true)
    (he : env.endStatusOk = true) (e : PyExc) (w' : World)
    (hb : (processTrainingRequest.body ctx env request.modelId).exec
      (trainingEntry ctx request.modelId { w with state := some .training }) = (.error e, w')) :
    (processRequest ctx env ((.train, request) :: rest)).exec w =
      (processRequest ctx env rest).exec { w'.emit (trainingFailed ctx) with state := some .idle } :=
  exec_bind_ok (handle_train_failure ctx env request w hs he e w' hb) _

/-- The theorem for the combiner's request when the download fails, with no envelope
behind it. -/
theorem processRequest_train_failure_downloadFails :
    (processRequest workerCtx downloadFails [(.train, combinerRequest)]).exec startWorld =
      (processRequest workerCtx downloadFails []).exec
        { ((processTrainingRequest.body workerCtx downloadFails combinerRequest.modelId).exec
            (trainingEntry workerCtx combinerRequest.modelId
              { startWorld with state := some .training })).2.emit (trainingFailed workerCtx) with
          state := some .idle } :=
  processRequest_train_failure workerCtx downloadFails combinerRequest [] startWorld rfl rfl
    .attributeError _ (Prod.ext rfl rfl)

/-- A validation task whose `try` block raises `e` ends the loop with `e`, whatever
envelopes follow: `state` stays `validating`, and nothing is sent after the opening status
but what the block itself delivered. -/
theorem processRequest_validate_failure (ctx : Ctx) (env : TaskEnv) (request : Request)
    (rest : List Envelope) (w : World) (hs : env.startStatusOk = true) (e : PyExc) (w' : World)
    (hb : (processValidationRequest.body ctx env
      (if request.isInference then "infer" else "validate") request.modelId).exec
      (validationEntry ctx request.modelId request.isInference { w with state := some .validating }) =
        (.error e, w')) :
    (processRequest ctx env ((.validate, request) :: rest)).exec w = (.error e, w') := by
  simp only [processRequest, processRequest.handle, exec_bind, exec_setState,
    exec_processValidationRequest _ _ _ _ _ hs, hb]

/-- At that input the `AttributeError` of `None.getbuffer()` leaves `process_request`
whatever envelopes wait behind it: the pipeline thread ends, `state` stays `validating`,
and the only status sent is the opening one. -/
theorem validation_failure_ends_pipeline (ctx : Ctx) (w : World) (rest : List Envelope) :
    let r := (processRequest ctx downloadFails ((.validate, combinerRequest) :: rest)).exec w
    r.1 = .error .attributeError ∧ r.2.state = some .validating ∧
      r.2.sent = w.sent ++ [validationStarted ctx "m1" false] := by
  rw [processRequest_validate_failure ctx downloadFails combinerRequest rest w rfl
    .attributeError _ (by
      simp only [processValidationRequest.body, exec_bind, exec_getModelM, downloadFails,
        exec_getTmpPath, exec_getbuffer_none]
      rfl)]
  exact ⟨rfl, rfl, rfl⟩

end Fedn
