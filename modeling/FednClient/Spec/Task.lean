import FednClient.Spec.Transfer
import FednClient.Spec.Json

/-! One task of the pipeline thread: `_process_training_request`,
`_process_validation_request` and the body of `process_request` once `inbox.get` has
returned an envelope. Exceptions are `ExceptT PyExc` over the state, so what a task
did before it raised stays done, as in Python. Whatever the process does not decide
itself (the combiner's answers, the subprocess, `uuid4`, the clock) is `TaskEnv`. -/

namespace Fedn

/-- The exceptions a task step raises: `grpc.RpcError` from a stub call, the
`AttributeError` of `None.getbuffer()` after a failed download, `open` or `os.unlink` of a
missing path, the `ValueError` of a text file that does not decode or of `json.loads` of
text that is not JSON, and whatever `dispatcher.run_cmd` raises (`KeyError` for a missing
entry point). -/
inductive PyExc where
  | rpcError
  | attributeError
  | fileNotFound (path : String)
  | valueError
  | command (msg : String)
  deriving DecidableEq, Repr

def PyExc.str : PyExc → String
  | .rpcError => "RpcError"
  | .attributeError => "NoneType object has no attribute getbuffer"
  | .fileNotFound p => "No such file or directory: " ++ p
  | .valueError => "ValueError"
  | .command m => m

/-- The file system as the process sees it: contents by path and the open
descriptors, all below `next`, where `mkstemp` draws a new one. -/
structure Fs where
  files : List (String × List UInt8)
  fds : List Nat
  next : Nat
  fds_lt : ∀ fd ∈ fds, fd < next

namespace Fs

def read (fs : Fs) (path : String) : Option (List UInt8) := fs.files.lookup path

/-- `with open(path, 'wb') as fh: fh.write(data)`; the block closes the descriptor. -/
def write (fs : Fs) (path : String) (data : List UInt8) : Fs :=
  { fs with files := (path, data) :: fs.files.filter (·.1 ≠ path) }

def unlink (fs : Fs) (path : String) : Option Fs :=
  if (fs.read path).isSome then some { fs with files := fs.files.filter (·.1 ≠ path) } else none

/-- A path longer than every path in use, so a fresh one. -/
def freshPath (fs : Fs) : String :=
  "/tmp/tmp" ++ String.mk (List.replicate (fs.files.foldr (fun p n => max n p.1.length) 0) 'x')

/-- `tempfile.mkstemp()`: a new empty file, and an open descriptor on it. -/
def mkstemp (fs : Fs) : (Nat × String) × Fs :=
  ((fs.next, fs.freshPath),
    ⟨(fs.freshPath, []) :: fs.files, fs.fds ++ [fs.next], fs.next + 1, by
      intro fd h
      rcases List.mem_append.mp h with h | h
      · exact Nat.lt_succ_of_lt (fs.fds_lt fd h)
      · rw [List.mem_singleton.mp h]; exact Nat.lt_succ_self _⟩)

def close (fs : Fs) (fd : Nat) : Fs :=
  ⟨fs.files, fs.fds.erase fd, fs.next, fun x h => fs.fds_lt x (List.mem_of_mem_erase h)⟩

end Fs

/-- `self.helper` (from `fedn.utils.helpers`, not under `src/`); a task calls only
its `get_tmp_path()`. -/
structure Helper where
  getTmpPath : Fs → String × Fs

/-- Modelled from the spec (temporary files follow OS-temp conventions): a
`get_tmp_path` that takes a new file from `tempfile.mkstemp()` and closes its
descriptor. -/
def Helper.tempfile : Helper :=
  ⟨fun fs => (fs.mkstemp.1.2, fs.mkstemp.2.close fs.mkstemp.1.1)⟩

/-- What the world outside the process answers during one task: the frames of the
`Download` stream for a model id (`none` when the call raises); the effect on the files of
the subprocess `dispatcher.run_cmd` starts for an entry point and its arguments, or what
`run_cmd` raises; `uuid.uuid4()`; whether the opening `_send_status`, `ModelService.Upload`,
`SendModelUpdate` or `SendModelValidation`, and the closing `_send_status` return; and the
`time.time()` differences the task records. -/
structure TaskEnv where
  download : String → Option (List ModelResponse)
  runCmd : String → List String → List (String × List UInt8) →
    Except PyExc (List (String × List UInt8))
  uuid : String
  startStatusOk : Bool
  uploadOk : Bool
  sendOk : Bool
  endStatusOk : Bool
  elapsed : Int

/-- The fields of the `Client` a task reads besides `state`, and the codecs of the
libraries it calls: `json` and the text encoding of `open(path, 'r')`. -/
structure Ctx where
  name : String
  helper : Helper
  json : JsonCodec
  decode : List UInt8 → Option String

inductive Sent where
  | status (s : Status)
  | upload (frames : List ModelRequest)
  | update (u : ModelUpdate)
  | validation (v : ModelValidation)
  deriving DecidableEq, Repr

/-- What a task changes: `self.state`, the file system, and the messages delivered. -/
structure World where
  state : Option ClientState
  fs : Fs
  sent : List Sent

def World.emit (w : World) (m : Sent) : World := { w with sent := w.sent ++ [m] }

def Ctx.status (ctx : Ctx) (level : LogLevel) (msg : String) (type : Option StatusType) : Sent :=
  .status ⟨⟨ctx.name, .WORKER⟩, level, msg, type⟩

abbrev PyM := ExceptT PyExc (StateM World)

def setState (st : ClientState) : PyM Unit := modify fun w => { w with state := some st }

/-- A stub call: its message is delivered if it returns, else `grpc.RpcError`. -/
def rpc (ok : Bool) (m : Sent) : PyM Unit :=
  if ok then modify (·.emit m) else throw .rpcError

def sendStatus (ctx : Ctx) (ok : Bool) (msg : String) (level : LogLevel)
    (type : Option StatusType) : PyM Unit :=
  rpc ok (ctx.status level msg type)

def getModelM (env : TaskEnv) (id : String) : PyM (Option BytesBuf) :=
  match env.download id with
  | some parts => pure (getModel parts)
  | none => throw .rpcError

def getbuffer : Option BytesBuf → PyM (List UInt8)
  | some b => pure b.buf
  | none => throw .attributeError

def setModelM (env : TaskEnv) (model : BytesBuf) (id : String) : PyM Unit :=
  rpc env.uploadOk (.upload (setModel model id))

def getTmpPath (ctx : Ctx) : PyM String :=
  modifyGet fun w => ((ctx.helper.getTmpPath w.fs).1, { w with fs := (ctx.helper.getTmpPath w.fs).2 })

def mkstemp : PyM (Nat × String) :=
  modifyGet fun w => (w.fs.mkstemp.1, { w with fs := w.fs.mkstemp.2 })

def writeFile (path : String) (data : List UInt8) : PyM Unit :=
  modify fun w => { w with fs := w.fs.write path data }

def readBytes (path : String) : PyM (List UInt8) := do
  match (← get).fs.read path with
  | some b => pure b
  | none => throw (.fileNotFound path)

def readText (ctx : Ctx) (path : String) : PyM String := do
  match ctx.decode (← readBytes path) with
  | some s => pure s
  | none => throw .valueError

def unlink (path : String) : PyM Unit := do
  match (← get).fs.unlink path with
  | some fs => modify fun w => { w with fs := fs }
  | none => throw (.fileNotFound path)

def jsonLoads (ctx : Ctx) (s : String) : PyM Json :=
  match ctx.json.loads s with
  | some v => pure v
  | none => throw .valueError

/-- `self.dispatcher.run_cmd(line)`. The dispatcher (`fedn.utils.dispatcher`, not under
`src/`) splits the line into the entry point and its arguments, as §4.C of the spec
has it: `run_cmd(name, args…)`. -/
def runCmd (env : TaskEnv) (name : String) (args : List String) : PyM Unit := do
  match env.runCmd name args (← get).fs.files with
  | .ok files => modify fun w => { w with fs := { w.fs with files := files } }
  | .error e => throw e

/-- The `try` block of `_process_training_request`. -/
def processTrainingRequest.body (ctx : Ctx) (env : TaskEnv) (modelId : String) :
    PyM (String × Dict) := do
  let meta : Dict := []
  let mdl ← getModelM env modelId
  let meta := meta.set "fetch_model" (.num env.elapsed)
  let inpath ← getTmpPath ctx
  writeFile inpath (← getbuffer mdl)
  let outpath ← getTmpPath ctx
  runCmd env "train" [inpath, outpath]
  let meta := meta.set "exec_training" (.num env.elapsed)
  let outModel : BytesBuf := ⟨← readBytes outpath, 0⟩
  let updatedModelId := env.uuid
  setModelM env outModel updatedModelId
  let meta := meta.set "upload_model" (.num env.elapsed)
  let trainingMetadata ← jsonLoads ctx (← readText ctx (outpath ++ "-metadata"))
  let meta := meta.set "training_metadata" trainingMetadata
  unlink inpath
  unlink outpath
  unlink (outpath ++ "-metadata")
  pure (updatedModelId, meta)

/-- `_process_training_request(model_id)`: `(updated_model_id, meta)`, the id `None`
when the `try` block raised. -/
def processTrainingRequest (ctx : Ctx) (env : TaskEnv) (modelId : String) :
    PyM (Option String × Dict) := do
  sendStatus ctx env.startStatusOk
    ("\t Starting processing of training request for model_id " ++ modelId) .INFO none
  setState .training
  let r ← tryCatch (do
      let (id, meta) ← processTrainingRequest.body ctx env modelId
      pure (some id, meta))
    (fun e => pure (none, [("status", .str "failed"), ("error", .str e.str)]))
  setState .idle
  pure r

/-- The `try` block of `_process_validation_request`. -/
def processValidationRequest.body (ctx : Ctx) (env : TaskEnv) (cmd modelId : String) :
    PyM Json := do
  let model ← getModelM env modelId
  let inpath ← getTmpPath ctx
  writeFile inpath (← getbuffer model)
  let (_, outpath) ← mkstemp
  runCmd env cmd [inpath, outpath]
  let validation ← jsonLoads ctx (← readText ctx outpath)
  unlink inpath
  unlink outpath
  pure validation

/-- `_process_validation_request(model_id, is_inference)`. Its `except` block
re-raises, so the lines after `raise` never run. -/
def processValidationRequest (ctx : Ctx) (env : TaskEnv) (modelId : String)
    (isInference : Bool) : PyM Json := do
  let cmd := if isInference then "infer" else "validate"
  sendStatus ctx env.startStatusOk ("Processing " ++ cmd ++ " request for model_id " ++ modelId)
    .INFO none
  setState .validating
  let validation ← tryCatch (processValidationRequest.body ctx env cmd modelId) (fun e => throw e)
  setState .idle
  pure validation

def Json.isNotNone : Json → Bool
  | .null => false
  | _ => true

/-- The body of the `process_request` loop after `inbox.get` returned `(task_type,
request)`. An exception leaving it leaves `process_request`, which catches only
`queue.Empty`. -/
def processRequest.handle (ctx : Ctx) (env : TaskEnv) : Envelope → PyM Unit
  | (.train, request) => do
    setState .training
    let (modelId, meta) ← processTrainingRequest ctx env request.modelId
    let meta := (meta.set "processing_time" (.num env.elapsed)).set "config" (.str request.data)
    match modelId with
    | some id =>
      rpc env.sendOk (.update ⟨⟨ctx.name, .WORKER⟩, request.sender, request.modelId, id,
        request.correlationId, ctx.json.dumps (.obj meta)⟩)
      sendStatus ctx env.endStatusOk "Model update completed." .AUDIT (some .MODEL_UPDATE)
    | none =>
      sendStatus ctx env.endStatusOk "Client \x7b\x7d failed to complete model update." .WARNING none
    setState .idle
  | (.validate, request) => do
    setState .validating
    let metrics ← processValidationRequest ctx env request.modelId request.isInference
    if metrics.isNotNone then
      rpc env.sendOk (.validation ⟨⟨ctx.name, .WORKER⟩, request.sender, request.modelId,
        ctx.json.dumps metrics, request.correlationId⟩)
      let statusType := if request.isInference then StatusType.INFERENCE else .MODEL_VALIDATION
      sendStatus ctx env.endStatusOk "Model validation completed." .AUDIT (some statusType)
    else
      sendStatus ctx env.endStatusOk ("Client " ++ ctx.name ++ " failed to complete model validation.")
        .WARNING none
    setState .idle

/-- `process_request` while `_attached` stays true and `inbox.get` hands it the envelopes
`es` in turn (a `queue.Empty` timeout only goes round the loop again). The first
exception a task raises ends the loop. -/
def processRequest (ctx : Ctx) (env : TaskEnv) : List Envelope → PyM Unit
  | [] => pure ()
  | e :: es => do
    processRequest.handle ctx env e
    processRequest ctx env es

end Fedn
