import Mathlib.Data.List.Basic

/-! The messages of the `fedn` gRPC protocol that `client.py` builds and reads, cut
down to the fields it touches, and the client's own enumerations. Timestamps, which
only carry `datetime.now()`, are left out. -/

namespace Fedn

/-- `fedn.Role`, the role a party of the protocol announces. -/
inductive Role where
  | WORKER
  | COMBINER
  | REDUCER
  | OTHER
  deriving DecidableEq, Repr

/-- `fedn.Client`: a sender or receiver. -/
structure Client where
  name : String
  role : Role
  deriving DecidableEq, Repr

/-- `fedn.Request`, as the update and validation request streams deliver it. -/
structure Request where
  sender : Client
  modelId : String
  data : String
  correlationId : String
  isInference : Bool
  deriving DecidableEq, Repr

/-- `fedn.ModelStatus` of a transfer frame. -/
inductive ModelStatus where
  | OK
  | IN_PROGRESS
  | FAILED
  deriving DecidableEq, Repr

/-- `fedn.ModelRequest`: one frame of an upload. -/
structure ModelRequest where
  data : List UInt8
  id : String
  status : ModelStatus
  deriving DecidableEq, Repr

/-- `fedn.ModelResponse`: one frame of a download. -/
structure ModelResponse where
  data : List UInt8
  status : ModelStatus
  deriving DecidableEq, Repr

/-- `fedn.StatusType` -/
inductive StatusType where
  | MODEL_UPDATE_REQUEST
  | MODEL_UPDATE
  | MODEL_VALIDATION_REQUEST
  | MODEL_VALIDATION
  | INFERENCE
  deriving DecidableEq, Repr

/-- `fedn.Status.LogLevel` -/
inductive LogLevel where
  | INFO
  | WARNING
  | ERROR
  | AUDIT
  deriving DecidableEq, Repr

/-- `fedn.Status` as `_send_status` fills it. -/
structure Status where
  sender : Client
  logLevel : LogLevel
  status : String
  type : Option StatusType
  deriving DecidableEq, Repr

/-- `fedn.ModelUpdate` -/
structure ModelUpdate where
  sender : Client
  receiver : Client
  modelId : String
  modelUpdateId : String
  correlationId : String
  meta : String
  deriving DecidableEq, Repr

/-- `fedn.ModelValidation` -/
structure ModelValidation where
  sender : Client
  receiver : Client
  modelId : String
  data : String
  correlationId : String
  deriving DecidableEq, Repr

/-- Modelled from the spec: `ClientState` (`fedn.network.clients.state`, not under
`src/`), the enum `{idle, training, validating}` of §3. -/
inductive ClientState where
  | idle
  | training
  | validating
  deriving DecidableEq, Repr

/-- The `task_type` tag of an inbox envelope, `'train'` or `'validate'`. -/
inductive TaskType where
  | train
  | validate
  deriving DecidableEq, Repr

/-- An inbox entry `(task_type, request)`. -/
abbrev Envelope := TaskType × Request

/-- `CHUNK_SIZE = 1024 * 1024` -/
def CHUNK_SIZE : Nat := 1024 * 1024

theorem chunk_size_pos : 0 < CHUNK_SIZE := by decide

end Fedn
