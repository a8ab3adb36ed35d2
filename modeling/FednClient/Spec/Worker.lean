import FednClient.Spec.Proto

/-! The threads of a worker and the flags they share. The main thread runs the `Client`
constructor and then the `run` supervisor loop; each `_subscribe_to_combiner` starts a
heartbeat worker, the two request listeners the configuration asks for, and a
`process_request` pipeline. Each Python statement that reads or writes shared state is
one step; statements that touch only the thread's own locals (`print`, `time.sleep`,
`tic`) are folded into the next step. What the combiner and the network answer is the
`Event` of the step. -/

namespace Fedn

/-- The keys of `config` the threads read; `threshold` is
`reconnect_after_missed_heartbeat`. -/
structure Cfg where
  trainer : Bool
  validator : Bool
  threshold : Nat
  deriving DecidableEq, Repr

/-- What the outside world does at a step: an RPC or `_connect` returns or raises, a
request stream yields a request or ends. A step that waits for none of these ignores it. -/
inductive Event where
  | ok
  | fail
  | deliver (r : Request)
  | finish
  deriving DecidableEq, Repr

inductive Phase where
  | ctor
  | loop
  deriving DecidableEq, Repr

/-- The main thread, at the statement it runs next. `_attach` (`attachCheck`, `assign`,
`connect`, `markAttached`) and `_subscribe_to_combiner` (the three spawns, `setAttached`,
`spawnPipeline`) are called from the constructor and from `run`; the phase says where they
return to. `setIdle` is the constructor's last statement and `loopCheck` is `run`'s
`if not self._attached:`; its `if self.error_state: return` is left out, since only the
constructor sets the flag and a run that returns there is a prefix of a run of the model.
A fatal status of `_assign` exits the process, which is not modelled here; an exception
of `_connect` is caught neither by the constructor nor by `run`, whose `except` names only
`KeyboardInterrupt`, and the main thread is then `raised`. -/
inductive MainPc where
  | attachCheck (p : Phase)
  | assign (p : Phase)
  | connect (p : Phase)
  | markAttached (p : Phase)
  | spawnHeartbeat (p : Phase)
  | spawnUpdates (p : Phase)
  | spawnValidations (p : Phase)
  | setAttached (p : Phase)
  | spawnPipeline (p : Phase)
  | setIdle
  | loopCheck
  | raised (p : Phase)
  deriving DecidableEq, Repr

/-- `_send_heartbeat` with `_handle_combiner_failure` and `_detach` inlined: `send` is
`SendHeartbeat`, `reset` and `count` are `self._missed_heartbeat = 0` and `+= 1`,
`threshold` compares the counter with `reconnect_after_missed_heartbeat`, `detach` and
`disconnect` are `_detach`'s `self._attached = False` and `self.channel.close()`, and
`sleep` is `time.sleep` with the `if not self._attached: return` after it. -/
inductive HbPc where
  | send
  | reset
  | count
  | threshold
  | detach
  | disconnect
  | sleep
  deriving DecidableEq, Repr

/-- `_listen_to_model_update_request_stream`: `recv` is the `for` over the stream, `role`
the sender test, `status` the `_send_status` call, `put` the `inbox.put`, and `inner` and
`check` the `if not self._attached: return` inside the `for` and after the `try`. -/
inductive UpdatesPc where
  | recv
  | role (r : Request)
  | status (r : Request)
  | put (r : Request)
  | inner
  | check
  deriving DecidableEq, Repr

/-- `_listen_to_model_validation_request_stream`, with the same statements but no sender
test and no check inside the `for`. -/
inductive ValidationsPc where
  | recv
  | status (r : Request)
  | put (r : Request)
  | check
  deriving DecidableEq, Repr

/-- A task of `process_request` from the statement after `inbox.get`, through
`_process_training_request` or `_process_validation_request`, which have the same shape:
`setState` is `process_request`'s `self.state = ClientState.training` (or `validating`),
`startStatus` the task function's opening `_send_status`, `setStateAgain` its own
`self.state = ...`, `body` its `try` block, `setIdle` its `self.state = ClientState.idle`
(`ok` when the block returned, for validation with a value other than `None`), `publish`
the `SendModelUpdate` or `SendModelValidation` sent when `ok`, `endStatus` the closing
`_send_status`, `setIdleAgain` `process_request`'s `self.state = ClientState.idle`, and
`taskDone` `self.inbox.task_done()`. -/
inductive TaskPc where
  | setState
  | startStatus
  | setStateAgain
  | body
  | setIdle (ok : Bool)
  | publish (ok : Bool)
  | endStatus
  | setIdleAgain
  | taskDone
  deriving DecidableEq, Repr

/-- `process_request`: `loop` is `if not self._attached: return` and `get` is
`self.inbox.get(timeout=1.0)`. -/
inductive PipelinePc where
  | loop
  | get
  | task (k : TaskType) (r : Request) (pc : TaskPc)
  deriving DecidableEq, Repr

/-- A thread started by `_subscribe_to_combiner`; `done` once it has returned or died of
an exception. -/
inductive Thread where
  | heartbeat (pc : HbPc)
  | updates (pc : UpdatesPc)
  | validations (pc : ValidationsPc)
  | pipeline (pc : PipelinePc)
  | done
  deriving DecidableEq, Repr

/-- The shared state: the started threads in the order they were started, `_attached`,
`_missed_heartbeat`, `self.channel` (channels are numbered in the order `_connect` opens
them), `state` and `inbox`; and two logs no thread reads, the channels closed in order and
the updates of `_missed_heartbeat`, `true` for a reset. -/
structure Sys where
  main : MainPc
  threads : List Thread
  attached : Bool
  missed : Nat
  channel : Option Nat
  opened : Nat
  closes : List Nat
  state : Option ClientState
  inbox : List Envelope
  hbLog : List Bool
  deriving DecidableEq, Repr

/-- Before the constructor's `self._attach()`. -/
def Sys.init : Sys :=
  ⟨.attachCheck .ctor, [], false, 0, none, 0, [], none, [], []⟩

inductive Label where
  | main (ev : Event)
  | thread (i : Nat) (ev : Event)
  deriving DecidableEq, Repr

/-- One statement of the main thread. `_connect` raises before it opens a channel: on an
undecodable certificate, a missing root certificate file or a combiner that does not
answer `ssl.get_server_certificate`. -/
def mainStep (cfg : Cfg) (s : Sys) (ev : Event) : MainPc → Sys
  | .attachCheck p =>
    { s with main := if s.attached then .spawnHeartbeat p else .assign p }
  | .assign p => { s with main := .connect p }
  | .connect p =>
    if ev = .fail then { s with main := .raised p }
    else { s with main := .markAttached p, channel := some s.opened, opened := s.opened + 1 }
  | .markAttached p => { s with main := .spawnHeartbeat p, attached := true }
  | .spawnHeartbeat p =>
    { s with main := .spawnUpdates p, threads := s.threads ++ [.heartbeat .send] }
  | .spawnUpdates p =>
    { s with main := .spawnValidations p,
             threads := if cfg.trainer then s.threads ++ [.updates .recv] else s.threads }
  | .spawnValidations p =>
    { s with main := .setAttached p,
             threads := if cfg.validator then s.threads ++ [.validations .recv] else s.threads }
  | .setAttached p => { s with main := .spawnPipeline p, attached := true }
  | .spawnPipeline p =>
    { s with main := if p = .ctor then .setIdle else .loopCheck,
             threads := s.threads ++ [.pipeline .loop] }
  | .setIdle => { s with main := .loopCheck, state := some .idle }
  | .loopCheck => { s with main := if s.attached then .loopCheck else .attachCheck .loop }
  | .raised p => { s with main := .raised p }

/-- One statement of a heartbeat worker. A failed `SendHeartbeat` is taken for the
`grpc.RpcError` that `_send_heartbeat` catches; the `ValueError` grpc raises for a call on
a channel already closed, which would end the worker, is not told apart. -/
def heartbeatStep (cfg : Cfg) (s : Sys) (ev : Event) : HbPc → Sys × Thread
  | .send => (s, .heartbeat (if ev = .fail then .count else .reset))
  | .reset => ({ s with missed := 0, hbLog := s.hbLog ++ [true] }, .heartbeat .sleep)
  | .count =>
    ({ s with missed := s.missed + 1, hbLog := s.hbLog ++ [false] }, .heartbeat .threshold)
  | .threshold =>
    (s, .heartbeat (if cfg.threshold < s.missed then .detach else .sleep))
  | .detach => ({ s with attached := false }, .heartbeat .disconnect)
  | .disconnect => ({ s with closes := s.closes ++ s.channel.toList }, .heartbeat .sleep)
  | .sleep => (s, if s.attached then .heartbeat .send else .done)

/-- One statement of the update listener. An `RpcError`, from the stream or from the
status call, leaves the `for` for the `except`. -/
def updatesStep (s : Sys) (ev : Event) : UpdatesPc → Sys × Thread
  | .recv =>
    (s, .updates (match ev with
      | .deliver r => .role r
      | _ => .check))
  | .role r => (s, .updates (if r.sender.role = .COMBINER then .status r else .inner))
  | .status r => (s, .updates (if ev = .fail then .check else .put r))
  | .put r => ({ s with inbox := s.inbox ++ [(.train, r)] }, .updates .inner)
  | .inner => (s, if s.attached then .updates .recv else .done)
  | .check => (s, if s.attached then .updates .recv else .done)

def validationsStep (s : Sys) (ev : Event) : ValidationsPc → Sys × Thread
  | .recv =>
    (s, .validations (match ev with
      | .deliver r => .status r
      | _ => .check))
  | .status r => (s, .validations (if ev = .fail then .check else .put r))
  | .put r => ({ s with inbox := s.inbox ++ [(.validate, r)] }, .validations .recv)
  | .check => (s, if s.attached then .validations .recv else .done)

def TaskType.busy : TaskType → ClientState
  | .train => .training
  | .validate => .validating

/-- One statement of a task. A raising status or publishing call leaves
`process_request`, which catches only `queue.Empty`, and ends the thread. The two task
functions differ where their `try` block raises: `_process_training_request` catches it
and reports a failed update, `_process_validation_request` re-raises. -/
def taskStep (s : Sys) (k : TaskType) (r : Request) (ev : Event) : TaskPc → Sys × Thread
  | .setState => ({ s with state := some k.busy }, .pipeline (.task k r .startStatus))
  | .startStatus =>
    (s, if ev = .fail then .done else .pipeline (.task k r .setStateAgain))
  | .setStateAgain => ({ s with state := some k.busy }, .pipeline (.task k r .body))
  | .body =>
    match k, ev with
    | .train, .fail => (s, .pipeline (.task k r (.setIdle false)))
    | .validate, .fail => (s, .done)
    | .validate, .finish => (s, .pipeline (.task k r (.setIdle false)))
    | _, _ => (s, .pipeline (.task k r (.setIdle true)))
  | .setIdle ok => ({ s with state := some .idle }, .pipeline (.task k r (.publish ok)))
  | .publish ok =>
    (s, if ok && ev = .fail then .done else .pipeline (.task k r .endStatus))
  | .endStatus => (s, if ev = .fail then .done else .pipeline (.task k r .setIdleAgain))
  | .setIdleAgain => ({ s with state := some .idle }, .pipeline (.task k r .taskDone))
  | .taskDone => (s, .pipeline .loop)

/-- One statement of `process_request`. `inbox.get` takes the oldest envelope, or
times out after a second when the queue is empty (`queue.Empty`, back to the loop). -/
def pipelineStep (s : Sys) (ev : Event) : PipelinePc → Sys × Thread
  | .loop => (s, if s.attached then .pipeline .get else .done)
  | .get =>
    match s.inbox with
    | [] => (s, .pipeline .loop)
    | (k, r) :: rest => ({ s with inbox := rest }, .pipeline (.task k r .setState))
  | .task k r pc => taskStep s k r ev pc

def threadStep (cfg : Cfg) (s : Sys) (ev : Event) : Thread → Sys × Thread
  | .heartbeat pc => heartbeatStep cfg s ev pc
  | .updates pc => updatesStep s ev pc
  | .validations pc => validationsStep s ev pc
  | .pipeline pc => pipelineStep s ev pc
  | .done => (s, .done)

/-- One step of the worker. A label naming no started thread changes nothing. -/
def step (cfg : Cfg) (s : Sys) : Label → Sys
  | .main ev => mainStep cfg s ev s.main
  | .thread i ev =>
    match s.threads[i]? with
    | some t =>
      let (s', t') := threadStep cfg s ev t
      { s' with threads := s'.threads.set i t' }
    | none => s

def run (cfg : Cfg) (s : Sys) : List Label → Sys
  | [] => s
  | l :: ls => run cfg (step cfg s l) ls

/-- The states reached from `Sys.init` by steps each of which `allowed` permits in the
state it is taken from; `fun _ _ => True` gives every interleaving. -/
inductive Reachable (cfg : Cfg) (allowed : Sys → Label → Prop) : Sys → Prop where
  | init : Reachable cfg allowed Sys.init
  | step {s : Sys} (l : Label) : Reachable cfg allowed s → allowed s l →
      Reachable cfg allowed (step cfg s l)

end Fedn
