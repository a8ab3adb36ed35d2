import FednClient.Sanity.Process
import FednClient.Sanity.Worker

/-! The thread-level task and the detailed one. The worker model runs the body of the
`process_request` loop as nine statements whose outcomes are events; the task model runs
the same body as code over the files, the stubs and the dispatcher. Given the answers the
task model's calls got, the thread ends where the task model ends: with the same `state`,
and back at the head of the `while` exactly when the loop body returned. Chained over a
queue of envelopes, the `process_request` thread run alone takes them in order and ends as
the task model's loop does. -/

namespace Fedn

open PyM

/-- A thread run on its own, one event per statement. -/
def soloRun (cfg : Cfg) : Sys × Thread → List Event → Sys × Thread
  | x, [] => x
  | (s, t), ev :: evs => soloRun cfg (threadStep cfg s ev t) evs

/-- The event of a stub call that returns when `ok`. -/
def Event.ofCall (ok : Bool) : Event := if ok then .ok else .fail

/-- The events of a task's statements, from the `state` write after `inbox.get` to
`task_done`, given the answers of the stub calls and the event of the `try` block. -/
def taskEvents (env : TaskEnv) (body : Event) : List Event :=
  [.ok, .ofCall env.startStatusOk, .ok, body, .ok, .ofCall env.sendOk, .ofCall env.endStatusOk,
   .ok, .ok]

/-- The events of a train envelope whose block the task model runs from `w`. -/
def trainEvents (ctx : Ctx) (env : TaskEnv) (request : Request) (w : World) : List Event :=
  taskEvents env
    (match ((processTrainingRequest.body ctx env request.modelId).exec
        (trainingEntry ctx request.modelId { w with state := some .training })).1 with
      | .ok _ => .ok
      | .error _ => .fail)

/-- The events of a validate envelope: a block that returns `None` is the `finish` of the
thread model. -/
def validateEvents (ctx : Ctx) (env : TaskEnv) (request : Request) (w : World) : List Event :=
  taskEvents env
    (match ((processValidationRequest.body ctx env
        (if request.isInference then "infer" else "validate") request.modelId).exec
        (validationEntry ctx request.modelId request.isInference
          { w with state := some .validating })).1 with
      | .ok v => if v.isNotNone then .ok else .finish
      | .error _ => .fail)

theorem soloRun_done (cfg : Cfg) (s : Sys) (evs : List Event) : soloRun cfg (s, .done) evs = (s, .done) := by
  induction evs <;> simp_all [soloRun, threadStep]

theorem soloRun_handle_train (cfg : Cfg) (ctx : Ctx) (env : TaskEnv) (request : Request)
    (w : World) (s : Sys) :
    (soloRun cfg ({ s with state := w.state }, .pipeline (.task .train request .setState))
        (trainEvents ctx env request w)).1.state =
      ((processRequest.handle ctx env (.train, request)).exec w).2.state ∧
    ((soloRun cfg ({ s with state := w.state }, .pipeline (.task .train request .setState))
        (trainEvents ctx env request w)).2 = .pipeline .loop ↔
      ((processRequest.handle ctx env (.train, request)).exec w).1 = .ok ()) := by
  cases hs : env.startStatusOk
  · simp [trainEvents, taskEvents, soloRun, Event.ofCall, hs, threadStep, pipelineStep, taskStep,
      soloRun_done, processRequest.handle, processTrainingRequest, sendStatus, exec_bind,
      TaskType.busy]
  · have hh := exec_processTrainingRequest ctx env request.modelId { w with state := some .training } hs
    rcases hb : (processTrainingRequest.body ctx env request.modelId).exec
      (trainingEntry ctx request.modelId { w with state := some .training }) with ⟨_ | ⟨id, meta⟩, w'⟩ <;>
      rw [hb] at hh <;> cases hsend : env.sendOk <;> cases he : env.endStatusOk <;>
      simp [trainEvents, taskEvents, soloRun, Event.ofCall, hs, hb, hsend, he, threadStep,
        pipelineStep, taskStep, TaskType.busy, soloRun_done, processRequest.handle, exec_bind, hh,
        sendStatus, World.emit]

theorem soloRun_handle_validate (cfg : Cfg) (ctx : Ctx) (env : TaskEnv) (request : Request)
    (w : World) (s : Sys) :
    (soloRun cfg ({ s with state := w.state }, .pipeline (.task .validate request .setState))
        (validateEvents ctx env request w)).1.state =
      ((processRequest.handle ctx env (.validate, request)).exec w).2.state ∧
    ((soloRun cfg ({ s with state := w.state }, .pipeline (.task .validate request .setState))
        (validateEvents ctx env request w)).2 = .pipeline .loop ↔
      ((processRequest.handle ctx env (.validate, request)).exec w).1 = .ok ()) := by
  cases hs : env.startStatusOk
  · simp [validateEvents, taskEvents, soloRun, Event.ofCall, hs, threadStep, pipelineStep, taskStep,
      soloRun_done, processRequest.handle, processValidationRequest, sendStatus, exec_bind,
      TaskType.busy]
  · have hh := exec_processValidationRequest ctx env request.modelId request.isInference
      { w with state := some .validating } hs
    have hq := (quiet_validationBody ctx env (if request.isInference then "infer" else "validate")
      request.modelId (validationEntry ctx request.modelId request.isInference
        { w with state := some .validating })).1
    rcases hb : (processValidationRequest.body ctx env (if request.isInference then "infer" else "validate")
      request.modelId).exec (validationEntry ctx request.modelId request.isInference
        { w with state := some .validating }) with ⟨_ | v, w'⟩ <;>
      rw [hb] at hh hq
    · simp_all [validateEvents, taskEvents, soloRun, Event.ofCall, threadStep, pipelineStep, taskStep,
        TaskType.busy, soloRun_done, processRequest.handle, exec_bind]
    · cases hv : v.isNotNone <;> cases hsend : env.sendOk <;> cases he : env.endStatusOk <;>
        simp [validateEvents, taskEvents, soloRun, Event.ofCall, hs, hb, hv, hsend, he, threadStep,
          pipelineStep, taskStep, TaskType.busy, soloRun_done, processRequest.handle, exec_bind, hh,
          sendStatus, World.emit]

/-- The events of an envelope's task. -/
def envelopeEvents (ctx : Ctx) (env : TaskEnv) (w : World) : Envelope → List Event
  | (.train, request) => trainEvents ctx env request w
  | (.validate, request) => validateEvents ctx env request w

/-- For every envelope, the thread model's task, fed the events of the task model's calls,
ends with the `state` the task model's loop body leaves, and back at the loop head exactly
when that body returns. -/
theorem soloRun_handle (cfg : Cfg) (ctx : Ctx) (env : TaskEnv) (e : Envelope) (w : World)
    (s : Sys) :
    (soloRun cfg ({ s with state := w.state }, .pipeline (.task e.1 e.2 .setState))
        (envelopeEvents ctx env w e)).1.state = ((processRequest.handle ctx env e).exec w).2.state ∧
    ((soloRun cfg ({ s with state := w.state }, .pipeline (.task e.1 e.2 .setState))
        (envelopeEvents ctx env w e)).2 = .pipeline .loop ↔
      ((processRequest.handle ctx env e).exec w).1 = .ok ()) := by
  obtain ⟨k, request⟩ := e
  cases k
  · exact soloRun_handle_train cfg ctx env request w s
  · exact soloRun_handle_validate cfg ctx env request w s

/-! ### The whole loop -/

/-- The statements of a task up to `task_done`, after which `process_request` is back at
its loop head. -/
def TaskPc.left : TaskPc → Nat
  | .setState => 9
  | .startStatus => 8
  | .setStateAgain => 7
  | .body => 6
  | .setIdle _ => 5
  | .publish _ => 4
  | .endStatus => 3
  | .setIdleAgain => 2
  | .taskDone => 1

/-- A statement of a task writes only `state`, and moves on to the next statement, back to
the loop head after `task_done`, or ends the thread. -/
theorem taskStep_next (s : Sys) (k : TaskType) (r : Request) (ev : Event) (pc : TaskPc) :
    (taskStep s k r ev pc).2 = .done ∨
      (pc.left = 1 ∧ (taskStep s k r ev pc).2 = .pipeline .loop) ∨
      ∃ pc', pc'.left + 1 = pc.left ∧ (taskStep s k r ev pc).2 = .pipeline (.task k r pc') := by
  cases pc <;> simp only [taskStep] <;> (try split) <;> simp [TaskPc.left]

/-- A task run alone for as many events as it has statements left ends at the loop head or
done, having written only `state`. -/
theorem soloRun_task (cfg : Cfg) (k : TaskType) (r : Request) :
    ∀ (evs : List Event) (pc : TaskPc) (s : Sys), evs.length = pc.left →
      ∃ st t, soloRun cfg (s, .pipeline (.task k r pc)) evs = ({ s with state := st }, t) ∧
        (t = .pipeline .loop ∨ t = .done)
  | [], pc, _, h => by cases pc <;> simp [TaskPc.left] at h
  | ev :: evs, pc, s, h => by
    obtain ⟨st, hs⟩ := taskStep_fst s k r ev pc
    have hrun : soloRun cfg (s, .pipeline (.task k r pc)) (ev :: evs) =
        soloRun cfg ({ s with state := st }, (taskStep s k r ev pc).2) evs := by
      rw [← hs]; rfl
    rcases taskStep_next s k r ev pc with hd | ⟨hl, hl'⟩ | ⟨pc', hl, ht⟩
    · exact ⟨st, .done, by rw [hrun, hd, soloRun_done], .inr rfl⟩
    · have : evs = [] := List.eq_nil_of_length_eq_zero (by simp at h; omega)
      exact ⟨st, .pipeline .loop, by rw [hrun, hl', this]; rfl, .inl rfl⟩
    · obtain ⟨st', t, he, ht'⟩ := soloRun_task cfg k r evs pc' { s with state := st }
        (by simp at h; omega)
      exact ⟨st', t, by rw [hrun, ht, he], ht'⟩

theorem length_envelopeEvents (ctx : Ctx) (env : TaskEnv) (w : World) (e : Envelope) :
    (envelopeEvents ctx env w e).length = 9 := by
  obtain ⟨_ | _, _⟩ := e <;> rfl

/-- `process_request` at its loop head, attached, with `e` first in the inbox: the
`_attached` test, `inbox.get` and the task of `e`, fed the events of the task model's
calls, leave `e` taken, `state` as the task model leaves it, and the thread back at the
loop head or, when the loop body raised, done. -/
theorem soloRun_envelope (cfg : Cfg) (ctx : Ctx) (env : TaskEnv) (e : Envelope) (es : List Envelope)
    (w : World) (s : Sys) :
    ∃ t, soloRun cfg ({ s with state := w.state, inbox := e :: es, attached := true }, .pipeline .loop)
        (.ok :: .ok :: envelopeEvents ctx env w e) =
      ({ s with inbox := es, attached := true,
                state := ((processRequest.handle ctx env e).exec w).2.state }, t) ∧
      (t = .pipeline .loop ∨ t = .done) ∧
      (t = .pipeline .loop ↔ ((processRequest.handle ctx env e).exec w).1 = .ok ()) := by
  have hget : soloRun cfg ({ s with state := w.state, inbox := e :: es, attached := true }, .pipeline .loop)
      (.ok :: .ok :: envelopeEvents ctx env w e) =
      soloRun cfg ({ { s with inbox := es, attached := true } with state := w.state },
        .pipeline (.task e.1 e.2 .setState)) (envelopeEvents ctx env w e) := rfl
  obtain ⟨st, t, hrun, ht⟩ := soloRun_task cfg e.1 e.2 _ .setState
    { { s with inbox := es, attached := true } with state := w.state } (length_envelopeEvents ctx env w e)
  have hh : (soloRun cfg ({ { s with inbox := es, attached := true } with state := w.state },
        .pipeline (.task e.1 e.2 .setState)) (envelopeEvents ctx env w e)).1.state =
        ((processRequest.handle ctx env e).exec w).2.state ∧
      ((soloRun cfg ({ { s with inbox := es, attached := true } with state := w.state },
        .pipeline (.task e.1 e.2 .setState)) (envelopeEvents ctx env w e)).2 = .pipeline .loop ↔
        ((processRequest.handle ctx env e).exec w).1 = .ok ()) := by
    obtain ⟨_ | _, request⟩ := e
    · exact soloRun_handle_train cfg ctx env request w _
    · exact soloRun_handle_validate cfg ctx env request w _
  rw [hrun] at hh
  exact ⟨t, by rw [hget, hrun, ← hh.1], ht, hh.2⟩

/-- The events of `process_request` handed the envelopes `es` in turn, the task model
starting from `w`: for each envelope the `_attached` test, `inbox.get` and the events of
its task. -/
def pipelineEvents (ctx : Ctx) (env : TaskEnv) : World → List Envelope → List Event
  | _, [] => []
  | w, e :: es => (.ok :: .ok :: envelopeEvents ctx env w e) ++
      pipelineEvents ctx env ((processRequest.handle ctx env e).exec w).2 es

theorem soloRun_append (cfg : Cfg) (x : Sys × Thread) (evs evs' : List Event) :
    soloRun cfg x (evs ++ evs') = soloRun cfg (soloRun cfg x evs) evs' := by
  induction evs generalizing x with
  | nil => rfl
  | cons ev evs ih => exact ih _

/-- For every list of envelopes queued before it, and every world the task model starts
from: `process_request` run alone while attached, fed the events of the task model's calls,
takes the envelopes in order and ends with the `state` the task model's loop leaves; it is
back at its loop head exactly when that loop returned, and then the inbox is empty. -/
theorem soloRun_processRequest (cfg : Cfg) (ctx : Ctx) (env : TaskEnv) :
    ∀ (es : List Envelope) (w : World) (s : Sys),
    (soloRun cfg ({ s with state := w.state, inbox := es, attached := true }, .pipeline .loop)
        (pipelineEvents ctx env w es)).1.state = ((processRequest ctx env es).exec w).2.state ∧
    ((soloRun cfg ({ s with state := w.state, inbox := es, attached := true }, .pipeline .loop)
        (pipelineEvents ctx env w es)).2 = .pipeline .loop ↔
      ((processRequest ctx env es).exec w).1 = .ok ()) ∧
    (((processRequest ctx env es).exec w).1 = .ok () →
      (soloRun cfg ({ s with state := w.state, inbox := es, attached := true }, .pipeline .loop)
        (pipelineEvents ctx env w es)).1.inbox = [])
  | [], w, s => by simp [pipelineEvents, soloRun, processRequest]
  | e :: es, w, s => by
    obtain ⟨t, hrun, ht, hok⟩ := soloRun_envelope cfg ctx env e es w s
    rw [pipelineEvents, soloRun_append, hrun, processRequest, exec_bind]
    rcases hh : (processRequest.handle ctx env e).exec w with ⟨err | _, w'⟩ <;>
      rw [hh] at hok
    · have hd : t = .done := ht.resolve_left fun h => Except.noConfusion (hok.mp h)
      simp [hd, soloRun_done]
    · rw [hok.mpr rfl]
      exact soloRun_processRequest cfg ctx env es w' s

end Fedn
