import FednClient.Sanity.Worker

/-! One task at a time, and the reattach that breaks it. `process_request` checks
`_attached` only at its loop head, so a pipeline inside a task when a heartbeat worker
detaches keeps running, and the supervisor's `_subscribe_to_combiner` starts a second
`process_request` beside it: two threads then run tasks, and the one that finishes first
sets `state` back to `idle` while the other is still in its training block.

Without a detach the constructor's pipeline is the only one. `process_request` sets
`state` to the task's only after `inbox.get`, and the task function sets it back to `idle`
before the pipeline publishes, sends the closing status and calls `task_done`, so at both
ends of a task the envelope is taken while `state` is `idle`. From the task function's
opening status to its `self.state = ClientState.idle` the state is the task's, and after
the constructor it is `idle` whenever no task is there, on the interleavings where no
heartbeat worker runs `_detach`, no request arrives before the constructor's
`self.state = ClientState.idle`, and no raise leaves a task with `state` still the
task's. -/

namespace Fedn

/-! ### Where a thread is -/

/-- From the task function's opening status to its `self.state = ClientState.idle`. -/
def TaskPc.running : TaskPc → Bool
  | .startStatus | .setStateAgain | .body | .setIdle _ => true
  | _ => false

/-- The kind of the task a pipeline is running there. -/
def PipelinePc.running : PipelinePc → Option TaskType
  | .task k _ pc => if pc.running then some k else none
  | _ => none

def Thread.running : Thread → Option TaskType
  | .pipeline pc => pc.running
  | _ => none

def Thread.isPipeline : Thread → Bool
  | .pipeline _ => true
  | _ => false

/-- A pipeline that has taken an envelope from `inbox` and not yet called `task_done`. -/
def Thread.inTask : Thread → Bool
  | .pipeline (.task _ _ _) => true
  | _ => false

/-- A thread holding no request: no listener between receiving a request and putting
it, and no pipeline in a task. -/
def Thread.holdsNothing : Thread → Bool
  | .updates (.role _) | .updates (.status _) | .updates (.put _) => false
  | .validations (.status _) | .validations (.put _) => false
  | .pipeline (.task _ _ _) => false
  | _ => true

def MainPc.inCtor : MainPc → Bool
  | .attachCheck p | .assign p | .connect p | .markAttached p | .spawnHeartbeat p
  | .spawnUpdates p | .spawnValidations p | .setAttached p | .spawnPipeline p | .raised p =>
    p = .ctor
  | .setIdle => true
  | .loopCheck => false

/-- From `_attach`'s `self._attached = True` to the end of the constructor, and `run`. -/
def MainPc.subscribing : MainPc → Bool
  | .spawnHeartbeat _ | .spawnUpdates _ | .spawnValidations _ | .setAttached _
  | .spawnPipeline _ | .setIdle | .loopCheck => true
  | _ => false

/-- The raises that leave `process_request` from inside a task while `state` is the
task's: the task function's opening `_send_status`, and the `raise` of a failed
validation block. -/
def PipelinePc.escapes : PipelinePc → Event → Bool
  | .task _ _ .startStatus, .fail => true
  | .task .validate _ .body, .fail => true
  | _, _ => false

/-- The steps of the interleavings the invariant is about: no heartbeat worker runs
`_detach`, no request is delivered while the main thread is in the constructor, and no
step raises out of a task. -/
def taskDiscipline (s : Sys) : Label → Bool
  | .main _ => true
  | .thread i ev =>
    (match ev with
      | .deliver _ => !s.main.inCtor
      | _ => true) &&
    (match s.threads[i]? with
      | some (.pipeline pc) => !pc.escapes ev
      | some (.heartbeat .detach) => false
      | _ => true)

/-! ### What one step of each thread does to `state` -/

theorem Thread.running_of_not_pipeline {t : Thread} (h : t.isPipeline = false) :
    t.running = none := by
  cases t <;> simp_all [Thread.isPipeline, Thread.running]

theorem Thread.running_of_holdsNothing {t : Thread} (h : t.holdsNothing = true) :
    t.running = none := by
  rcases t with _ | _ | _ | (_ | _ | _) | _ <;> first | rfl | simp [Thread.holdsNothing] at h

theorem Thread.isPipeline_of_inTask {t : Thread} (h : t.inTask = true) : t.isPipeline = true := by
  rcases t with _ | _ | _ | (_ | _ | _) | _ <;> simp_all [Thread.inTask, Thread.isPipeline]

/-- Only a pipeline steps to a pipeline. -/
theorem threadStep_isPipeline (cfg : Cfg) (s : Sys) (ev : Event) {t : Thread}
    (h : t.isPipeline = false) : (threadStep cfg s ev t).2.isPipeline = false := by
  rcases t with pc | pc | pc | pc | _
  · rcases heartbeatStep_snd cfg s ev pc with e | ⟨_, e⟩ <;> simp [threadStep, e, Thread.isPipeline]
  · rcases updatesStep_snd s ev pc with e | ⟨_, e⟩ <;> simp [threadStep, e, Thread.isPipeline]
  · rcases validationsStep_snd s ev pc with e | ⟨_, e⟩ <;> simp [threadStep, e, Thread.isPipeline]
  · simp [Thread.isPipeline] at h
  · rfl

/-- Heartbeat workers and listeners do not write `state`. -/
theorem threadStep_state (cfg : Cfg) (s : Sys) (ev : Event) {t : Thread}
    (h : t.isPipeline = false) : (threadStep cfg s ev t).1.state = s.state := by
  rcases t with pc | pc | pc | pc | _
  · obtain ⟨_, _, _, _, e⟩ := heartbeatStep_fst cfg s ev pc; simp [threadStep, e]
  · obtain ⟨_, e⟩ := updatesStep_fst s ev pc; simp [threadStep, e]
  · obtain ⟨_, e⟩ := validationsStep_fst s ev pc; simp [threadStep, e]
  · simp [Thread.isPipeline] at h
  · rfl

/-- A thread that holds nothing, given no request and an empty `inbox`, still holds
nothing and leaves `inbox` empty. -/
theorem threadStep_holdsNothing (cfg : Cfg) (s : Sys) {ev : Event} {t : Thread}
    (ht : t.holdsNothing = true) (hev : ∀ r, ev ≠ .deliver r) (hin : s.inbox = []) :
    (threadStep cfg s ev t).2.holdsNothing = true ∧ (threadStep cfg s ev t).1.inbox = [] := by
  rcases t with pc | pc | pc | pc | _
  · obtain ⟨_, _, _, _, e⟩ := heartbeatStep_fst cfg s ev pc
    rcases heartbeatStep_snd cfg s ev pc with e' | ⟨_, e'⟩ <;>
      simp [threadStep, e, e', hin, Thread.holdsNothing]
  · cases pc <;> simp only [Thread.holdsNothing, Bool.false_eq_true] at ht
    case recv => cases ev <;> simp_all [threadStep, updatesStep, Thread.holdsNothing]
    all_goals by_cases ha : s.attached = true <;>
      simp [threadStep, updatesStep, ha, hin, Thread.holdsNothing]
  · cases pc <;> simp only [Thread.holdsNothing, Bool.false_eq_true] at ht
    case recv => cases ev <;> simp_all [threadStep, validationsStep, Thread.holdsNothing]
    case check => by_cases ha : s.attached = true <;>
      simp [threadStep, validationsStep, ha, hin, Thread.holdsNothing]
  · rcases pc with _ | _ | _
    · by_cases ha : s.attached = true <;>
        simp [threadStep, pipelineStep, ha, hin, Thread.holdsNothing]
    · simp [threadStep, pipelineStep, hin, Thread.holdsNothing]
    · simp [Thread.holdsNothing] at ht
  · exact ⟨rfl, hin⟩

/-- A pipeline that steps into a running task has set `state` to the task's, or finds it
there from the running statement before. -/
theorem pipelineStep_running_busy {s : Sys} {ev : Event} {pc : PipelinePc} {k : TaskType}
    (hk : (pipelineStep s ev pc).2.running = some k)
    (hbusy : ∀ k₀, pc.running = some k₀ → s.state = some k₀.busy) :
    (pipelineStep s ev pc).1.state = some k.busy := by
  rcases pc with _ | _ | ⟨k₀, r, pc⟩
  · by_cases ha : s.attached = true <;> simp [pipelineStep, ha, Thread.running, PipelinePc.running] at hk
  · simp only [pipelineStep] at hk
    split at hk <;> simp [Thread.running, PipelinePc.running, TaskPc.running] at hk
  · have hb := hbusy k₀
    rcases pc with _ | _ | _ | _ | ok | ok | _ | _ | _ <;> simp only [pipelineStep, taskStep] at hk ⊢ <;>
      (try split at hk) <;> simp_all [Thread.running, PipelinePc.running, TaskPc.running]

/-- A pipeline that is not in a running task afterwards has left `state` `idle`, or set it
there, unless it raised out of the task. -/
theorem pipelineStep_idle {s : Sys} {ev : Event} {pc : PipelinePc} (hesc : pc.escapes ev = false)
    (hnone : (pipelineStep s ev pc).2.running = none)
    (hidle : pc.running = none → s.state = some .idle) :
    (pipelineStep s ev pc).1.state = some .idle := by
  rcases pc with _ | _ | ⟨k₀, r, pc⟩
  · exact hidle rfl
  · simp only [pipelineStep]; split <;> simp [hidle rfl]
  · rcases pc with _ | _ | _ | _ | ok | ok | _ | _ | _ <;> simp only [pipelineStep, taskStep] at hnone ⊢ <;>
      (try split at hnone) <;>
      simp_all [Thread.running, PipelinePc.running, TaskPc.running, PipelinePc.escapes]

/-- A thread other than a heartbeat worker at `_detach` leaves `_attached` as it is. -/
theorem threadStep_attached (cfg : Cfg) (s : Sys) (ev : Event) {t : Thread}
    (h : t ≠ .heartbeat .detach) : (threadStep cfg s ev t).1.attached = s.attached := by
  rcases t with pc | pc | pc | pc | _
  · cases pc <;> first | exact absurd rfl h | rfl
  · obtain ⟨_, e⟩ := updatesStep_fst s ev pc; simp [threadStep, e]
  · obtain ⟨_, e⟩ := validationsStep_fst s ev pc; simp [threadStep, e]
  · obtain ⟨_, _, e⟩ := pipelineStep_fst s ev pc; simp [threadStep, e]
  · rfl

/-! ### What one step of the main thread does -/

/-- The main thread is in the constructor after a step exactly when it was before and the
step was not the constructor's last, `self.state = ClientState.idle`. -/
theorem mainStep_inCtor (cfg : Cfg) (s : Sys) (ev : Event) (pc : MainPc) :
    (mainStep cfg s ev pc).main.inCtor = (pc.inCtor && pc != .setIdle) := by
  cases pc <;> simp only [mainStep] <;> (try split) <;> simp_all [MainPc.inCtor]

/-- A started thread holds nothing, and only `spawnPipeline` starts a pipeline. -/
theorem MainPc.started_holdsNothing {cfg : Cfg} {pc : MainPc} {t : Thread}
    (h : pc.started cfg = some t) :
    t.holdsNothing = true ∧ (t.isPipeline = true → ∃ p, pc = .spawnPipeline p) := by
  cases pc <;> simp only [MainPc.started] at h <;> (try split at h) <;> cases h <;>
    simp [Thread.holdsNothing, Thread.isPipeline]

/-! ### Without a detach, one pipeline -/

/-- With `_attached` never cleared, the main thread stays in `run`'s check once the
constructor is done, and no pipeline exists before the constructor starts one. -/
structure NoReattach (s : Sys) : Prop where
  attached : s.main.subscribing = true → s.attached = true
  loop : s.main.inCtor = false → s.main = .loopCheck
  ctor_noPipeline : s.main.inCtor = true → s.main ≠ .setIdle → ∀ t ∈ s.threads, t.isPipeline = false

theorem noReattach_init : NoReattach Sys.init :=
  ⟨by simp [Sys.init, MainPc.subscribing], by simp [Sys.init, MainPc.inCtor], by simp [Sys.init]⟩

theorem noReattach_main {cfg : Cfg} {s : Sys} (ev : Event) (h : NoReattach s) :
    NoReattach (step cfg s (.main ev)) := by
  have hc := mainStep_inCtor cfg s ev s.main
  rw [step_main]
  refine ⟨fun hs => ?_, fun hl => ?_, fun hi hn t ht => ?_⟩
  · have ha := h.attached
    rcases hm : s.main <;> rw [hm] at hs ha <;> simp only [mainStep] at hs ⊢ <;>
      (try split at hs) <;> simp_all [MainPc.subscribing]
  · by_cases hs : s.main = .setIdle
    · simp [hs, mainStep]
    · have hc₀ : s.main.inCtor = false := by simpa [hl, hs] using hc.symm
      have ha := h.attached
      simp only [h.loop hc₀, MainPc.subscribing, true_implies] at ha ⊢
      simp [h.loop hc₀, mainStep, ha]
  · obtain ⟨hc₁, hc₂⟩ : s.main.inCtor = true ∧ s.main ≠ .setIdle := by simpa [hi] using hc.symm
    rw [mainStep_threads] at ht
    rcases List.mem_append.mp ht with ht | ht
    · exact h.ctor_noPipeline hc₁ hc₂ t ht
    · -- the constructor's `spawnPipeline` is followed by `setIdle`, and `run`'s is not reached
      cases hp : t.isPipeline
      · rfl
      obtain ⟨p, hsp⟩ := (MainPc.started_holdsNothing (Option.mem_toList.mp ht)).2 hp
      cases p
      · simp [hsp, mainStep] at hn
      · simp [hsp, MainPc.inCtor] at hc₁

theorem noReattach_thread {cfg : Cfg} {s : Sys} {i : Nat} {ev : Event} (h : NoReattach s)
    (hok : taskDiscipline s (.thread i ev) = true) : NoReattach (step cfg s (.thread i ev)) := by
  cases hi : s.threads[i]? with
  | none => rwa [step_thread_none ev hi]
  | some t₀ =>
    have hd : t₀ ≠ .heartbeat .detach := by
      rintro rfl
      simp [taskDiscipline, hi] at hok
    rw [step_thread ev hi]
    refine ⟨fun hs => ?_, fun hl => ?_, fun hc hn t ht => ?_⟩
    · rw [threadStep_attached cfg s ev hd]; exact h.attached (by simpa using hs)
    · simpa using h.loop (by simpa using hl)
    · simp only [threadStep_main] at hc hn
      rcases List.mem_or_eq_of_mem_set ht with ht | rfl
      · exact h.ctor_noPipeline hc hn t ht
      · exact threadStep_isPipeline cfg s ev (h.ctor_noPipeline hc hn t₀ (List.getElem?_mem hi))

/-! ### The invariant -/

/-- What holds in every state the discipline reaches. -/
structure TaskInv (s : Sys) : Prop where
  /-- At most one `process_request` thread is alive. -/
  pipeline_unique : ∀ (i j : Nat) (ti tj : Thread), s.threads[i]? = some ti → s.threads[j]? = some tj →
    ti.isPipeline = true → tj.isPipeline = true → i = j
  /-- A running task holds `state`. -/
  running_busy : ∀ (i : Nat) (t : Thread) (k : TaskType), s.threads[i]? = some t →
    t.running = some k → s.state = some k.busy
  /-- After the constructor, `state` is `idle` when no task runs. -/
  idle_of_none : s.main.inCtor = false →
    (∀ (i : Nat) (t : Thread), s.threads[i]? = some t → t.running = none) →
    s.state = some .idle
  /-- Nothing is received during the constructor. -/
  ctor_quiet : s.main.inCtor = true →
    s.inbox = [] ∧ ∀ (i : Nat) (t : Thread), s.threads[i]? = some t → t.holdsNothing = true

theorem taskInv_init : TaskInv Sys.init where
  pipeline_unique := by simp [Sys.init]
  running_busy := by simp [Sys.init]
  idle_of_none := by simp [Sys.init, MainPc.inCtor]
  ctor_quiet := by simp [Sys.init]

theorem taskInv_main {cfg : Cfg} {s : Sys} (ev : Event) (h : TaskInv s) (hr : NoReattach s) :
    TaskInv (step cfg s (.main ev)) := by
  have hst : (step cfg s (.main ev)).state = _ := mainStep_state cfg s ev s.main
  have hin : (step cfg s (.main ev)).inbox = _ := mainStep_inbox cfg s ev s.main
  -- a started pipeline is the constructor's, which finds no other one
  have hnew : ∀ {j : Nat} {t tj : Thread}, s.main.started cfg = some t → t.isPipeline = true →
      s.threads[j]? = some tj → tj.isPipeline = false := by
    intro j t tj ht hp hj
    obtain ⟨p, hp⟩ := (MainPc.started_holdsNothing ht).2 hp
    cases p
    · exact hr.ctor_noPipeline (by simp [hp, MainPc.inCtor]) (by simp [hp]) tj (List.getElem?_mem hj)
    · simpa [hp] using hr.loop (by simp [hp, MainPc.inCtor])
  constructor
  · intro i j ti tj hi hj pi pj
    rcases threads_step_main ev hi with hi' | ⟨rfl, si⟩ <;>
      rcases threads_step_main ev hj with hj' | ⟨rfl, sj⟩
    · exact h.pipeline_unique i j ti tj hi' hj' pi pj
    · simp [hnew sj pj hi'] at pi
    · simp [hnew si pi hj'] at pj
    · rfl
  · intro i t k ht hk
    rcases threads_step_main ev ht with ht' | ⟨_, st⟩
    · by_cases hs : s.main = .setIdle
      · have := (h.ctor_quiet (by simp [hs, MainPc.inCtor])).2 i t ht'
        simp [Thread.running_of_holdsNothing this] at hk
      · rw [hst, if_neg hs]
        exact h.running_busy i t k ht' hk
    · simp [Thread.running_of_holdsNothing (MainPc.started_holdsNothing st).1] at hk
  · intro hc hnone
    by_cases hs : s.main = .setIdle
    · rw [hst, if_pos hs]
    · rw [hst, if_neg hs]
      have hc₀ : s.main.inCtor = false := by
        simpa [step_main, mainStep_inCtor, hs] using hc
      exact h.idle_of_none hc₀ fun i t ht => hnone i t (threads_step_main_of ev ht)
  · intro hc
    rw [step_main, mainStep_inCtor, Bool.and_eq_true] at hc
    obtain ⟨hib, hq⟩ := h.ctor_quiet hc.1
    refine ⟨hin.trans hib, fun i t ht => ?_⟩
    rcases threads_step_main ev ht with ht' | ⟨_, st⟩
    · exact hq i t ht'
    · exact (MainPc.started_holdsNothing st).1

/-- During the constructor no request arrives, so a thread's step leaves every thread
holding nothing and `inbox` empty. -/
theorem ctorQuiet_thread {cfg : Cfg} {s : Sys} {i : Nat} {ev : Event} {t₀ : Thread} (h : TaskInv s)
    (hok : taskDiscipline s (.thread i ev) = true) (hi : s.threads[i]? = some t₀)
    (hc : s.main.inCtor = true) :
    (step cfg s (.thread i ev)).inbox = [] ∧ ∀ (j : Nat) (t : Thread),
      (step cfg s (.thread i ev)).threads[j]? = some t → t.holdsNothing = true := by
  have hev : ∀ r, ev ≠ .deliver r := by
    rintro r rfl
    simp [taskDiscipline, hc] at hok
  obtain ⟨hin, hq⟩ := h.ctor_quiet hc
  have hstep := threadStep_holdsNothing cfg s (hq i t₀ hi) hev hin
  refine ⟨by rw [step_thread ev hi]; exact hstep.2, fun j t hj => ?_⟩
  rcases threads_step_thread ev hi hj with ⟨-, rfl⟩ | ⟨-, hj'⟩
  · exact hstep.1
  · exact hq j t hj'

/-- A heartbeat worker or a listener leaves `state` as it is and starts no pipeline. -/
theorem taskInv_thread_other {cfg : Cfg} {s : Sys} {i : Nat} {ev : Event} {t₀ : Thread}
    (h : TaskInv s) (hok : taskDiscipline s (.thread i ev) = true) (hi : s.threads[i]? = some t₀)
    (hp : t₀.isPipeline = false) : TaskInv (step cfg s (.thread i ev)) := by
  have hmain : (step cfg s (.thread i ev)).main = s.main := by rw [step_thread ev hi]; simp
  have hstate : (step cfg s (.thread i ev)).state = s.state := by
    rw [step_thread ev hi]; exact threadStep_state cfg s ev hp
  have hp' := threadStep_isPipeline cfg s ev hp
  refine ⟨fun j k tj tk hj hk pj pk => ?_, fun j t k hj hk => ?_, fun hc hnone => ?_,
    fun hc => ctorQuiet_thread h hok hi (hmain ▸ hc)⟩
  · rcases threads_step_thread ev hi hj with ⟨-, rfl⟩ | ⟨-, hj'⟩
    · simp [hp'] at pj
    rcases threads_step_thread ev hi hk with ⟨-, rfl⟩ | ⟨-, hk'⟩
    · simp [hp'] at pk
    exact h.pipeline_unique j k tj tk hj' hk' pj pk
  · rcases threads_step_thread ev hi hj with ⟨-, rfl⟩ | ⟨-, hj'⟩
    · simp [Thread.running_of_not_pipeline hp'] at hk
    rw [hstate]
    exact h.running_busy j t k hj' hk
  · rw [hstate]
    refine h.idle_of_none (hmain ▸ hc) fun j t hj => ?_
    by_cases hji : j = i
    · rw [hji, hi, Option.some.injEq] at hj
      exact hj ▸ Thread.running_of_not_pipeline hp
    · exact hnone j t (by rw [step_thread ev hi, List.getElem?_set_ne (Ne.symm hji)]; exact hj)

/-- The pipeline: every other thread is no pipeline, so none of them runs a task, and the
pipeline's own step keeps `state` the task's while it runs and `idle` when it does not. -/
theorem taskInv_thread_pipeline {cfg : Cfg} {s : Sys} {i : Nat} {ev : Event} {pc : PipelinePc}
    (h : TaskInv s) (hok : taskDiscipline s (.thread i ev) = true)
    (hi : s.threads[i]? = some (.pipeline pc)) : TaskInv (step cfg s (.thread i ev)) := by
  have hmain : (step cfg s (.thread i ev)).main = s.main := by rw [step_thread ev hi]; simp
  have hstate : (step cfg s (.thread i ev)).state = (pipelineStep s ev pc).1.state := by
    rw [step_thread ev hi]; rfl
  have hnew : (step cfg s (.thread i ev)).threads[i]? = some (pipelineStep s ev pc).2 := by
    rw [step_thread ev hi, List.getElem?_set_self (List.getElem?_eq_some_iff.mp hi).1]; rfl
  have hother : ∀ j t, j ≠ i → s.threads[j]? = some t → t.isPipeline = false := by
    intro j t hji hj
    cases hpt : t.isPipeline
    · rfl
    · exact absurd (h.pipeline_unique j i t _ hj hi hpt rfl) hji
  have hesc : pc.escapes ev = false := by
    cases hc : pc.escapes ev
    · rfl
    · simp [taskDiscipline, hi, hc] at hok
  refine ⟨fun j k tj tk hj hk pj pk => ?_, fun j t k hj hk => ?_, fun hc hnone => ?_,
    fun hc => ctorQuiet_thread h hok hi (hmain ▸ hc)⟩
  · rcases threads_step_thread ev hi hj with ⟨rfl, -⟩ | ⟨hji, hj'⟩ <;>
      rcases threads_step_thread ev hi hk with ⟨rfl, -⟩ | ⟨hki, hk'⟩
    · rfl
    · simp [hother k tk hki hk'] at pk
    · simp [hother j tj hji hj'] at pj
    · exact h.pipeline_unique j k tj tk hj' hk' pj pk
  · rcases threads_step_thread ev hi hj with ⟨-, rfl⟩ | ⟨hji, hj'⟩
    · rw [hstate]
      exact pipelineStep_running_busy hk fun k₀ h₀ => h.running_busy i _ k₀ hi h₀
    · simp [Thread.running_of_not_pipeline (hother j t hji hj')] at hk
  · rw [hstate]
    refine pipelineStep_idle hesc (hnone i _ hnew) fun hr =>
      h.idle_of_none (hmain ▸ hc) fun j t hj => ?_
    by_cases hji : j = i
    · rw [hji, hi, Option.some.injEq] at hj
      exact hj ▸ hr
    · exact Thread.running_of_not_pipeline (hother j t hji hj)

theorem taskInv_thread {cfg : Cfg} {s : Sys} {i : Nat} {ev : Event} (h : TaskInv s)
    (hok : taskDiscipline s (.thread i ev) = true) : TaskInv (step cfg s (.thread i ev)) := by
  cases hi : s.threads[i]? with
  | none => rwa [step_thread_none ev hi]
  | some t₀ =>
    cases hp : t₀.isPipeline
    · exact taskInv_thread_other h hok hi hp
    · rcases t₀ with _ | _ | _ | pc | _ <;> simp only [Thread.isPipeline, Bool.false_eq_true] at hp
      exact taskInv_thread_pipeline h hok hi

theorem taskInv_reachable {cfg : Cfg} {s : Sys}
    (h : Reachable cfg (fun s l => taskDiscipline s l) s) : TaskInv s ∧ NoReattach s := by
  induction h with
  | init => exact ⟨taskInv_init, noReattach_init⟩
  | step l _ hl ih =>
    cases l with
    | main ev => exact ⟨taskInv_main ev ih.1 ih.2, noReattach_main ev ih.2⟩
    | thread i ev => exact ⟨taskInv_thread ih.1 hl, noReattach_thread ih.2 hl⟩

/-! ### One task at a time without a detach -/

/-- On the interleavings where no heartbeat worker runs `_detach`, no request arrives during
the constructor and no raise leaves a task: at most one thread has taken an envelope and
not yet called `task_done`; from a task function's opening status to its
`self.state = ClientState.idle` the state is the task's; and after the constructor it is
`idle` whenever no task is in that stretch. -/
theorem one_task_without_detach (cfg : Cfg) (s : Sys)
    (h : Reachable cfg (fun s l => taskDiscipline s l) s) :
    (∀ (i j : Nat) (ti tj : Thread), s.threads[i]? = some ti → s.threads[j]? = some tj →
      ti.inTask = true → tj.inTask = true → i = j) ∧
    (∀ (i : Nat) (t : Thread) (k : TaskType), s.threads[i]? = some t → t.running = some k →
      s.state = some k.busy) ∧
    (s.main.inCtor = false →
      (∀ (i : Nat) (t : Thread), s.threads[i]? = some t → t.running = none) →
      s.state = some .idle) := by
  have hinv := (taskInv_reachable h).1
  exact ⟨fun i j ti tj hi hj ei ej => hinv.pipeline_unique i j ti tj hi hj
    (Thread.isPipeline_of_inTask ei) (Thread.isPipeline_of_inTask ej),
    hinv.running_busy, hinv.idle_of_none⟩

/-- A worker with the update listener only. -/
def taskCfg : Cfg := ⟨true, false, 3⟩

def trainRequest : Request := ⟨⟨"combiner", .COMBINER⟩, "m1", "", "c1", false⟩

/-- The constructor; the update listener receives `trainRequest`, sends its status and
puts it; the pipeline passes its loop check and takes it, and runs to the training block. -/
def bodyTrace : List Label :=
  List.replicate 10 (.main .ok) ++
  [.thread 1 (.deliver trainRequest), .thread 1 .ok, .thread 1 .ok, .thread 1 .ok] ++
  List.replicate 5 (.thread 2 .ok)

/-- The theorem where the pipeline is in the training block. -/
theorem one_task_without_detach_in_body :
    (run taskCfg Sys.init bodyTrace).threads[2]? =
      some (.pipeline (.task .train trainRequest .body)) ∧
    ((∀ (i j : Nat) (ti tj : Thread), (run taskCfg Sys.init bodyTrace).threads[i]? = some ti →
      (run taskCfg Sys.init bodyTrace).threads[j]? = some tj →
      ti.inTask = true → tj.inTask = true → i = j) ∧
    (∀ (i : Nat) (t : Thread) (k : TaskType), (run taskCfg Sys.init bodyTrace).threads[i]? = some t →
      t.running = some k → (run taskCfg Sys.init bodyTrace).state = some k.busy) ∧
    ((run taskCfg Sys.init bodyTrace).main.inCtor = false →
      (∀ (i : Nat) (t : Thread), (run taskCfg Sys.init bodyTrace).threads[i]? = some t →
        t.running = none) →
      (run taskCfg Sys.init bodyTrace).state = some .idle)) :=
  ⟨by decide, one_task_without_detach taskCfg _ (Reachable.run .init bodyTrace (by decide))⟩

/-! ### The reattach race -/

/-- A trainer that detaches at its first failed heartbeat. -/
def raceCfg : Cfg := ⟨true, false, 0⟩

def secondRequest : Request := ⟨⟨"combiner", .COMBINER⟩, "m2", "", "c2", false⟩

/-- The run to the training block of `trainRequest`; a failed heartbeat of worker 0 and
its `_detach`, after which it returns; the supervisor's reattach, which starts heartbeat
worker 3, update listener 4 and pipeline 5; listener 4 puts `secondRequest` and pipeline 5
takes it and runs to its training block. -/
def raceTrace : List Label :=
  bodyTrace ++ .thread 0 .fail :: List.replicate 5 (.thread 0 .ok) ++
  List.replicate 10 (.main .ok) ++
  [.thread 4 (.deliver secondRequest), .thread 4 .ok, .thread 4 .ok, .thread 4 .ok] ++
  List.replicate 5 (.thread 5 .ok)

set_option maxRecDepth 4000 in
/-- After the reattach two `process_request` threads are inside training blocks at once,
with the worker attached again; when the second one's training function returns and sets
`state` to `idle`, the first is still training. -/
theorem reattach_runs_two_tasks :
    (run raceCfg Sys.init raceTrace).main = .loopCheck ∧
    (run raceCfg Sys.init raceTrace).attached = true ∧
    (run raceCfg Sys.init raceTrace).threads[2]? =
      some (.pipeline (.task .train trainRequest .body)) ∧
    (run raceCfg Sys.init raceTrace).threads[5]? =
      some (.pipeline (.task .train secondRequest .body)) ∧
    (run raceCfg Sys.init (raceTrace ++ [.thread 5 .ok, .thread 5 .ok])).threads[2]? =
      some (.pipeline (.task .train trainRequest .body)) ∧
    (run raceCfg Sys.init (raceTrace ++ [.thread 5 .ok, .thread 5 .ok])).state = some .idle := by
  decide

end Fedn
