import FednClient.Proofs.Inbox

/-! What a worker's configuration lets in. `_subscribe_to_combiner` starts the update
listener only when `config['trainer']` holds and the validation listener only when
`config['validator']` does; each puts envelopes of its own kind, and the pipeline runs
what it takes. So on every interleaving the inbox, the threads and `state` hold only
tasks of the kinds the configuration asks for: a worker that is not a validator never
validates, whatever the combiner sends. The update listener's sender test carries through
the inbox as well, so the pipeline trains only on requests the combiner sent. -/

namespace Fedn

/-- Whether the configuration asks for tasks of kind `k`. -/
def TaskType.enabled (cfg : Cfg) : TaskType → Bool
  | .train => cfg.trainer
  | .validate => cfg.validator

/-- Whether the worker lets an envelope into its pipeline: of an enabled kind, and past the
listener's sender test. -/
def Envelope.admitted (cfg : Cfg) (e : Envelope) : Bool := e.1.enabled cfg && Envelope.selected e

/-- Whether the configuration allows a thread: a listener only of an enabled kind, one that
holds a request only an admitted one, and a pipeline only in the task of an admitted
envelope. -/
def Thread.admitted (cfg : Cfg) : Thread → Bool
  | .updates (.status r) | .updates (.put r) => Envelope.admitted cfg (.train, r)
  | .updates _ => cfg.trainer
  | .validations (.status r) | .validations (.put r) => Envelope.admitted cfg (.validate, r)
  | .validations _ => cfg.validator
  | .pipeline (.task k r _) => Envelope.admitted cfg (k, r)
  | _ => true

/-- Whether the configuration allows `self.state`: busy only with an enabled kind. -/
def ClientState.enabled (cfg : Cfg) : ClientState → Bool
  | .idle => true
  | .training => cfg.trainer
  | .validating => cfg.validator

@[simp] theorem Envelope.admitted_train (cfg : Cfg) (r : Request) :
    Envelope.admitted cfg (.train, r) = (cfg.trainer && r.sender.role == .COMBINER) := rfl

@[simp] theorem Envelope.admitted_validate (cfg : Cfg) (r : Request) :
    Envelope.admitted cfg (.validate, r) = cfg.validator := by
  simp [Envelope.admitted, TaskType.enabled, Envelope.selected]

@[simp] theorem ClientState.enabled_idle (cfg : Cfg) : ClientState.idle.enabled cfg = true := rfl

theorem TaskType.enabled_of_admitted {cfg : Cfg} {k : TaskType} {r : Request}
    (h : Envelope.admitted cfg (k, r) = true) : k.enabled cfg = true := by
  cases k <;> simp_all [TaskType.enabled]

theorem TaskType.busy_enabled {cfg : Cfg} {k : TaskType} {r : Request}
    (h : Envelope.admitted cfg (k, r) = true) : k.busy.enabled cfg = true := by
  cases k <;> simp_all [TaskType.busy, ClientState.enabled]

/-- Everything in the state is admitted by the configuration. -/
structure AdmitInv (cfg : Cfg) (s : Sys) : Prop where
  inbox : s.inbox.all (Envelope.admitted cfg) = true
  threads : ∀ t ∈ s.threads, t.admitted cfg = true
  state : s.state.all (·.enabled cfg) = true

theorem admitInv_init (cfg : Cfg) : AdmitInv cfg Sys.init :=
  ⟨by simp [Sys.init], by simp [Sys.init], by simp [Sys.init]⟩

theorem MainPc.started_admitted {cfg : Cfg} {pc : MainPc} {t : Thread} (h : pc.started cfg = some t) :
    t.admitted cfg = true := by
  cases pc <;> simp only [MainPc.started] at h <;> (try split at h) <;> cases h <;>
    simp_all [Thread.admitted]

theorem admitInv_main {cfg : Cfg} {s : Sys} (ev : Event) (h : AdmitInv cfg s) :
    AdmitInv cfg (step cfg s (.main ev)) := by
  rw [step_main]
  refine ⟨by rw [mainStep_inbox]; exact h.inbox, fun t ht => ?_, ?_⟩
  · rw [mainStep_threads] at ht
    rcases List.mem_append.mp ht with ht | ht
    · exact h.threads t ht
    · exact MainPc.started_admitted (Option.mem_toList.mp ht)
  · rw [mainStep_state]
    split
    · rfl
    · exact h.state

/-- A started thread's statement keeps the inbox, the thread itself and `state` admitted. -/
theorem threadStep_admitInv (cfg : Cfg) (s : Sys) (ev : Event) {t : Thread} (h : AdmitInv cfg s)
    (ht : t.admitted cfg = true) :
    (threadStep cfg s ev t).1.inbox.all (Envelope.admitted cfg) = true ∧
    (threadStep cfg s ev t).2.admitted cfg = true ∧
    (threadStep cfg s ev t).1.state.all (·.enabled cfg) = true := by
  obtain ⟨hi, -, hs⟩ := h
  rcases t with pc | pc | pc | (_ | _ | ⟨k, r, pc⟩) | _
  · cases pc <;> simp only [threadStep, heartbeatStep] <;> (try split) <;>
      simp [Thread.admitted, hi, hs]
  · cases pc <;> simp only [Thread.admitted] at ht <;> simp only [threadStep, updatesStep] <;>
      (try split) <;> simp_all [Thread.admitted]
  · cases pc <;> simp only [Thread.admitted, Envelope.admitted_validate] at ht <;>
      simp only [threadStep, validationsStep] <;>
      (try split) <;> simp [Thread.admitted, hi, hs, ht]
  · simp only [threadStep, pipelineStep]; split <;> simp [Thread.admitted, hi, hs]
  · simp only [threadStep, pipelineStep]; split
    · simp [Thread.admitted, hi, hs]
    · rename_i heq
      simp only [heq, List.all_cons, Bool.and_eq_true] at hi
      exact ⟨hi.2, hi.1, hs⟩
  · simp only [Thread.admitted] at ht
    cases pc <;> simp only [threadStep, pipelineStep, taskStep] <;> (try split) <;>
      simp [Thread.admitted, hi, hs, ht, TaskType.busy_enabled ht]
  · simp [threadStep, Thread.admitted, hi, hs]

theorem admitInv_step {cfg : Cfg} {s : Sys} (h : AdmitInv cfg s) :
    ∀ l, AdmitInv cfg (step cfg s l)
  | .main ev => admitInv_main ev h
  | .thread i ev => by
    cases hi : s.threads[i]? with
    | none => rwa [step_thread_none ev hi]
    | some t =>
      obtain ⟨hin, ht, hst⟩ := threadStep_admitInv cfg s ev h (h.threads t (List.getElem?_mem hi))
      rw [step_thread ev hi]
      refine ⟨hin, fun t' ht' => ?_, hst⟩
      rcases List.mem_or_eq_of_mem_set ht' with ht' | rfl
      · exact h.threads t' ht'
      · exact ht

theorem admitInv_run (cfg : Cfg) :
    ∀ (ls : List Label) (s : Sys), AdmitInv cfg s → AdmitInv cfg (run cfg s ls)
  | [], _, h => h
  | l :: ls, _, h => admitInv_run cfg ls _ (admitInv_step h l)

/-- On every interleaving, whatever the combiner sends: the inbox holds only envelopes of
kinds the configuration asks for; an update listener runs only on a trainer, a validation
listener only on a validator, and the pipeline runs only tasks of an enabled kind; and
`state` is busy only with such a task's kind. -/
theorem configured_tasks_only (cfg : Cfg) (ls : List Label) :
    (∀ e ∈ (run cfg Sys.init ls).inbox, e.1.enabled cfg = true) ∧
    (∀ pc, Thread.updates pc ∈ (run cfg Sys.init ls).threads → cfg.trainer = true) ∧
    (∀ pc, Thread.validations pc ∈ (run cfg Sys.init ls).threads → cfg.validator = true) ∧
    (∀ k r pc, Thread.pipeline (.task k r pc) ∈ (run cfg Sys.init ls).threads → k.enabled cfg = true) ∧
    (∀ k : TaskType, (run cfg Sys.init ls).state = some k.busy → k.enabled cfg = true) := by
  have h := admitInv_run cfg ls Sys.init (admitInv_init cfg)
  refine ⟨fun e he => TaskType.enabled_of_admitted (List.all_eq_true.mp h.inbox e he),
    fun pc ht => ?_, fun pc ht => ?_, fun _ _ _ ht => TaskType.enabled_of_admitted (h.threads _ ht),
    fun k hk => ?_⟩
  · have := h.threads _ ht
    cases pc <;> simp_all [Thread.admitted]
  · have := h.threads _ ht
    cases pc <;> simp_all [Thread.admitted]
  · have := h.state
    cases k <;> simp_all [TaskType.busy, ClientState.enabled, TaskType.enabled]

/-- On every interleaving the pipeline trains only on requests the combiner sent: every
training envelope in the inbox, and every training task a pipeline runs, holds a request
whose sender has the role `COMBINER`. -/
theorem trains_only_combiner_requests (cfg : Cfg) (ls : List Label) :
    (∀ r, (TaskType.train, r) ∈ (run cfg Sys.init ls).inbox → r.sender.role = .COMBINER) ∧
    (∀ r pc, Thread.pipeline (.task .train r pc) ∈ (run cfg Sys.init ls).threads →
      r.sender.role = .COMBINER) := by
  have h := admitInv_run cfg ls Sys.init (admitInv_init cfg)
  refine ⟨fun r hr => ?_, fun r pc ht => ?_⟩
  · exact (by simpa using List.all_eq_true.mp h.inbox _ hr : _ ∧ _).2
  · exact (by simpa [Thread.admitted] using h.threads _ ht : _ ∧ _).2

end Fedn
