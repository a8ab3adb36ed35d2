import FednClient.Spec.Worker

/-! Steps of the worker field by field: what the main thread and each kind of started
thread can change. Invariants cite these lemmas and do not unfold `step`. -/

namespace Fedn

variable {cfg : Cfg} {s : Sys}

theorem run_append (ls ls' : List Label) : run cfg s (ls ++ ls') = run cfg (run cfg s ls) ls' := by
  induction ls generalizing s with
  | nil => rfl
  | cons l ls ih => exact ih

theorem step_main (ev : Event) : step cfg s (.main ev) = mainStep cfg s ev s.main := rfl

/-! ### What each thread can change -/

theorem mainStep_eq (cfg : Cfg) (s : Sys) (ev : Event) (pc : MainPc) :
    ∃ main threads attached channel opened state, mainStep cfg s ev pc =
      { s with main := main, threads := threads, attached := attached, channel := channel,
               opened := opened, state := state } := by
  cases pc
  case connect => simp only [mainStep]; split <;> exact ⟨_, _, _, _, _, _, rfl⟩
  all_goals exact ⟨_, _, _, _, _, _, rfl⟩

theorem mainStep_inbox (cfg : Cfg) (s : Sys) (ev : Event) (pc : MainPc) :
    (mainStep cfg s ev pc).inbox = s.inbox := by
  obtain ⟨_, _, _, _, _, _, e⟩ := mainStep_eq cfg s ev pc
  rw [e]

/-- Only the constructor's last statement writes `state`. -/
theorem mainStep_state (cfg : Cfg) (s : Sys) (ev : Event) (pc : MainPc) :
    (mainStep cfg s ev pc).state = if pc = .setIdle then some .idle else s.state := by
  cases pc
  case connect => simp only [mainStep]; split <;> rfl
  all_goals rfl

theorem heartbeatStep_fst (cfg : Cfg) (s : Sys) (ev : Event) (pc : HbPc) :
    ∃ attached missed closes hbLog, (heartbeatStep cfg s ev pc).1 =
      { s with attached := attached, missed := missed, closes := closes, hbLog := hbLog } := by
  cases pc <;> exact ⟨_, _, _, _, rfl⟩

theorem updatesStep_fst (s : Sys) (ev : Event) (pc : UpdatesPc) :
    ∃ inbox, (updatesStep s ev pc).1 = { s with inbox := inbox } := by
  cases pc <;> exact ⟨_, rfl⟩

theorem validationsStep_fst (s : Sys) (ev : Event) (pc : ValidationsPc) :
    ∃ inbox, (validationsStep s ev pc).1 = { s with inbox := inbox } := by
  cases pc <;> exact ⟨_, rfl⟩

theorem taskStep_fst (s : Sys) (k : TaskType) (r : Request) (ev : Event) (pc : TaskPc) :
    ∃ state, (taskStep s k r ev pc).1 = { s with state := state } := by
  cases pc
  case body => refine ⟨s.state, ?_⟩; simp only [taskStep]; split <;> rfl
  all_goals exact ⟨_, rfl⟩

theorem pipelineStep_fst (s : Sys) (ev : Event) (pc : PipelinePc) :
    ∃ state inbox, (pipelineStep s ev pc).1 = { s with state := state, inbox := inbox } := by
  cases pc with
  | loop => exact ⟨_, _, rfl⟩
  | get => simp only [pipelineStep]; split <;> exact ⟨_, _, rfl⟩
  | task k r pc =>
    obtain ⟨st, h⟩ := taskStep_fst s k r ev pc
    exact ⟨st, s.inbox, h⟩

/-- A started thread writes none of `main`, `threads`, `channel` and `opened`. -/
theorem threadStep_fst (cfg : Cfg) (s : Sys) (ev : Event) (t : Thread) :
    ∃ attached missed closes state inbox hbLog, (threadStep cfg s ev t).1 =
      { s with attached := attached, missed := missed, closes := closes, state := state,
               inbox := inbox, hbLog := hbLog } := by
  cases t with
  | heartbeat pc =>
    obtain ⟨_, _, _, _, h⟩ := heartbeatStep_fst cfg s ev pc
    exact ⟨_, _, _, _, _, _, h⟩
  | updates pc => obtain ⟨_, h⟩ := updatesStep_fst s ev pc; exact ⟨_, _, _, _, _, _, h⟩
  | validations pc => obtain ⟨_, h⟩ := validationsStep_fst s ev pc; exact ⟨_, _, _, _, _, _, h⟩
  | pipeline pc => obtain ⟨_, _, h⟩ := pipelineStep_fst s ev pc; exact ⟨_, _, _, _, _, _, h⟩
  | done => exact ⟨_, _, _, _, _, _, rfl⟩

/-- A heartbeat worker is one until it returns. -/
theorem heartbeatStep_snd (cfg : Cfg) (s : Sys) (ev : Event) (pc : HbPc) :
    (heartbeatStep cfg s ev pc).2 = .done ∨ ∃ pc', (heartbeatStep cfg s ev pc).2 = .heartbeat pc' := by
  cases pc
  case sleep => by_cases ha : s.attached = true <;> simp [heartbeatStep, ha]
  all_goals exact .inr ⟨_, rfl⟩

/-- So is a listener. -/
theorem updatesStep_snd (s : Sys) (ev : Event) (pc : UpdatesPc) :
    (updatesStep s ev pc).2 = .done ∨ ∃ pc', (updatesStep s ev pc).2 = .updates pc' := by
  cases pc
  case inner | check => by_cases ha : s.attached = true <;> simp [updatesStep, ha]
  all_goals exact .inr ⟨_, rfl⟩

theorem validationsStep_snd (s : Sys) (ev : Event) (pc : ValidationsPc) :
    (validationsStep s ev pc).2 = .done ∨ ∃ pc', (validationsStep s ev pc).2 = .validations pc' := by
  cases pc
  case check => by_cases ha : s.attached = true <;> simp [validationsStep, ha]
  all_goals exact .inr ⟨_, rfl⟩

/-- So is a pipeline. -/
theorem pipelineStep_snd (s : Sys) (ev : Event) (pc : PipelinePc) :
    (pipelineStep s ev pc).2 = .done ∨ ∃ pc', (pipelineStep s ev pc).2 = .pipeline pc' := by
  rcases pc with _ | _ | ⟨k, r, pc⟩
  · by_cases ha : s.attached = true <;> simp [pipelineStep, ha]
  · simp only [pipelineStep]; split <;> exact .inr ⟨_, rfl⟩
  · cases pc <;> simp only [pipelineStep, taskStep] <;> (try split) <;> simp

@[simp] theorem threadStep_threads (ev : Event) (t : Thread) :
    (threadStep cfg s ev t).1.threads = s.threads := by
  obtain ⟨_, _, _, _, _, _, h⟩ := threadStep_fst cfg s ev t
  rw [h]

@[simp] theorem threadStep_main (ev : Event) (t : Thread) :
    (threadStep cfg s ev t).1.main = s.main := by
  obtain ⟨_, _, _, _, _, _, h⟩ := threadStep_fst cfg s ev t
  rw [h]

theorem step_thread {i : Nat} {t : Thread} (ev : Event) (h : s.threads[i]? = some t) :
    step cfg s (.thread i ev) =
      { (threadStep cfg s ev t).1 with threads := s.threads.set i (threadStep cfg s ev t).2 } := by
  simp only [step, h, threadStep_threads]

theorem step_thread_none {i : Nat} (ev : Event) (h : s.threads[i]? = none) :
    step cfg s (.thread i ev) = s := by
  simp only [step, h]

/-- After a step of thread `i`, the thread at `j` is the stepped one if `j = i` and the
one that was there otherwise. -/
theorem threads_step_thread {i j : Nat} {t₀ t : Thread} (ev : Event) (hi : s.threads[i]? = some t₀)
    (hj : (step cfg s (.thread i ev)).threads[j]? = some t) :
    (j = i ∧ t = (threadStep cfg s ev t₀).2) ∨ (j ≠ i ∧ s.threads[j]? = some t) := by
  rw [step_thread ev hi, List.getElem?_set] at hj
  by_cases hij : i = j
  · subst hij
    simp only [(List.getElem?_eq_some_iff.mp hi).1, if_true, Option.some.injEq] at hj
    exact .inl ⟨rfl, hj.symm⟩
  · simp only [hij, if_false] at hj
    exact .inr ⟨Ne.symm hij, hj⟩

/-- The thread a statement of the main thread starts. -/
def MainPc.started (cfg : Cfg) : MainPc → Option Thread
  | .spawnHeartbeat _ => some (.heartbeat .send)
  | .spawnUpdates _ => if cfg.trainer then some (.updates .recv) else none
  | .spawnValidations _ => if cfg.validator then some (.validations .recv) else none
  | .spawnPipeline _ => some (.pipeline .loop)
  | _ => none

theorem mainStep_threads (cfg : Cfg) (s : Sys) (ev : Event) (pc : MainPc) :
    (mainStep cfg s ev pc).threads = s.threads ++ (pc.started cfg).toList := by
  cases pc <;> simp only [mainStep, MainPc.started, Option.toList, List.append_nil]
  case connect => split <;> rfl
  case spawnUpdates => split <;> simp
  case spawnValidations => split <;> simp

/-- A step of the main thread keeps every thread where it was. -/
theorem threads_step_main_of {j : Nat} {t : Thread} (ev : Event) (hj : s.threads[j]? = some t) :
    (step cfg s (.main ev)).threads[j]? = some t := by
  rw [step_main, mainStep_threads, List.getElem?_append_left (List.getElem?_eq_some_iff.mp hj).1]
  exact hj

/-- After a step of the main thread, the thread at `j` is the one that was there, or the
one the step started. -/
theorem threads_step_main {j : Nat} {t : Thread} (ev : Event)
    (hj : (step cfg s (.main ev)).threads[j]? = some t) :
    s.threads[j]? = some t ∨ (j = s.threads.length ∧ s.main.started cfg = some t) := by
  rw [step_main, mainStep_threads, List.getElem?_append] at hj
  split at hj
  · exact .inl hj
  · cases h : s.main.started cfg with
    | none => simp [h] at hj
    | some t' =>
      simp only [h, Option.toList] at hj
      have hlen : j - s.threads.length = 0 := by
        have := (List.getElem?_eq_some_iff.mp hj).1
        simp at this; omega
      rw [hlen] at hj
      simp at hj
      exact .inr ⟨by omega, hj ▸ rfl⟩

/-- Every run from a reachable state stays reachable when each of its steps is allowed
where it is taken. -/
def allowedAlong (cfg : Cfg) (ok : Sys → Label → Bool) (s : Sys) : List Label → Bool
  | [] => true
  | l :: ls => ok s l && allowedAlong cfg ok (step cfg s l) ls

theorem Reachable.run {ok : Sys → Label → Bool} (h : Reachable cfg (fun s l => ok s l) s) :
    ∀ ls, allowedAlong cfg ok s ls = true → Reachable cfg (fun s l => ok s l) (run cfg s ls) := by
  intro ls
  induction ls generalizing s with
  | nil => intro _; exact h
  | cons l ls ih =>
    intro hl
    simp only [allowedAlong, Bool.and_eq_true] at hl
    exact ih (.step l h hl.1) hl.2

end Fedn
