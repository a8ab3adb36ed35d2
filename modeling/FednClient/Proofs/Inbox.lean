import FednClient.Sanity.Worker
import FednClient.Spec.Heard

/-! The request listeners and `inbox`. On every interleaving each listener puts, once
and in order, the requests that pass its sender test and whose status call returned, and
`inbox` hands them on first in, first out. The sender test is
`request.sender.role == fedn.COMBINER` on the update stream and there is none on the
validation stream, so a worker's validation request is put; and both listeners call
`_send_status` before `inbox.put` in one `try`, so a failed status call is caught as a
stream error and its request is dropped. -/

namespace Fedn

/-! ### On every interleaving -/

/-- The envelopes of the status calls that returned, in order. -/
def accepted (l : List (Envelope × Bool)) : List Envelope := (l.filter (·.2)).map (·.1)

/-- The requests a listener makes a status call for: the update listener's test
`request.sender.role == fedn.COMBINER`; the validation listener makes none. -/
def Envelope.selected : Envelope → Bool
  | (.train, r) => r.sender.role == .COMBINER
  | (.validate, _) => true

/-- The envelope a listener is about to put. -/
def Thread.pendingPut : Thread → List Envelope
  | .updates (.put r) => [(.train, r)]
  | .validations (.put r) => [(.validate, r)]
  | _ => []

/-- The envelope of a selected request a listener has received and not yet made its
status call for. -/
def Thread.pendingStatus : Thread → List Envelope
  | .updates (.role r) => if r.sender.role = .COMBINER then [(.train, r)] else []
  | .updates (.status r) => [(.train, r)]
  | .validations (.status r) => [(.validate, r)]
  | _ => []

def Sys.pendingPut (s : Sys) (i : Nat) : List Envelope :=
  (s.threads[i]?.map Thread.pendingPut).getD []

def Sys.pendingStatus (s : Sys) (i : Nat) : List Envelope :=
  (s.threads[i]?.map Thread.pendingStatus).getD []

def Heard.receivedBy (h : Heard) (i : Nat) : List Envelope :=
  (h.received.filter (·.1 = i)).map (·.2)

def Heard.answeredBy (h : Heard) (i : Nat) : List (Envelope × Bool) :=
  (h.answered.filter (·.1 = i)).map (·.2)

def Heard.putBy (h : Heard) (i : Nat) : List Envelope :=
  (h.put.filter (·.1 = i)).map (·.2)

/-- The logs of the run `ls` from the constructor's start. -/
def heard (cfg : Cfg) (ls : List Label) : Heard := (runObserved cfg (Sys.init, Heard.empty) ls).2

theorem runObserved_fst (cfg : Cfg) (ls : List Label) :
    ∀ x : Sys × Heard, (runObserved cfg x ls).1 = run cfg x.1 ls := by
  induction ls with
  | nil => intro _; rfl
  | cons l ls ih => intro x; exact ih (observe cfg x l)

@[simp] theorem accepted_append (l l' : List (Envelope × Bool)) :
    accepted (l ++ l') = accepted l ++ accepted l' := by
  simp [accepted]

/-! What a note of thread `j` adds to the logs of thread `i`. -/

section Note

variable (h : Heard) (j i : Nat) (x : Seen)

@[simp] theorem Heard.note_receivedBy :
    (h.note j x).receivedBy i = h.receivedBy i ++ if j = i then x.received else [] := by
  by_cases hji : j = i <;> simp [Heard.note, Heard.receivedBy, List.filter_map, Function.comp_def, hji]

@[simp] theorem Heard.note_answeredBy :
    (h.note j x).answeredBy i = h.answeredBy i ++ if j = i then x.answered else [] := by
  by_cases hji : j = i <;> simp [Heard.note, Heard.answeredBy, List.filter_map, Function.comp_def, hji]

@[simp] theorem Heard.note_putBy :
    (h.note j x).putBy i = h.putBy i ++ if j = i then x.put else [] := by
  by_cases hji : j = i <;> simp [Heard.note, Heard.putBy, List.filter_map, Function.comp_def, hji]

end Note

/-! What one step of a thread shows, against what it holds before and after. -/

/-- A listener puts what its returned status call accepted, one step later. -/
theorem seen_put (cfg : Cfg) (s : Sys) (ev : Event) (t : Thread) :
    (t.seen s ev).put ++ (threadStep cfg s ev t).2.pendingPut =
      t.pendingPut ++ accepted (t.seen s ev).answered := by
  rcases t with pc | pc | pc | pc | _
  · rcases heartbeatStep_snd cfg s ev pc with e | ⟨_, e⟩ <;>
      simp [threadStep, e, Thread.seen, Thread.pendingPut, accepted]
  · cases pc with
    | recv => cases ev <;> simp [threadStep, updatesStep, Thread.seen, Thread.pendingPut, accepted]
    | role r =>
      by_cases hr : r.sender.role = .COMBINER <;>
        simp [threadStep, updatesStep, hr, Thread.seen, Thread.pendingPut, accepted]
    | status r =>
      by_cases hf : ev = .fail <;>
        simp [threadStep, updatesStep, hf, Thread.seen, Thread.pendingPut, accepted]
    | put r => simp [threadStep, updatesStep, Thread.seen, Thread.pendingPut, accepted]
    | inner | check =>
      by_cases ha : s.attached = true <;>
        simp [threadStep, updatesStep, ha, Thread.seen, Thread.pendingPut, accepted]
  · cases pc with
    | recv => cases ev <;> simp [threadStep, validationsStep, Thread.seen, Thread.pendingPut, accepted]
    | status r =>
      by_cases hf : ev = .fail <;>
        simp [threadStep, validationsStep, hf, Thread.seen, Thread.pendingPut, accepted]
    | put r => simp [threadStep, validationsStep, Thread.seen, Thread.pendingPut, accepted]
    | check =>
      by_cases ha : s.attached = true <;>
        simp [threadStep, validationsStep, ha, Thread.seen, Thread.pendingPut, accepted]
  · rcases pipelineStep_snd s ev pc with e | ⟨_, e⟩ <;> cases pc <;>
      simp [threadStep, e, Thread.seen, Thread.pendingPut, accepted]
  · rfl

/-- A listener makes one status call for each selected request it receives, in order. -/
theorem seen_status (cfg : Cfg) (s : Sys) (ev : Event) (t : Thread) :
    t.pendingStatus ++ (t.seen s ev).received.filter Envelope.selected =
      (t.seen s ev).answered.map (·.1) ++ (threadStep cfg s ev t).2.pendingStatus := by
  rcases t with pc | pc | pc | pc | _
  · rcases heartbeatStep_snd cfg s ev pc with e | ⟨_, e⟩ <;>
      simp [threadStep, e, Thread.seen, Thread.pendingStatus]
  · cases pc with
    | recv =>
      cases ev
      case deliver r =>
        by_cases hr : r.sender.role = .COMBINER <;>
          simp [threadStep, updatesStep, hr, Thread.seen, Thread.pendingStatus, Envelope.selected]
      all_goals simp [threadStep, updatesStep, Thread.seen, Thread.pendingStatus]
    | role r =>
      by_cases hr : r.sender.role = .COMBINER <;>
        simp [threadStep, updatesStep, hr, Thread.seen, Thread.pendingStatus]
    | status r =>
      by_cases hf : ev = .fail <;>
        simp [threadStep, updatesStep, hf, Thread.seen, Thread.pendingStatus]
    | put r => simp [threadStep, updatesStep, Thread.seen, Thread.pendingStatus]
    | inner | check =>
      by_cases ha : s.attached = true <;>
        simp [threadStep, updatesStep, ha, Thread.seen, Thread.pendingStatus]
  · cases pc with
    | recv =>
      cases ev <;>
        simp [threadStep, validationsStep, Thread.seen, Thread.pendingStatus, Envelope.selected]
    | status r =>
      by_cases hf : ev = .fail <;>
        simp [threadStep, validationsStep, hf, Thread.seen, Thread.pendingStatus]
    | put r => simp [threadStep, validationsStep, Thread.seen, Thread.pendingStatus]
    | check =>
      by_cases ha : s.attached = true <;>
        simp [threadStep, validationsStep, ha, Thread.seen, Thread.pendingStatus]
  · rcases pipelineStep_snd s ev pc with e | ⟨_, e⟩ <;> cases pc <;>
      simp [threadStep, e, Thread.seen, Thread.pendingStatus]
  · rfl

/-- `inbox.put` appends what it shows, `inbox.get` removes what it shows, and nothing else
touches `inbox`. -/
theorem seen_taken (cfg : Cfg) (s : Sys) (ev : Event) (t : Thread) :
    (t.seen s ev).taken ++ (threadStep cfg s ev t).1.inbox = s.inbox ++ (t.seen s ev).put := by
  rcases t with pc | pc | pc | pc | _
  · obtain ⟨_, _, _, _, e⟩ := heartbeatStep_fst cfg s ev pc
    simp [threadStep, e, Thread.seen]
  · cases pc <;> (try cases ev) <;> simp [threadStep, updatesStep, Thread.seen]
  · cases pc <;> (try cases ev) <;> simp [threadStep, validationsStep, Thread.seen]
  · rcases pc with _ | _ | ⟨k, r, pc⟩
    · simp [threadStep, pipelineStep, Thread.seen]
    · rcases hin : s.inbox with _ | ⟨⟨k, r⟩, rest⟩ <;> simp [threadStep, pipelineStep, Thread.seen, hin]
    · obtain ⟨_, e⟩ := taskStep_fst s k r ev pc
      simp [threadStep, pipelineStep, e, Thread.seen]
  · simp [threadStep, Thread.seen]

/-! What a step does to the threads' pending envelopes. -/

section Pending

variable {cfg : Cfg} {s : Sys} (f : Thread → List Envelope)

/-- The threads the main thread starts hold nothing, so its steps keep what each index
holds. -/
theorem getD_step_main (ev : Event) (hf : ∀ t, s.main.started cfg = some t → f t = []) (i : Nat) :
    ((step cfg s (.main ev)).threads[i]?.map f).getD [] = (s.threads[i]?.map f).getD [] := by
  cases hi : s.threads[i]? with
  | some t => rw [threads_step_main_of ev hi]
  | none =>
    cases hi' : (step cfg s (.main ev)).threads[i]? with
    | none => rfl
    | some t =>
      rcases threads_step_main ev hi' with h | ⟨-, h⟩
      · simp [hi] at h
      · simp [hf t h]

theorem getD_step_thread {j : Nat} {t : Thread} (ev : Event) (hj : s.threads[j]? = some t) (i : Nat) :
    ((step cfg s (.thread j ev)).threads[i]?.map f).getD [] =
      if j = i then f (threadStep cfg s ev t).2 else (s.threads[i]?.map f).getD [] := by
  rw [step_thread ev hj, List.getElem?_set]
  by_cases hji : j = i
  · subst hji
    simp [(List.getElem?_eq_some_iff.mp hj).1]
  · simp [hji]

end Pending

theorem MainPc.started_pending {cfg : Cfg} {pc : MainPc} {t : Thread} (h : pc.started cfg = some t) :
    t.pendingPut = [] ∧ t.pendingStatus = [] := by
  cases pc <;> simp only [MainPc.started] at h <;> (try split at h) <;> cases h <;>
    simp [Thread.pendingPut, Thread.pendingStatus]

/-! ### The logs against the state -/

/-- What holds of the logs after every run. -/
structure HeardInv (s : Sys) (h : Heard) : Prop where
  /-- `inbox` hands on what was put, in order. -/
  fifo : h.taken ++ s.inbox = h.put.map (·.2)
  /-- Each listener puts what its returned status calls accepted. -/
  puts : ∀ i, h.putBy i ++ s.pendingPut i = accepted (h.answeredBy i)
  /-- Each listener makes a status call for each selected request it received. -/
  calls : ∀ i, (h.receivedBy i).filter Envelope.selected =
    (h.answeredBy i).map (·.1) ++ s.pendingStatus i

theorem heardInv_init : HeardInv Sys.init Heard.empty where
  fifo := rfl
  puts := fun _ => rfl
  calls := fun _ => rfl

theorem heardInv_step {cfg : Cfg} {s : Sys} {h : Heard} (hinv : HeardInv s h) (l : Label) :
    HeardInv (step cfg s l) (h.record s l) := by
  cases l with
  | main ev =>
    refine ⟨?_, fun i => ?_, fun i => ?_⟩
    · rw [step_main, mainStep_inbox]; exact hinv.fifo
    · rw [Sys.pendingPut, getD_step_main _ ev (fun t ht => (MainPc.started_pending ht).1)]
      exact hinv.puts i
    · rw [Sys.pendingStatus, getD_step_main _ ev (fun t ht => (MainPc.started_pending ht).2)]
      exact hinv.calls i
  | thread j ev =>
    cases hj : s.threads[j]? with
    | none => simpa [Heard.record, hj, step_thread_none ev hj] using hinv
    | some t =>
      simp only [Heard.record, hj]
      refine ⟨?_, fun i => ?_, fun i => ?_⟩
      · have e := seen_taken cfg s ev t
        rw [step_thread ev hj]
        simp only [Heard.note, List.map_append, List.map_map, List.append_assoc]
        rw [e, ← List.append_assoc, hinv.fifo]
        simp [Function.comp_def]
      · rw [Sys.pendingPut, getD_step_thread _ ev hj]
        by_cases hji : j = i
        · subst hji
          have hp := hinv.puts j
          simp only [Sys.pendingPut, hj, Option.map_some', Option.getD_some] at hp
          simp only [Heard.note_putBy, Heard.note_answeredBy, if_true, accepted_append, List.append_assoc,
            seen_put, ← hp]
        · simpa [hji] using hinv.puts i
      · rw [Sys.pendingStatus, getD_step_thread _ ev hj]
        by_cases hji : j = i
        · subst hji
          have hc := hinv.calls j
          simp only [Sys.pendingStatus, hj, Option.map_some', Option.getD_some] at hc
          simp only [Heard.note_receivedBy, Heard.note_answeredBy, if_true, List.filter_append,
            List.map_append, List.append_assoc, hc]
          rw [seen_status cfg]
        · simpa [hji] using hinv.calls i

theorem heardInv_runObserved (cfg : Cfg) (ls : List Label) :
    ∀ x : Sys × Heard, HeardInv x.1 x.2 → HeardInv (runObserved cfg x ls).1 (runObserved cfg x ls).2 := by
  induction ls with
  | nil => intro _ h; exact h
  | cons l ls ih => intro x h; exact ih (observe cfg x l) (heardInv_step h l)

theorem heardInv_run (cfg : Cfg) (ls : List Label) : HeardInv (run cfg Sys.init ls) (heard cfg ls) := by
  have := heardInv_runObserved cfg ls (Sys.init, Heard.empty) heardInv_init
  rwa [runObserved_fst] at this

/-! ### What the listeners put -/

/-- On every interleaving, each listener's `inbox.put`s, followed by the one it is about
to make, are the envelopes of its status calls that returned, in order; and the requests
it has received that pass its sender test are those it has made status calls for, in
order, followed by the one whose call it is about to make. So no request is put twice or
out of order, and one that passes the test is dropped only where its status call
raised. -/
theorem listener_puts_answered (cfg : Cfg) (ls : List Label) (i : Nat) :
    (heard cfg ls).putBy i ++ (run cfg Sys.init ls).pendingPut i =
      accepted ((heard cfg ls).answeredBy i) ∧
    ((heard cfg ls).receivedBy i).filter Envelope.selected =
      ((heard cfg ls).answeredBy i).map (·.1) ++ (run cfg Sys.init ls).pendingStatus i :=
  ⟨(heardInv_run cfg ls).puts i, (heardInv_run cfg ls).calls i⟩

/-- `inbox` is first in, first out on every interleaving: what `inbox.get` has returned,
followed by what is still queued, is what the listeners put, in order. -/
theorem inbox_fifo (cfg : Cfg) (ls : List Label) :
    (heard cfg ls).taken ++ (run cfg Sys.init ls).inbox = (heard cfg ls).put.map (·.2) :=
  (heardInv_run cfg ls).fifo

theorem accepted_of_returned {l : List (Envelope × Bool)} (h : ∀ a ∈ l, a.2 = true) :
    accepted l = l.map (·.1) := by
  rw [accepted, List.filter_eq_self.mpr h]

/-- A worker with the update listener only. -/
def trainerCfg : Cfg := ⟨true, false, 3⟩

/-- A validation request from another worker. -/
def peerRequest : Request := ⟨⟨"client2", .WORKER⟩, "m1", "", "c1", false⟩

/-- An update request from the combiner. -/
def roundRequest : Request := ⟨⟨"combiner", .COMBINER⟩, "m2", "", "c2", false⟩

/-- The update listener receives `roundRequest` and puts it, then receives `peerRequest`,
which its sender test drops, and waits for the next request. -/
def listenTrace : List Label :=
  List.replicate 10 (.main .ok) ++
  [.thread 1 (.deliver roundRequest), .thread 1 .ok, .thread 1 .ok, .thread 1 .ok, .thread 1 .ok,
   .thread 1 (.deliver peerRequest), .thread 1 .ok, .thread 1 .ok]

/-- A listener all of whose status calls returned, and which holds no request, has put
exactly the requests it received that pass its sender test, in order, each once. -/
theorem listener_puts_selected (cfg : Cfg) (ls : List Label) (i : Nat)
    (hok : ∀ a ∈ (heard cfg ls).answeredBy i, a.2 = true)
    (hput : (run cfg Sys.init ls).pendingPut i = [])
    (hstatus : (run cfg Sys.init ls).pendingStatus i = []) :
    (heard cfg ls).putBy i = ((heard cfg ls).receivedBy i).filter Envelope.selected := by
  have hinv := heardInv_run cfg ls
  calc (heard cfg ls).putBy i
      = accepted ((heard cfg ls).answeredBy i) := by simpa [hput] using hinv.puts i
    _ = ((heard cfg ls).answeredBy i).map (·.1) := accepted_of_returned hok
    _ = ((heard cfg ls).receivedBy i).filter Envelope.selected := by simp [hinv.calls i, hstatus]

/-- The theorem at the end of that run: the listener has put only the combiner's request. -/
theorem listener_puts_selected_listenTrace :
    (heard trainerCfg listenTrace).putBy 1 = [(.train, roundRequest)] ∧
    (heard trainerCfg listenTrace).putBy 1 =
      ((heard trainerCfg listenTrace).receivedBy 1).filter Envelope.selected :=
  ⟨by decide, listener_puts_selected trainerCfg listenTrace 1 (by decide) (by decide) (by decide)⟩

/-! ### Where the listeners differ from the spec -/

/-- A worker with the validation listener only. -/
def validatorCfg : Cfg := ⟨false, true, 3⟩

/-- The constructor, then the validation listener receives `peerRequest`, sends its
status and puts it. -/
def peerTrace : List Label :=
  List.replicate 10 (.main .ok) ++ [.thread 1 (.deliver peerRequest), .thread 1 .ok, .thread 1 .ok]

/-- The constructor, then the update listener receives `roundRequest`, checks its sender,
fails to send its status, and goes back to the stream. -/
def dropTrace : List Label :=
  List.replicate 10 (.main .ok) ++
  [.thread 1 (.deliver roundRequest), .thread 1 .ok, .thread 1 .fail, .thread 1 .ok]

/-- While attached, the validation listener puts the request of a worker, and the update
listener drops the combiner's request whose status call failed and waits for the next
one. -/
theorem listeners_enqueue_peer_drop_combiner :
    ((run validatorCfg Sys.init peerTrace).attached = true ∧
      (run validatorCfg Sys.init peerTrace).inbox = [(.validate, peerRequest)]) ∧
    ((run trainerCfg Sys.init dropTrace).attached = true ∧
      (run trainerCfg Sys.init dropTrace).inbox = [] ∧
      (run trainerCfg Sys.init dropTrace).threads[1]? = some (.updates .recv)) := by
  decide

end Fedn
