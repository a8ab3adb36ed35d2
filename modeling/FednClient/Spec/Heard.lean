import FednClient.Spec.Worker

/-! What the outside sees of a run of the worker: the requests each listener receives
from its stream, the answers to the status calls it makes for them, the envelopes it
puts into `inbox`, and the envelopes `inbox.get` hands to a pipeline. The logs are read
off the state before each step and change nothing in it. -/

namespace Fedn

/-- What one step of a started thread shows: the request a listener receives, as the
envelope it would make of it; the envelope of a status call, and whether the call
returned; the envelope of an `inbox.put`; and the envelope `inbox.get` returns. -/
structure Seen where
  received : List Envelope := []
  answered : List (Envelope × Bool) := []
  put : List Envelope := []
  taken : List Envelope := []

/-- The listeners make `('train', request)` of an update request and
`('validate', request)` of a validation request. -/
def Thread.seen (s : Sys) (ev : Event) : Thread → Seen
  | .updates .recv =>
    match ev with
    | .deliver r => { received := [(.train, r)] }
    | _ => {}
  | .updates (.status r) => { answered := [((.train, r), ev != .fail)] }
  | .updates (.put r) => { put := [(.train, r)] }
  | .validations .recv =>
    match ev with
    | .deliver r => { received := [(.validate, r)] }
    | _ => {}
  | .validations (.status r) => { answered := [((.validate, r), ev != .fail)] }
  | .validations (.put r) => { put := [(.validate, r)] }
  | .pipeline .get => { taken := s.inbox.take 1 }
  | _ => {}

/-- The logs of a run, each entry of a listener tagged with its thread's index. -/
structure Heard where
  received : List (Nat × Envelope)
  answered : List (Nat × Envelope × Bool)
  put : List (Nat × Envelope)
  taken : List Envelope

def Heard.empty : Heard := ⟨[], [], [], []⟩

/-- The logs after thread `i` has shown `x`. -/
def Heard.note (h : Heard) (i : Nat) (x : Seen) : Heard :=
  ⟨h.received ++ x.received.map (i, ·), h.answered ++ x.answered.map (i, ·),
   h.put ++ x.put.map (i, ·), h.taken ++ x.taken⟩

/-- The logs after step `l` from `s`. -/
def Heard.record (h : Heard) (s : Sys) : Label → Heard
  | .main _ => h
  | .thread i ev =>
    match s.threads[i]? with
    | some t => h.note i (t.seen s ev)
    | none => h

/-- A step of the worker, and what it shows. -/
def observe (cfg : Cfg) (x : Sys × Heard) (l : Label) : Sys × Heard :=
  (step cfg x.1 l, x.2.record x.1 l)

def runObserved (cfg : Cfg) (x : Sys × Heard) : List Label → Sys × Heard
  | [] => x
  | l :: ls => runObserved cfg (observe cfg x l) ls

end Fedn
