import FednClient.Sanity.Worker

/-! The heartbeat counter and the channels it closes. A worker's `SendHeartbeat` outcome
decides its next statement: a success resets `_missed_heartbeat` and a failure counts
one more. Nothing else writes the counter, and `_attach` and `_subscribe_to_combiner` do
not reset it, so it counts the failures since the last success across reattachments and
across heartbeat workers, in the order their statements update it. A worker detaches
exactly when that count exceeds the threshold at its check, so right after a
heartbeat-triggered reattach a single failure detaches again.

`_detach` clears `_attached` before `_disconnect` reads `self.channel`, and unlike
`_attach` it does not return when there is nothing to do: its `if not self._attached` only
prints. A supervisor reattach between those two statements makes the stale close hit the
new channel and leaves the old one open. The heartbeat worker that did it then finds
`_attached` true at its sleep and goes on beside the new one, so the next detach closes
the new channel a second time. -/

namespace Fedn

/-- The failures counted since the last counted success, all of them if none. -/
def trailingFailures (log : List Bool) : Nat :=
  log.foldl (fun n ok => if ok then 0 else n + 1) 0

@[simp] theorem trailingFailures_append_true (log : List Bool) :
    trailingFailures (log ++ [true]) = 0 := by
  simp [trailingFailures]

@[simp] theorem trailingFailures_append_false (log : List Bool) :
    trailingFailures (log ++ [false]) = trailingFailures log + 1 := by
  simp [trailingFailures]

/-- A worker with no listeners that detaches at its first failed heartbeat. -/
def chanCfg : Cfg := ⟨false, false, 0⟩

/-- The constructor; a failed heartbeat of worker 0 and its `_detach` up to
`self._attached = False`; the supervisor's reattach, which opens channel 1 and starts
heartbeat worker 2; then worker 0's `_disconnect`. -/
def staleCloseTrace : List Label :=
  List.replicate 10 (.main .ok) ++
  [.thread 0 .fail, .thread 0 .ok, .thread 0 .ok, .thread 0 .ok] ++
  List.replicate 11 (.main .ok) ++ [.thread 0 .ok]

/-- Worker 0 wakes up attached and goes on; worker 2's first heartbeat fails and it
detaches. -/
def secondDetachTrace : List Label :=
  [.thread 0 .ok, .thread 2 .fail, .thread 2 .ok, .thread 2 .ok, .thread 2 .ok, .thread 2 .ok]

/-- After the stale close the worker is attached on channel 1, which is closed, while
channel 0 was never closed; after the second detach channel 1 has been closed twice and
worker 0 is still sending heartbeats. -/
theorem detach_closes_current_channel_twice :
    ((run chanCfg Sys.init staleCloseTrace).attached = true ∧
      (run chanCfg Sys.init staleCloseTrace).channel = some 1 ∧
      (run chanCfg Sys.init staleCloseTrace).opened = 2 ∧
      (run chanCfg Sys.init staleCloseTrace).closes = [1]) ∧
    (run chanCfg Sys.init (staleCloseTrace ++ secondDetachTrace)).threads[0]? =
      some (.heartbeat .send) ∧
    (run chanCfg Sys.init (staleCloseTrace ++ secondDetachTrace)).closes = [1, 1] := by
  decide

end Fedn
