import Mathlib.Data.List.Basic

/-! `_assign`, the loop that asks the discovery service for a combiner. Each pass calls
`self.connector.assign()`, whose answers, in order, are the sequence `answers`; the loop
returns the response of an `Assigned` answer, ends the process with `sys.exit` on a fatal
one, and otherwise sleeps five seconds and asks again. It may never stop, so it is run
for a number of passes. The `print`s are left out. -/

namespace Fedn

namespace Connect

/-- `Status` of `fedn.network.clients.connect` (not under `src/`): the members `_assign`
tests, and `other` for any member it tests for none of (the spec's `TransientError`). -/
inductive Status where
  | Assigned
  | TryAgain
  | UnAuthorized
  | UnMatchedConfig
  | other
  deriving DecidableEq, Repr

end Connect

/-- What `_assign` does that the outside sees, besides printing. -/
inductive AssignEvent where
  /-- `status, response = self.connector.assign()` -/
  | assign
  /-- `time.sleep(seconds)` -/
  | sleep (seconds : Nat)
  deriving DecidableEq, Repr

/-- How `_assign` ends. -/
inductive AssignExit (α : Type) where
  /-- `return client_config` -/
  | returned (clientConfig : α)
  /-- `sys.exit(msg)` -/
  | exit (msg : String)
  deriving DecidableEq, Repr

variable {α : Type}

/-- The body of the `while True` after the `assign()` call, on its answer: the sleeps it
makes, and how it leaves the loop (`none` to go round again). -/
def assignBody (answer : Connect.Status × α) : List AssignEvent × Option (AssignExit α) :=
  match answer.1 with
  | .TryAgain => ([.sleep 5], none)
  | .Assigned => ([], some (.returned answer.2))
  | .UnAuthorized => ([], some (.exit "Exiting: Unauthorized"))
  | .UnMatchedConfig => ([], some (.exit "Exiting: UnMatchedConfig"))
  | .other => ([.sleep 5], none)

/-- At most `fuel` passes of the loop from the answer `n`: what they did, and how the loop
ended (`none` while it is still running). -/
def assignLoop (answers : Nat → Connect.Status × α) :
    Nat → Nat → List AssignEvent × Option (AssignExit α)
  | 0, _ => ([], none)
  | fuel + 1, n =>
    match assignBody (answers n) with
    | (evs, some e) => (.assign :: evs, some e)
    | (evs, none) =>
      (.assign :: evs ++ (assignLoop answers fuel (n + 1)).1, (assignLoop answers fuel (n + 1)).2)

/-- `_assign`, for at most `fuel` passes. -/
def assign (answers : Nat → Connect.Status × α) (fuel : Nat) :
    List AssignEvent × Option (AssignExit α) :=
  assignLoop answers fuel 0

end Fedn
