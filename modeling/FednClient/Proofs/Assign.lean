import FednClient.Spec.Assign

/-! How `_assign` ends. The first answer that is `Assigned`, `UnAuthorized` or
`UnMatchedConfig` decides: the loop returns the response of an `Assigned` one and exits
with the message naming a fatal one, and every answer before it is followed by one
five-second sleep and the next `assign()` call. With no such answer it never stops. -/

namespace Fedn

variable {α : Type}

/-- The answers that end `_assign`. -/
def Connect.Status.decides : Connect.Status → Bool
  | .TryAgain | .other => false
  | .Assigned | .UnAuthorized | .UnMatchedConfig => true

/-! ### One pass -/

theorem assignBody_of_undecided {answer : Connect.Status × α} (h : answer.1.decides = false) :
    assignBody answer = ([.sleep 5], none) := by
  rcases answer with ⟨_ | _ | _ | _ | _, _⟩ <;> first | rfl | cases h

theorem assignBody_of_decides {answer : Connect.Status × α} (h : answer.1.decides = true) :
    ∃ e, assignBody answer = ([], some e) := by
  rcases answer with ⟨_ | _ | _ | _ | _, _⟩ <;> first | exact ⟨_, rfl⟩ | cases h

/-- A pass ends the loop exactly on a deciding answer. -/
theorem assignBody_isSome (answer : Connect.Status × α) :
    (assignBody answer).2.isSome = answer.1.decides := by
  rcases answer with ⟨_ | _ | _ | _ | _, _⟩ <;> rfl

theorem assignBody_returned (answer : Connect.Status × α) (r : α) :
    (assignBody answer).2 = some (.returned r) ↔ answer = (.Assigned, r) := by
  rcases answer with ⟨_ | _ | _ | _ | _, a⟩ <;> simp [assignBody]

theorem assignBody_exit (answer : Connect.Status × α) (msg : String) :
    (assignBody answer).2 = some (.exit msg) ↔
      answer.1 = .UnAuthorized ∧ msg = "Exiting: Unauthorized" ∨
        answer.1 = .UnMatchedConfig ∧ msg = "Exiting: UnMatchedConfig" := by
  rcases answer with ⟨_ | _ | _ | _ | _, a⟩ <;> simp [assignBody, eq_comm]

/-! ### Runs of the loop -/

/-- `k` passes on answers that decide nothing: a call and a sleep each. -/
theorem assignLoop_undecided (answers : Nat → Connect.Status × α) (fuel : Nat) :
    ∀ (k n : Nat), (∀ j < k, (answers (n + j)).1.decides = false) →
      assignLoop answers (k + fuel) n =
        ((List.replicate k [.assign, .sleep 5]).flatten ++ (assignLoop answers fuel (n + k)).1,
          (assignLoop answers fuel (n + k)).2)
  | 0, n, _ => by simp
  | k + 1, n, h => by
    have h0 : assignBody (answers n) = ([.sleep 5], none) := assignBody_of_undecided (by simpa using h 0)
    have ih := assignLoop_undecided answers fuel k (n + 1) fun j hj => by
      simpa [Nat.add_assoc, Nat.add_comm 1] using h (j + 1) (by omega)
    rw [Nat.add_right_comm, assignLoop, h0]
    simp [ih, List.replicate_succ, Nat.add_assoc, Nat.add_comm 1]

/-- A loop that has ended stopped at a deciding answer after undecided ones. -/
theorem assignLoop_exit (answers : Nat → Connect.Status × α) :
    ∀ (fuel n : Nat) (e : AssignExit α), (assignLoop answers fuel n).2 = some e →
      ∃ m, n ≤ m ∧ (∀ j, n ≤ j → j < m → (answers j).1.decides = false) ∧
        (assignBody (answers m)).2 = some e
  | 0, _, _, h => by cases h
  | fuel + 1, n, e, h => by
    rcases hb : assignBody (answers n) with ⟨evs, _ | e'⟩ <;> rw [assignLoop, hb] at h
    · obtain ⟨m, hm, hpre, he⟩ := assignLoop_exit answers fuel (n + 1) e h
      have hn : (answers n).1.decides = false := by rw [← assignBody_isSome, hb]; rfl
      refine ⟨m, by omega, fun j hj hjm => ?_, he⟩
      rcases Nat.eq_or_lt_of_le hj with rfl | hj
      · exact hn
      · exact hpre j hj hjm
    · exact ⟨n, le_rfl, fun j hj hjm => absurd hjm (by omega), by rw [hb]; exact h⟩

/-- With a first deciding answer `n`, every run of more than `n` passes makes `n` calls
each followed by a sleep, then the deciding call, and ends as that answer says. -/
theorem assign_of_first_deciding {answers : Nat → Connect.Status × α} {n : Nat}
    (hn : (answers n).1.decides = true) (hpre : ∀ m < n, (answers m).1.decides = false)
    {fuel : Nat} (hfuel : n < fuel) :
    assign answers fuel =
      ((List.replicate n [.assign, .sleep 5]).flatten ++ [.assign], (assignBody (answers n)).2) := by
  obtain ⟨e, he⟩ := assignBody_of_decides hn
  obtain ⟨f, rfl⟩ : ∃ f, fuel = n + (f + 1) := ⟨fuel - n - 1, by omega⟩
  rw [assign, assignLoop_undecided answers (f + 1) n 0 (by simpa using hpre)]
  simp [assignLoop, he]

/-- With no deciding answer among the first `fuel`, the loop is still running after
`fuel` passes, each a call and a sleep. -/
theorem assign_of_undecided {answers : Nat → Connect.Status × α} {fuel : Nat}
    (h : ∀ m < fuel, (answers m).1.decides = false) :
    assign answers fuel = ((List.replicate fuel [.assign, .sleep 5]).flatten, none) := by
  simpa [assign, assignLoop] using assignLoop_undecided answers 0 fuel 0 (by simpa using h)

/-- `_assign` returns the response of an `Assigned` answer exactly when no answer before
it decides, and exits with the message naming `UnAuthorized` or `UnMatchedConfig` exactly
when that answer comes before any other deciding one. Every answer before the deciding
one is followed by one five-second sleep and the next call; with no deciding answer the
loop goes on calling and sleeping. -/
theorem assign_first_deciding (answers : Nat → Connect.Status × α) :
    (∀ r, (∃ fuel, (assign answers fuel).2 = some (.returned r)) ↔
      ∃ n, answers n = (.Assigned, r) ∧ ∀ m < n, (answers m).1.decides = false) ∧
    (∀ msg, (∃ fuel, (assign answers fuel).2 = some (.exit msg)) ↔
      ∃ n, ((answers n).1 = .UnAuthorized ∧ msg = "Exiting: Unauthorized" ∨
            (answers n).1 = .UnMatchedConfig ∧ msg = "Exiting: UnMatchedConfig") ∧
        ∀ m < n, (answers m).1.decides = false) ∧
    (∀ n, (answers n).1.decides = true → (∀ m < n, (answers m).1.decides = false) →
      ∀ fuel, n < fuel →
        (assign answers fuel).1 = (List.replicate n [.assign, .sleep 5]).flatten ++ [.assign]) ∧
    (∀ fuel, (∀ m < fuel, (answers m).1.decides = false) →
      assign answers fuel = ((List.replicate fuel [.assign, .sleep 5]).flatten, none)) := by
  -- a run that ended stopped at the first deciding answer, and enough fuel reaches it
  have ended : ∀ e, (∃ fuel, (assign answers fuel).2 = some e) ↔
      ∃ n, (assignBody (answers n)).2 = some e ∧ ∀ m < n, (answers m).1.decides = false := by
    intro e
    constructor
    · rintro ⟨fuel, h⟩
      obtain ⟨m, -, hpre, he⟩ := assignLoop_exit answers fuel 0 e h
      exact ⟨m, he, fun j hj => hpre j (Nat.zero_le j) hj⟩
    · rintro ⟨n, he, hpre⟩
      have hn : (answers n).1.decides = true := by rw [← assignBody_isSome, he]; rfl
      exact ⟨n + 1, by rw [assign_of_first_deciding hn hpre (Nat.lt_succ_self n), he]⟩
  refine ⟨fun r => ?_, fun msg => ?_, fun n hn hpre fuel hf => ?_, fun fuel h => assign_of_undecided h⟩
  · simp only [ended, assignBody_returned]
  · simp only [ended, assignBody_exit]
  · rw [assign_of_first_deciding hn hpre hf]

end Fedn
