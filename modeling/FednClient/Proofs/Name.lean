import FednClient.Spec.Name

/-! The names the constructor accepts. The pattern parses to `^`, a repeated set of the
allowed characters, and `$`; since `$` also matches before a final newline, the check
accepts the names made of allowed characters and those names followed by one newline,
and refuses every other name with its `ValueError`. -/

namespace Fedn

open Sre

/-- The characters the `ValueError` message allows: a-z, A-Z, 0-9, `_` and `-`. -/
def nameChar (c : Char) : Bool := c.isAlphanum || c == '_' || c == '-'

/-! ### The matcher -/

/-- A greedy repeat matches when some prefix of the text is made of matching characters
and the rest of the pattern matches after it. -/
theorem repeatHere_eq_true (i : Item) (k : Nat → List Char → Bool) (pos : Nat) (cs : List Char) :
    repeatHere i k pos cs = true ↔
      ∃ n ≤ cs.length, (cs.take n).all (i.matches ·) = true ∧ k (pos + n) (cs.drop n) = true := by
  induction cs generalizing pos with
  | nil => simp [repeatHere]
  | cons c cs ih =>
    constructor
    · simp only [repeatHere, Bool.or_eq_true, Bool.and_eq_true, ih]
      rintro (⟨hc, n, hn, hall, hk⟩ | hk)
      · exact ⟨n + 1, by simpa using hn, by simp [hc, hall], by simpa [Nat.add_right_comm] using hk⟩
      · exact ⟨0, Nat.zero_le _, rfl, hk⟩
    · rintro ⟨_ | n, hn, hall, hk⟩
      · simp only [Nat.add_zero, List.drop_zero] at hk
        simp [repeatHere, hk]
      · simp only [List.take_succ_cons, List.all_cons, Bool.and_eq_true] at hall
        simp only [repeatHere, Bool.or_eq_true, Bool.and_eq_true, ih]
        exact .inl ⟨hall.1, n, by simpa using hn, hall.2, by simpa [Nat.add_right_comm] using hk⟩

/-- A pattern that starts with `^` can only match at the start. -/
theorem search_atBeginning (ps : List Piece) (text : List Char) :
    search (.atBeginning :: ps) text = matchHere ps 0 text := by
  simp [search, List.range_succ_eq_map, matchHere]

theorem sreParse_VALID_NAME_REGEX :
    sreParse VALID_NAME_REGEX = some [.atBeginning,
      .maxRepeat (.inSet [.range 'a' 'z', .range 'A' 'Z', .range '0' '9', .literal '_', .literal '-']),
      .atEnd] := by
  decide

theorem matches_name_set (c : Char) :
    Item.matches c (.inSet [.range 'a' 'z', .range 'A' 'Z', .range '0' '9', .literal '_',
      .literal '-']) = nameChar c := by
  simp only [Item.matches, SetItem.matches, nameChar, Char.isAlphanum, Char.isAlpha, Char.isUpper,
    Char.isLower, Char.isDigit, List.any_cons, List.any_nil, Bool.or_false, Char.le_def, ge_iff_le,
    Bool.or_assoc]
  exact Bool.or_left_comm _ _ _

/-- The texts a prefix of allowed characters followed by the end or by a final newline
covers. -/
theorem prefix_then_end_iff (p : Char → Bool) (cs : List Char) :
    (∃ n ≤ cs.length, (cs.take n).all p = true ∧ (cs.drop n = [] ∨ cs.drop n = ['\n'])) ↔
      cs.all p = true ∨ ∃ w, cs = w ++ ['\n'] ∧ w.all p = true := by
  constructor
  · rintro ⟨n, -, hall, hd | hd⟩
    · rw [List.drop_eq_nil_iff] at hd
      exact .inl (by rwa [List.take_of_length_le hd] at hall)
    · exact .inr ⟨cs.take n, by rw [← hd, List.take_append_drop], hall⟩
  · rintro (hall | ⟨w, rfl, hall⟩)
    · exact ⟨cs.length, le_rfl, by simpa using hall, .inl (List.drop_length cs)⟩
    · exact ⟨w.length, by simp, by simpa using hall, .inr (by simp)⟩

/-- `re.search(VALID_NAME_REGEX, name)` finds a match exactly for the names of allowed
characters, with or without one final newline. -/
theorem search_name_iff (name : List Char) :
    search [.atBeginning,
      .maxRepeat (.inSet [.range 'a' 'z', .range 'A' 'Z', .range '0' '9', .literal '_', .literal '-']),
      .atEnd] name = true ↔
      name.all nameChar = true ∨ ∃ w, name = w ++ ['\n'] ∧ w.all nameChar = true := by
  rw [search_atBeginning, ← prefix_then_end_iff]
  simp only [matchHere, repeatHere_eq_true, matches_name_set, Bool.and_true, Bool.or_eq_true,
    List.isEmpty_iff, beq_iff_eq]

/-! ### The constructor's check -/

/-- The constructor accepts a name exactly when it is made of the allowed characters,
possibly followed by one newline, and refuses every other name with its `ValueError`. -/
theorem validateName_iff (name : String) :
    (validateName name = .ok () ↔
      name.toList.all nameChar = true ∨ ∃ w, name.toList = w ++ ['\n'] ∧ w.all nameChar = true) ∧
    (validateName name ≠ .ok () → validateName name = .error (.valueError nameErrorMessage)) := by
  rw [validateName, sreParse_VALID_NAME_REGEX, ← search_name_iff]
  dsimp only
  split
  · exact ⟨iff_of_true rfl ‹_›, fun h => absurd rfl h⟩
  · exact ⟨iff_of_false Except.noConfusion ‹_›, fun _ => rfl⟩

/-- The name `worker` followed by a newline passes the check, although the newline is
not an allowed character. -/
theorem validateName_accepts_newline :
    validateName "worker\n" = .ok () ∧ '\n' ∈ "worker\n".toList ∧ nameChar '\n' = false :=
  ⟨rfl, by decide, rfl⟩

end Fedn
