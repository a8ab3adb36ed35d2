import FednClient.Spec.JsonText

/-! The JSON text reader takes back what the printer writes, so `JsonText` is a lawful
`JsonCodec`. The proof is by induction on the fuel, with a lemma each for numbers,
strings, list items and dict fields. -/

namespace Fedn

namespace JsonText

/-- Nothing after a number may continue it. -/
def Delim (rest : List Char) : Prop := ∀ c ∈ rest.head?, digitVal c = none

theorem digitVal_digitChar : ∀ d < 10, digitVal (digitChar d) = some d := by decide

theorem readDigits_of_delim {rest : List Char} (h : Delim rest) : readDigits rest = ([], rest) := by
  cases rest with
  | nil => rfl
  | cons c t => simp [readDigits, h c rfl]

theorem readDigits_digits (ds : List Nat) (hds : ∀ d ∈ ds, d < 10) {rest : List Char}
    (h : Delim rest) : readDigits (ds.map digitChar ++ rest) = (ds, rest) := by
  induction ds with
  | nil => exact readDigits_of_delim h
  | cons d ds ih =>
    have hd := digitVal_digitChar d (hds d (List.mem_cons_self _ _))
    rw [List.map_cons, List.cons_append, readDigits, hd, ih fun d hd => hds d (List.mem_cons_of_mem _ hd)]

theorem foldl_reverse_ofDigits (l : List Nat) :
    l.reverse.foldl (fun a d => 10 * a + d) 0 = Nat.ofDigits 10 l := by
  rw [List.foldl_reverse]
  induction l with
  | nil => rfl
  | cons d l ih => simp only [List.foldr_cons, ih, Nat.ofDigits_cons]; omega

theorem readNat_natText (m : Nat) {rest : List Char} (h : Delim rest) :
    readNat (natText m ++ rest) = some (m, rest) := by
  by_cases hm : m = 0
  · subst hm
    simp [natText, readNat, readDigits, digitVal, readDigits_of_delim h]
  · have hlt : ∀ d ∈ (Nat.digits 10 m).reverse, d < 10 := fun d hd =>
      Nat.digits_lt_base (by omega) (List.mem_reverse.mp hd)
    have hne : (Nat.digits 10 m).reverse ≠ [] := by simpa using Nat.digits_ne_nil_iff_ne_zero.mpr hm
    simp only [natText, hm, if_false, ← List.map_reverse, readNat, readDigits_digits _ hlt h, hne,
      foldl_reverse_ofDigits, Nat.ofDigits_digits]

theorem readStr_escape (cs : List Char) (rest : List Char) :
    readStr false (escape cs ++ '"' :: rest) = some (cs, rest) := by
  induction cs with
  | nil => simp [escape, readStr]
  | cons c cs ih =>
    by_cases hc : c = '"' ∨ c = '\\'
    · simp [escape, hc, readStr, ih]
    · have h1 : c ≠ '"' := fun h => hc (.inl h)
      have h2 : c ≠ '\\' := fun h => hc (.inr h)
      simp [escape, hc, readStr, h1, h2, ih]

theorem expect_append (lit rest : List Char) : expect lit (lit ++ rest) = some rest := by
  simp [expect, List.isPrefixOf_iff_prefix]

theorem natText_head (m : Nat) : ∃ c t, natText m = c :: t ∧ (digitVal c).isSome := by
  by_cases hm : m = 0
  · exact ⟨'0', [], by simp [natText, hm], rfl⟩
  · simp only [natText, hm, if_false]
    rcases h : ((Nat.digits 10 m).map digitChar).reverse with _ | ⟨c, t⟩
    · simp [Nat.digits_ne_nil_iff_ne_zero.mpr hm] at h
    · have hc : c ∈ (Nat.digits 10 m).map digitChar := List.mem_reverse.mp (h ▸ List.mem_cons_self c t)
      obtain ⟨d, hd, rfl⟩ := List.mem_map.mp hc
      exact ⟨_, t, rfl, by simp [digitVal_digitChar d (Nat.digits_lt_base (by omega) hd)]⟩

theorem length_lt_renderItems (xs : List Json) : xs.length < (renderItems xs).length := by
  induction xs with
  | nil => simp [renderItems]
  | cons x xs ih => simp only [renderItems, List.length_cons, List.length_append]; omega

theorem length_lt_renderFields (kvs : List (String × Json)) :
    kvs.length < (renderFields kvs).length := by
  induction kvs with
  | nil => simp [renderFields]
  | cons kv kvs ih => simp only [renderFields, List.length_cons, List.length_append]; omega

theorem expect_cons (c : Char) (lit rest : List Char) :
    expect (c :: lit) (c :: rest) = expect lit rest := by
  simp [expect]

theorem expect_nil (rest : List Char) : expect [] rest = some rest := by
  simp [expect]

theorem delim_cons {c : Char} (t : List Char) (hc : digitVal c = none) : Delim (c :: t) := by
  simp [Delim, hc]

section Items

variable (read : List Char → Option (Json × List Char)) (n : Nat)
  (hread : ∀ v rest, (render v).length < n → Delim rest → read (render v ++ rest) = some (v, rest))
include hread

theorem readItems_render (rest : List Char) :
    ∀ (xs : List Json) (x : Json) (k : Nat), (render x ++ renderItems xs).length < n →
      xs.length < k → readItems read k (render x ++ renderItems xs ++ rest) = some (x :: xs, rest)
  | [], x, k + 1, hn, _ => by
    simp only [List.length_append] at hn
    simp only [renderItems, readItems, List.append_assoc, List.singleton_append,
      hread x (']' :: rest) (by omega) (delim_cons _ rfl), Option.bind_eq_bind, Option.some_bind]
  | y :: ys, x, k + 1, hn, hk => by
    simp only [List.length_append, renderItems, List.length_cons] at hn hk
    have hx := hread x (',' :: ' ' :: (render y ++ renderItems ys ++ rest)) (by omega)
      (delim_cons _ rfl)
    have hy := readItems_render rest ys y k (by simp only [List.length_append]; omega) (by omega)
    simp only [List.append_assoc] at hx hy
    simp only [renderItems, readItems, List.append_assoc, List.cons_append, hx, hy,
      Option.bind_eq_bind, Option.some_bind, Option.map_some']

theorem readFields_render (rest : List Char) :
    ∀ (kvs : List (String × Json)) (key : String) (v : Json) (k : Nat),
      (strText key ++ ':' :: ' ' :: render v ++ renderFields kvs).length < n → kvs.length < k →
      readFields read k (strText key ++ ':' :: ' ' :: render v ++ renderFields kvs ++ rest) =
        some ((key, v) :: kvs, rest)
  | [], key, v, k + 1, hn, _ => by
    simp only [List.length_append, List.length_cons] at hn
    have hv := hread v ('}' :: rest) (by omega) (delim_cons _ rfl)
    simp only [strText, renderFields, List.cons_append, List.append_assoc, List.singleton_append,
      List.nil_append, readFields, expect_cons, expect_nil, Option.bind_eq_bind, Option.some_bind,
      readStr_escape, hv]
  | (key', v') :: kvs, key, v, k + 1, hn, hk => by
    simp only [List.length_append, renderFields, List.length_cons] at hn hk
    have hv := hread v (',' :: ' ' :: (strText key' ++ ':' :: ' ' :: render v' ++ renderFields kvs ++ rest))
      (by omega) (delim_cons _ rfl)
    have hkvs := readFields_render rest kvs key' v' k
      (by simp only [List.length_append, List.length_cons]; omega) (by omega)
    simp only [strText, List.append_assoc, List.cons_append, List.singleton_append, List.nil_append] at hv hkvs
    simp only [strText, renderFields, List.cons_append, List.append_assoc, List.singleton_append,
      List.nil_append, readFields, expect_cons, expect_nil, Option.bind_eq_bind, Option.some_bind,
      readStr_escape, hv, hkvs, Option.map_some']

end Items

theorem render_head (v : Json) : ∃ c t, render v = c :: t ∧ c ≠ ']' := by
  cases v with
  | num i =>
    cases i with
    | ofNat m =>
      obtain ⟨c, t, ht, hc⟩ := natText_head m
      exact ⟨c, t, ht, by rintro rfl; simp [digitVal] at hc⟩
    | negSucc m => exact ⟨_, _, rfl, by decide⟩
  | bool b => cases b <;> exact ⟨_, _, rfl, by decide⟩
  | arr xs => cases xs <;> exact ⟨_, _, rfl, by decide⟩
  | obj kvs => cases kvs <;> exact ⟨_, _, rfl, by decide⟩
  | null | str s => exact ⟨_, _, rfl, by decide⟩

theorem readValue_render : ∀ (n : Nat) (v : Json) (rest : List Char), (render v).length < n →
    Delim rest → readValue n (render v ++ rest) = some (v, rest)
  | 0, _, _, h, _ => absurd h (Nat.not_lt_zero _)
  | n + 1, v, rest, hn, hd => by
    have ih : ∀ v rest, (render v).length < n → Delim rest → readValue n (render v ++ rest) = some (v, rest) :=
      readValue_render n
    cases v with
    | null => simp [render, readValue, digitVal, expect]
    | bool b => cases b <;> simp [render, readValue, digitVal, expect]
    | num i =>
      cases i with
      | ofNat m =>
        obtain ⟨c, t, ht, hc⟩ := natText_head m
        have h := readNat_natText m hd
        rw [ht, List.cons_append] at h
        simp [render, ht, readValue, hc, h]
      | negSucc m =>
        simp [render, readValue, digitVal, readNat_natText (m + 1) hd, Int.negSucc_eq]
    | str s => simp [render, strText, readValue, digitVal, readStr_escape]
    | arr xs =>
      cases xs with
      | nil => simp [render, readValue, digitVal]
      | cons x xs =>
        have hlen := length_lt_renderItems xs
        simp only [render, List.length_cons, List.length_append] at hn
        have h := readItems_render (readValue n) n ih rest xs x n (by simp; omega) (by omega)
        obtain ⟨c, t, hx, hc⟩ := render_head x
        rw [hx] at h
        simp only [List.cons_append, List.append_assoc] at h
        simp [render, readValue, digitVal, hx, hc, h]
    | obj kvs =>
      cases kvs with
      | nil => simp [render, readValue, digitVal]
      | cons kv kvs =>
        obtain ⟨key, v⟩ := kv
        have hlen := length_lt_renderFields kvs
        simp only [render, List.length_cons, List.length_append] at hn
        have h := readFields_render (readValue n) n ih rest kvs key v n
          (by simp only [List.length_append, List.length_cons]; omega) (by omega)
        simp only [strText, List.cons_append, List.append_assoc, List.singleton_append,
          List.nil_append] at h
        simp [render, strText, readValue, digitVal, h]

theorem loads_dumps (v : Json) : loads (dumps v) = some v := by
  have h := readValue_render ((render v).length + 1) v [] (by omega) (by simp [Delim])
  simp only [List.append_nil] at h
  simp [loads, dumps, String.length, h]

example : loads "[1, -20, \x7b\"a\": \"x\\\"y\"\x7d]" =
    some (.arr [.num 1, .num (-20), .obj [("a", .str "x\"y")]]) := by rfl

end JsonText

/-- `json.dumps` and `json.loads` as the printer and reader of `JsonText`. -/
def textJson : JsonCodec := ⟨JsonText.dumps, JsonText.loads, JsonText.loads_dumps⟩

end Fedn
