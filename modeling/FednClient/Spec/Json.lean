import Mathlib.Data.List.Basic

/-! JSON values as `json.loads` returns them and `json.dumps` takes them, and the
`json` module itself as a codec with its one law, that decoding undoes encoding.
A Python `dict` with string keys is an association list; numbers are integers,
since no number the client handles is read back. -/

namespace Fedn

/-- A JSON value; `null` is Python's `None`. -/
inductive Json where
  | null
  | bool (b : Bool)
  | num (n : Int)
  | str (s : String)
  | arr (xs : List Json)
  | obj (kvs : List (String × Json))
  deriving Repr, Inhabited

/-- A `dict` with string keys, in insertion order. -/
abbrev Dict := List (String × Json)

/-- `d[k] = v`: replaces the value of `k` in place, or appends the pair. -/
def Dict.set (d : Dict) (k : String) (v : Json) : Dict :=
  if d.any (·.1 = k) then d.map (fun p => if p.1 = k then (k, v) else p) else d ++ [(k, v)]

/-- `json.dumps` and `json.loads` (which raises on text that is not JSON). -/
structure JsonCodec where
  dumps : Json → String
  loads : String → Option Json
  loads_dumps : ∀ v, loads (dumps v) = some v

end Fedn
