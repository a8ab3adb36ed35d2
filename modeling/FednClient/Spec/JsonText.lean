import FednClient.Spec.Json
import Mathlib.Data.Nat.Digits

/-! JSON text for the values of `Json`, standing for Python's `json` module (not part of
the repository) when the model is run on concrete inputs. The printer writes what
`json.dumps` writes with its default separators `", "` and `": "`, escaping only quotes and
backslashes; the reader takes back what the printer writes and no other layout, so the
codec covers its own printer's output only, not every text `json.loads` accepts. -/

namespace Fedn

namespace JsonText

def digitChar (d : Nat) : Char := Char.ofNat (48 + d)

def digitVal (c : Char) : Option Nat :=
  if '0' ≤ c ∧ c ≤ '9' then some (c.toNat - 48) else none

/-- The decimal digits of `m`, most significant first. -/
def natText (m : Nat) : List Char :=
  if m = 0 then ['0'] else ((Nat.digits 10 m).map digitChar).reverse

def escape : List Char → List Char
  | [] => []
  | c :: cs => if c = '"' ∨ c = '\\' then '\\' :: c :: escape cs else c :: escape cs

def strText (s : String) : List Char := '"' :: escape s.data ++ ['"']

mutual
def render : Json → List Char
  | .null => ['n', 'u', 'l', 'l']
  | .bool true => ['t', 'r', 'u', 'e']
  | .bool false => ['f', 'a', 'l', 's', 'e']
  | .num (.ofNat m) => natText m
  | .num (.negSucc m) => '-' :: natText (m + 1)
  | .str s => strText s
  | .arr [] => ['[', ']']
  | .arr (x :: xs) => '[' :: render x ++ renderItems xs
  | .obj [] => ['{', '}']
  | .obj ((k, v) :: kvs) => '{' :: strText k ++ ':' :: ' ' :: render v ++ renderFields kvs
/-- The items after the first, and the closing bracket. -/
def renderItems : List Json → List Char
  | [] => [']']
  | x :: xs => ',' :: ' ' :: render x ++ renderItems xs
/-- The fields after the first, and the closing brace. -/
def renderFields : List (String × Json) → List Char
  | [] => ['}']
  | (k, v) :: kvs => ',' :: ' ' :: strText k ++ ':' :: ' ' :: render v ++ renderFields kvs
end

/-- The longest run of digits at the front, and what follows it. -/
def readDigits : List Char → List Nat × List Char
  | [] => ([], [])
  | c :: cs =>
    match digitVal c with
    | some d => ((readDigits cs).1.cons d, (readDigits cs).2)
    | none => ([], c :: cs)

def readNat (cs : List Char) : Option (Nat × List Char) :=
  let (ds, r) := readDigits cs
  if ds = [] then none else some (ds.foldl (fun a d => 10 * a + d) 0, r)

/-- The characters of a string up to its closing quote, after the opening one;
the flag is set right after an escaping backslash. -/
def readStr : Bool → List Char → Option (List Char × List Char)
  | _, [] => none
  | true, c :: cs => (readStr false cs).map fun (s, r) => (c :: s, r)
  | false, c :: cs =>
    if c = '"' then some ([], cs)
    else if c = '\\' then readStr true cs
    else (readStr false cs).map fun (s, r) => (c :: s, r)

def expect (lit : List Char) (cs : List Char) : Option (List Char) :=
  if lit.isPrefixOf cs then some (cs.drop lit.length) else none

/-- The items of a list after its opening bracket, each read by `read`; `fuel` bounds
their number. -/
def readItems (read : List Char → Option (Json × List Char)) :
    Nat → List Char → Option (List Json × List Char)
  | 0, _ => none
  | fuel + 1, cs => do
    let (x, r) ← read cs
    match r with
    | ']' :: r => some ([x], r)
    | ',' :: ' ' :: r => (readItems read fuel r).map fun (xs, r) => (x :: xs, r)
    | _ => none

/-- The fields of a dict after its opening brace, each value read by `read`. -/
def readFields (read : List Char → Option (Json × List Char)) :
    Nat → List Char → Option (List (String × Json) × List Char)
  | 0, _ => none
  | fuel + 1, cs => do
    let r ← expect ['"'] cs
    let (key, r) ← readStr false r
    let r ← expect [':', ' '] r
    let (x, r) ← read r
    match r with
    | '}' :: r => some ([(⟨key⟩, x)], r)
    | ',' :: ' ' :: r => (readFields read fuel r).map fun (kvs, r) => ((⟨key⟩, x) :: kvs, r)
    | _ => none

/-- One value at the front of the text and what follows it; `fuel` bounds the nesting
and the number of items. -/
def readValue : Nat → List Char → Option (Json × List Char)
  | 0, _ => none
  | _ + 1, [] => none
  | fuel + 1, c :: r =>
    if (digitVal c).isSome then (readNat (c :: r)).map fun (m, r) => (.num m, r)
    else if c = '-' then (readNat r).map fun (m, r) => (.num (-(m : Int)), r)
    else if c = 'n' then (expect ['u', 'l', 'l'] r).map (.null, ·)
    else if c = 't' then (expect ['r', 'u', 'e'] r).map (.bool true, ·)
    else if c = 'f' then (expect ['a', 'l', 's', 'e'] r).map (.bool false, ·)
    else if c = '"' then (readStr false r).map fun (s, r) => (.str ⟨s⟩, r)
    else if c = '[' then
      match r with
      | ']' :: r => some (.arr [], r)
      | r => (readItems (readValue fuel) fuel r).map fun (xs, r) => (.arr xs, r)
    else if c = '{' then
      match r with
      | '}' :: r => some (.obj [], r)
      | r => (readFields (readValue fuel) fuel r).map fun (kvs, r) => (.obj kvs, r)
    else none

def dumps (v : Json) : String := ⟨render v⟩

/-- `json.loads`: `none` where Python raises `JSONDecodeError`. Each call of `readValue`
consumes a character, so the text's length is enough fuel. -/
def loads (s : String) : Option Json :=
  match readValue (s.length + 1) s.data with
  | some (v, []) => some v
  | _ => none

end JsonText

end Fedn
