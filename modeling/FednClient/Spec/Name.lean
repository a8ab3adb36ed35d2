import Mathlib.Data.List.Basic

/-! The constructor's name check, `re.search(VALID_NAME_REGEX, config['name'])`, with the
part of Python's `re` that the pattern uses: `sre_parse` for `^`, `$`, character sets and
`*`, and the backtracking matcher, of which `search` keeps whether it finds a match. `^`
matches only at the start of the text, and `$`, without `re.MULTILINE`, at its end and
also just before a newline that ends it. -/

namespace Fedn

/-- `VALID_NAME_REGEX` -/
def VALID_NAME_REGEX : String := "^[a-zA-Z0-9_-]*$"

namespace Sre

/-- An item of a character set: `LITERAL` or `RANGE`. -/
inductive SetItem where
  | literal (c : Char)
  | range (lo hi : Char)
  deriving DecidableEq, Repr

/-- A pattern element that matches one character: `LITERAL`, or `IN` for a set. -/
inductive Item where
  | literal (c : Char)
  | inSet (items : List SetItem)
  deriving DecidableEq, Repr

/-- An element of a parsed pattern: `AT_BEGINNING`, `AT_END`, one character, or
`MAX_REPEAT` from 0 to `MAXREPEAT` of one character (`*`). -/
inductive Piece where
  | atBeginning
  | atEnd
  | one (i : Item)
  | maxRepeat (i : Item)
  deriving DecidableEq, Repr

/-- The characters `sre_parse` treats specially outside a set. -/
def specialChars : List Char := ['.', '\\', '[', '{', '(', ')', '*', '+', '?', '^', '$', '|']

/-- Where the parser is: in the pattern, or in a set after `[` with the items read so far
(`first` while there are none, where `]` is a literal). -/
inductive ParseMode where
  | top
  | inSet (first : Bool) (items : List SetItem)

/-- `sre_parse.parse` on the patterns made of ordinary characters, `^`, `$`, sets of
characters and ranges without escapes or negation, and `*`; the parsed pieces are `acc`,
last first. `none` for what `sre_parse` refuses there (an unterminated set, a bad range,
nothing or a repeat to repeat) and for any other special character or escape. -/
def parse : ParseMode → List Piece → List Char → Option (List Piece)
  | .top, acc, [] => some acc.reverse
  | .top, acc, '^' :: rest => parse .top (.atBeginning :: acc) rest
  | .top, acc, '$' :: rest => parse .top (.atEnd :: acc) rest
  | .top, acc, '[' :: rest => parse (.inSet true []) acc rest
  | .top, acc, '*' :: rest =>
    match acc with
    | .one i :: acc' => parse .top (.maxRepeat i :: acc') rest
    | _ => none
  | .top, acc, c :: rest =>
    if c ∈ specialChars then none else parse .top (.one (.literal c) :: acc) rest
  | .inSet _ _, _, [] => none
  | .inSet false items, acc, ']' :: rest => parse .top (.one (.inSet items) :: acc) rest
  | .inSet _ items, acc, c :: '-' :: ']' :: rest =>
    if c = '\\' then none
    else parse .top (.one (.inSet (items ++ [.literal c, .literal '-'])) :: acc) rest
  | .inSet _ items, acc, c :: '-' :: d :: rest =>
    if c = '\\' ∨ d = '\\' ∨ d < c then none
    else parse (.inSet false (items ++ [.range c d])) acc rest
  | .inSet _ items, acc, c :: rest =>
    if c = '\\' ∨ c = '^' ∧ items = [] then none
    else parse (.inSet false (items ++ [.literal c])) acc rest

/-- `sre_parse.parse(pattern)` -/
def sreParse (pattern : String) : Option (List Piece) := parse .top [] pattern.toList

def SetItem.matches (c : Char) : SetItem → Bool
  | .literal d => c == d
  | .range lo hi => lo ≤ c && c ≤ hi

def Item.matches (c : Char) : Item → Bool
  | .literal d => c == d
  | .inSet items => items.any (SetItem.matches c)

/-- `MAX_REPEAT` of `i`, then the rest of the pattern `k`, at position `pos` with the
text `rest` left: as many characters as match `i`, and one fewer each time `k` fails. -/
def repeatHere (i : Item) (k : Nat → List Char → Bool) : Nat → List Char → Bool
  | pos, [] => k pos []
  | pos, c :: rest => (i.matches c && repeatHere i k (pos + 1) rest) || k pos (c :: rest)

/-- Whether the pieces match at position `pos`, with the text `rest` left from there. -/
def matchHere : List Piece → Nat → List Char → Bool
  | [], _, _ => true
  | .atBeginning :: ps, pos, rest => pos == 0 && matchHere ps pos rest
  | .atEnd :: ps, pos, rest => (rest.isEmpty || rest == ['\n']) && matchHere ps pos rest
  | .one i :: ps, pos, c :: rest => i.matches c && matchHere ps (pos + 1) rest
  | .one _ :: _, _, [] => false
  | .maxRepeat i :: ps, pos, rest => repeatHere i (matchHere ps) pos rest

/-- `re.search(pattern, text) is not None`: a match at some position, tried from the
left. -/
def search (ps : List Piece) (text : List Char) : Bool :=
  (List.range (text.length + 1)).any fun pos => matchHere ps pos (text.drop pos)

end Sre

/-- What the name check raises. -/
inductive InitError where
  /-- `re.error`, for a pattern `re` refuses -/
  | reError
  | valueError (msg : String)
  deriving DecidableEq, Repr

/-- The message of the constructor's `ValueError`. -/
def nameErrorMessage : String :=
  "Unallowed character in client name. Allowed characters: a-z, A-Z, 0-9, _, -."

/-- The constructor's lines `match = re.search(VALID_NAME_REGEX, config['name'])` and
`if not match: raise ValueError(...)`. -/
def validateName (name : String) : Except InitError Unit :=
  match Sre.sreParse VALID_NAME_REGEX with
  | none => .error .reError
  | some ps => if Sre.search ps name.toList then .ok () else .error (.valueError nameErrorMessage)

end Fedn
