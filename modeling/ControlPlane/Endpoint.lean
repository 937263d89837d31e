/-!
# Endpoints

Which texts name a server that can be dialled. The rule is that of a generic URI:

* a text beginning with `unix:` names a local socket, whatever follows;
* a text of one character is `/`, `*` or an authority, and one beginning with `/` is a path;
* otherwise a scheme with `://`, an authority that is not empty, and a path, query and fragment;
  without a scheme the whole text must be an authority.

A text has 65534 octets at most, and a scheme other than `http` and `https` 64 characters.
-/

namespace ControlPlane.Endpoint

/-! ## 1. Character classes -/

/-- An ASCII letter or digit. -/
def isAlphanum (c : Char) : Bool := c.isAlphanum

/-- The characters of a scheme. -/
def isSchemeChar (c : Char) : Bool :=
  isAlphanum c || c == '+' || c == '-' || c == '.' || c == '~'

/-- The characters an authority may hold besides `%`, `:`, `@` and the brackets. -/
def isAuthorityChar (c : Char) : Bool :=
  isAlphanum c || "!$&'()*+,-.;=_~".toList.contains c

/-- The characters of a path. Those beyond ASCII are kept as they are. -/
def isPathChar (c : Char) : Bool :=
  let n := c.toNat
  n == 0x21 || n == 0x22 || (0x24 ≤ n && n ≤ 0x3b) || n == 0x3d || (0x40 ≤ n && n ≤ 0x5f) ||
    (0x61 ≤ n && n ≤ 0x7e) || 0x80 ≤ n

/-- The characters of a query. -/
def isQueryChar (c : Char) : Bool :=
  let n := c.toNat
  n == 0x21 || (0x24 ≤ n && n ≤ 0x3b) || n == 0x3d || (0x3f ≤ n && n ≤ 0x7e) || 0x80 ≤ n

/-! ## 2. Authorities -/

/-- What the reader of an authority has seen so far. -/
structure AuthorityState where
  colons : Nat
  opened : Bool
  closed : Bool
  percent : Bool
  /-- Whether the last character was an at sign. -/
  atEnd : Bool
  deriving DecidableEq, Repr

namespace AuthorityState

/-- Nothing seen yet. -/
def start : AuthorityState := ⟨0, false, false, false, false⟩

/-- The state after a character, if an authority may hold it there. The user part before an at
    sign and the address between brackets may hold what the rest may not. -/
def step (s : AuthorityState) (c : Char) : Option AuthorityState :=
  let s := { s with atEnd := false }
  if c = ':' then
    if 8 ≤ s.colons then none else some { s with colons := s.colons + 1 }
  else if c = '[' then
    if s.percent || s.opened then none else some { s with opened := true }
  else if c = ']' then
    if !s.opened || s.closed then none
    else some { s with closed := true, colons := 0, percent := false }
  else if c = '@' then some { s with colons := 0, percent := false, atEnd := true }
  else if c = '%' then some { s with percent := true }
  else if isAuthorityChar c then some s
  else none

/-- Whether an authority may end here. -/
def mayEnd (s : AuthorityState) : Bool :=
  s.opened == s.closed && s.colons ≤ 1 && !s.atEnd && !s.percent

end AuthorityState

/-- Reads an authority up to the first `/`, `?` or `#`: how many characters it has, and the rest. -/
def readAuthority : AuthorityState → Nat → List Char → Option (Nat × List Char)
  | s, n, [] => if s.mayEnd then some (n, []) else none
  | s, n, c :: rest =>
    if c = '/' ∨ c = '?' ∨ c = '#' then
      if s.mayEnd then some (n, c :: rest) else none
    else
      match s.step c with
      | none => none
      | some s' => readAuthority s' (n + 1) rest

/-- A text that is an authority and nothing else. -/
def isAuthority (chars : List Char) : Bool :=
  match readAuthority .start 0 chars with
  | some (_, []) => true
  | _ => false

/-! ## 3. Paths and schemes -/

/-- A query up to the fragment; the fragment may hold anything. -/
def isQuery : List Char → Bool
  | [] => true
  | c :: rest => if c = '#' then true else isQueryChar c && isQuery rest

/-- A path with its query and fragment. -/
def isPath : List Char → Bool
  | [] => true
  | c :: rest =>
    if c = '?' then isQuery rest
    else if c = '#' then true
    else isPathChar c && isPath rest

/-- What splitting off a scheme gives. -/
inductive SchemeSplit where
  | none
  | tooLong
  | rest (chars : List Char)
  deriving DecidableEq, Repr

/-- The text after `word`, which may stand in any case. -/
def afterWord? (word chars : List Char) : Option (List Char) :=
  if (chars.take word.length).map Char.toLower = word then some (chars.drop word.length)
  else none

/-- Splits off the scheme with its `://`. -/
def splitScheme (chars : List Char) : SchemeSplit :=
  match afterWord? "http://".toList chars with
  | some rest => .rest rest
  | none =>
    match afterWord? "https://".toList chars with
    | some rest => .rest rest
    | none =>
      if chars.length ≤ 3 then .none
      else
        let scheme := chars.takeWhile isSchemeChar
        match chars.dropWhile isSchemeChar with
        | ':' :: '/' :: '/' :: rest => if 64 < scheme.length then .tooLong else .rest rest
        | _ => .none

/-! ## 4. Endpoints -/

/-- A URI in full. -/
def isFull (chars : List Char) : Bool :=
  match splitScheme chars with
  | .none => isAuthority chars
  | .tooLong => false
  | .rest rest =>
    match readAuthority .start 0 rest with
    | none => false
    | some (n, path) => n != 0 && isPath path

/-- Whether a text names a server that can be dialled. -/
def isValid (text : String) : Bool :=
  if "unix:".toList.isPrefixOf text.toList then true
  else if text.utf8ByteSize = 0 ∨ 65534 < text.utf8ByteSize then false
  else
    match text.toList with
    | ['/'] => true
    | ['*'] => true
    | [c] => isAuthority [c]
    | '/' :: rest => isPath ('/' :: rest)
    | chars => isFull chars

/-- The wording for a text that names no server. -/
def invalidMessage (text : String) : String :=
  "Invalid URL '" ++ text ++ "': transport error"

/-- The endpoint that is dialled when none is given. -/
def default : String := "http://localhost:50051"

end ControlPlane.Endpoint
