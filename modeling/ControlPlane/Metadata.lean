/-!
# The metadata of a call

Pairs of a key and a value that travel with a call, in the order they were added:

* `Metadata.key?` -- the key a text stands for: its characters are those of an HTTP token, and it
  is kept in lower case; a key of binary values, which ends in `-bin`, is none;
* `Metadata.isValue` -- the texts that may be a value: no control character but the tab;
* `Metadata.values`, `Metadata.erase`, `Metadata.sorted` -- what a key holds, the pairs without a
  key, and the pairs in the order of their keys.
-/

namespace ControlPlane

/-- Pairs of a key and a value, in the order they were added. -/
structure Metadata where
  entries : List (String × String)
  deriving DecidableEq, Repr, Inhabited

namespace Metadata

/-! ## 1. Keys and values -/

/-- A character of an HTTP token. -/
def isKeyChar (c : Char) : Bool :=
  c.isAlphanum || "!#$%&'*+-.^_`|~".toList.contains c

/-- The most characters a key may have. -/
def maxKeyLength : Nat := 65535

/-- The key a text stands for. -/
def key? (text : String) : Option String :=
  let chars := text.toList
  let lower := chars.map Char.toLower
  if chars.isEmpty || maxKeyLength < chars.length || !chars.all isKeyChar then none
  else if "-bin".toList.isSuffixOf lower then none
  else some (String.ofList lower)

/-- A character of a value. -/
def isValueChar (c : Char) : Bool := c == '\t' || (0x20 ≤ c.toNat && c.toNat != 0x7f)

/-- A text that may be a value. -/
def isValue (text : String) : Bool := text.toList.all isValueChar

/-! ## 2. Operations -/

/-- No pairs. -/
def empty : Metadata := ⟨[]⟩

/-- The pairs with one more at the end. -/
def push (m : Metadata) (key value : String) : Metadata := ⟨m.entries ++ [(key, value)]⟩

/-- The pairs without those of a key. -/
def erase (m : Metadata) (key : String) : Metadata :=
  ⟨m.entries.filter fun entry => entry.1 != key⟩

/-- The pairs of keys that are not in a list. -/
def without (m : Metadata) (keys : List String) : Metadata :=
  ⟨m.entries.filter fun entry => !keys.contains entry.1⟩

/-- A key with this value only. -/
def replace (m : Metadata) (key value : String) : Metadata := (m.erase key).push key value

/-- The values of a key, in the order they were added. -/
def values (m : Metadata) (key : String) : List String :=
  (m.entries.filter fun entry => entry.1 == key).map Prod.snd

/-- Puts a pair before the first one with a later key. -/
def insertSorted (entry : String × String) : List (String × String) → List (String × String)
  | [] => [entry]
  | e :: rest => if entry.1 ≤ e.1 then entry :: e :: rest else e :: insertSorted entry rest

/-- The pairs in the order of their keys; those of one key keep their order. -/
def sorted (m : Metadata) : Metadata := ⟨m.entries.foldr insertSorted []⟩

end Metadata

end ControlPlane
