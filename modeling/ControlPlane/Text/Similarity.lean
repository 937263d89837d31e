import ControlPlane.Number.Binary64

/-!
# How alike two texts are

The similarity of two texts grows with the characters they share and falls with those that stand
in another order:

* `matchesOf` -- the characters of a text that have a partner in the other one not too far away;
* `likeness` -- the mean of three quotients: the share of matches in each of the texts, and the
  share of matches that stand in the same order. Each step is rounded to a binary fraction;
* `similar` -- the words that are more than seven tenths alike to a text, the most alike last.
-/

namespace ControlPlane.Text.Similarity

/-- How far apart two characters that match may stand. -/
def reach (a b : List Char) : Nat := max a.length b.length / 2 - 1

/-- The first free place, from `low` up to before `high`, that holds a character. -/
def place? (c : Char) (low high : Nat) (b : List (Char × Bool)) : Option Nat :=
  (List.range b.length).find? fun i =>
    decide (low ≤ i ∧ i < high) && b[i]? == some (c, false)

/-- Marks the characters of `b` that match those of `a`, and keeps those of `a` that match. -/
def matchFrom (reach index : Nat) : List Char → List (Char × Bool) → List Char × List (Char × Bool)
  | [], b => ([], b)
  | c :: rest, b =>
    match place? c (index - reach) (index + reach + 1) b with
    | none => matchFrom reach (index + 1) rest b
    | some i =>
      let (matched, marked) := matchFrom reach (index + 1) rest (b.set i (c, true))
      (c :: matched, marked)

/-- The characters of both texts that match, in the order of each. -/
def matchesOf (a b : List Char) : List Char × List Char :=
  let (matched, marked) := matchFrom (reach a b) 0 a (b.map fun c => (c, false))
  (matched, (marked.filter Prod.snd).map Prod.fst)

/-- How many matches stand in another order, counted in pairs. -/
def transpositions (a b : List Char) : Nat := ((a.zip b).filter fun (x, y) => x != y).length / 2

/-- The mean of three quotients, each step rounded. -/
def roundedMean (p q r : Nat × Nat) : Option Binary64 :=
  (Binary64.nearest p.1 p.2).bind fun a =>
  (Binary64.nearest q.1 q.2).bind fun b =>
  (Binary64.nearest r.1 r.2).bind fun c =>
  (a.sum b).bind fun ab => (ab.sum c).bind (Binary64.part 3)

/-- How alike two texts are. -/
def likeness (a b : String) : Option Binary64 :=
  let x := a.toList
  let y := b.toList
  let (p, q) := matchesOf x y
  let m := p.length
  if m = 0 then Binary64.nearest 0 1
  else roundedMean (m, x.length) (m, y.length) (m - transpositions p q, m)

/-- Whether a likeness counts: it is above seven tenths. -/
def counts (x : Binary64) : Bool := (Binary64.nearest 7 10).any fun limit => limit.less x

/-- Puts a word after all that are not more alike. -/
def insertByLikeness (x : Binary64 × String) :
    List (Binary64 × String) → List (Binary64 × String)
  | [] => [x]
  | y :: rest => if x.1.less y.1 then x :: y :: rest else y :: insertByLikeness x rest

/-- The words that are alike enough to a text, the most alike last. -/
def similar (text : String) (words : List String) : List String :=
  let scored := words.filterMap fun w => (likeness text w).map fun x => (x, w)
  let alike := scored.filter fun x => counts x.1
  (alike.foldl (fun acc x => insertByLikeness x acc) []).map Prod.snd

end ControlPlane.Text.Similarity
