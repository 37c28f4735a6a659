set_option autoImplicit false

namespace Glossary.Text

/-- How far apart matching characters may stand. -/
def reach (a b : List Char) : Nat := max a.length b.length / 2 - 1

/-- The first free position of `b` near position `i` that holds `c`. -/
def matchAt? (b : List Char) (near i : Nat) (taken : List Nat) (c : Char) : Option Nat :=
  (List.range b.length).find? fun j =>
    decide (i ≤ j + near) && decide (j ≤ i + near) && !taken.contains j && b[j]? == some c

/-- The positions of `b` that the characters from position `i` on match, in their order. -/
def matchesFrom (b : List Char) (near : Nat) : Nat → List Nat → List Char → List (Char × Nat)
  | _, _, [] => []
  | i, taken, c :: rest =>
    match matchAt? b near i taken c with
    | some j => (c, j) :: matchesFrom b near (i + 1) (j :: taken) rest
    | none => matchesFrom b near (i + 1) taken rest

def likeness (a b : List Char) : Rat :=
  let found := matchesFrom b (reach a b) 0 [] a
  let inOrder := (List.range b.length).filter fun j => (found.map (·.2)).contains j
  let moved := ((found.map (·.1)).zip (inOrder.filterMap fun j => b[j]?)).countP fun p => p.1 != p.2
  let count := found.length
  if count = 0 then 0
  else
    ((count : Rat) / a.length + (count : Rat) / b.length +
      ((count - moved / 2 : Nat) : Rat) / count) / 3

end Glossary.Text
