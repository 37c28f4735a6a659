import Glossary.Text.LowerTable
import Glossary.Text.CaseTable

set_option autoImplicit false

namespace Glossary.Text

/-- The lower-case code point that the runs give for `n`. The runs ascend, so the search stops at
the first one that begins later. -/
def LowerRun.target? : List LowerRun → Nat → Option Nat
  | [], _ => none
  | r :: rest, n =>
    if n < r.first then none
    else if n ≤ r.last && (n - r.first) % r.step == 0 then some (r.target + (n - r.first))
    else target? rest n

/-- The lower-case form of one character, or the character itself. -/
def lowerChar (c : Char) : Char :=
  match LowerRun.target? lowerRuns c.toNat with
  | some n => Char.ofNat n
  | none => c

def lowerEachChar (s : List Char) : List Char := s.map lowerChar

/-- The first character that is not looked through has case. -/
def meetsCased (s : List Char) : Bool :=
  match s.dropWhile isIgnorable with
  | [] => false
  | c :: _ => isCased c

/-- The capital sigma, lowered as an inner letter or as the last letter of a word; `before` is
the text on its left, nearest first. -/
def lowerSigma (before after : List Char) : Char :=
  if meetsCased before && !meetsCased after then 'ς' else 'σ'

/-- Lowers the rest of a text; `before` is what was passed already, nearest first. -/
def lowerFrom (before : List Char) : List Char → List Char
  | [] => []
  | c :: after =>
    if c = 'Σ' then lowerSigma before after :: lowerFrom (c :: before) after
    else if c = 'İ' then 'i' :: '\u0307' :: lowerFrom (c :: before) after
    else lowerChar c :: lowerFrom (c :: before) after

/-- The text in lower case, letters lowered in their context. -/
def lower (s : String) : String := String.ofList (lowerFrom [] s.toList)

/-- The text in lower case, each letter lowered on its own. -/
def lowerEach (s : String) : String := String.ofList (lowerEachChar s.toList)

/-- Without a capital sigma or a dotted capital I, context does not matter. -/
theorem lowerFrom_eq_lowerEachChar (s before : List Char) (noSigma : 'Σ' ∉ s) (noDotted : 'İ' ∉ s) :
    lowerFrom before s = lowerEachChar s := by
  induction s generalizing before with
  | nil => rfl
  | cons c after ih =>
    simp only [List.mem_cons, not_or] at noSigma noDotted
    simp only [lowerFrom, if_neg (Ne.symm noSigma.1), if_neg (Ne.symm noDotted.1),
      ih _ noSigma.2 noDotted.2, lowerEachChar, List.map_cons]

end Glossary.Text
