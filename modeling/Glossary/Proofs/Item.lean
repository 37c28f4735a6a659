import Mathlib.Data.List.Nodup
import Glossary.Distinct
import Glossary.Item
import Glossary.Proofs.Answers

set_option autoImplicit false

namespace Glossary

/-- Of the items with a key that occurs exactly one is kept. -/
theorem countP_distinctOn {α κ : Type} [DecidableEq κ] (key : α → κ) {xs : List α} {x : α}
    (member : x ∈ xs) : (distinctOn key xs).countP (fun y => decide (key y = key x)) = 1 := by
  have kept : key x ∈ (distinctOn key xs).map key :=
    List.mem_map.2 (exists_mem_distinctOn key member)
  have once := List.count_eq_one_of_mem (nodup_map_distinctOn key xs) kept
  rwa [List.count_eq_countP, List.countP_map] at once

theorem anyM_eq_ok {ε α : Type} {p : α → Except ε Bool} {q : α → Bool} {xs : List α}
    (answers : ∀ x ∈ xs, p x = .ok (q x)) : xs.anyM p = .ok (xs.any q) := by
  induction xs with
  | nil => rfl
  | cons x rest ih =>
      obtain ⟨first, others⟩ := List.forall_mem_cons.1 answers
      rw [List.anyM_cons, first, List.any_cons, ih others]
      change (if q x = true then Except.ok true else .ok (rest.any q)) = _
      cases q x <;> rfl

namespace Item

def isNamed : Item → Bool
  | label _ name => name.isSome
  | _ => true

/-- A value that is no label without a name. -/
abbrev Named : Type := { x : Item // x.isNamed = true }

/-- All that matters about a value when it is compared with another. -/
inductive Key where
  | text (value : String)
  | label (kind : LabelKind) (lowered : Option String)
  | entry (id : String)
  | filter (kind : FilterKind) (text : String)
  deriving DecidableEq, Repr

def key : Item → Key
  | text value => .text value
  | label kind name => .label kind (name.map Text.lower)
  | entry value => .entry value.id
  | filter value => .filter value.kind value.text
  | composite value => .entry value.entry.id

/-- Labels of one kind, of which one has no name. -/
def Clash (a b : Item) : Prop :=
  ∃ kind name other, a = label kind name ∧ b = label kind other ∧ (name = none ∨ other = none)

variable {a b x : Item} {h : Hashing} {fault : Fault}

theorem Clash.symm (clash : Clash a b) : Clash b a := by
  obtain ⟨kind, name, other, rfl, rfl, absent⟩ := clash
  exact ⟨kind, other, name, rfl, rfl, absent.symm⟩

theorem not_clash (left : a.isNamed = true) (right : b.isNamed = true) : ¬Clash a b := by
  rintro ⟨kind, name, other, rfl, rfl, rfl | rfl⟩
  · cases left
  · cases right

theorem sameName_eq_error_iff {a b : Option String} :
    sameName a b = .error fault ↔ fault = .absentName ∧ (a = none ∨ b = none) := by
  cases a <;> cases b <;> simp [sameName, lowered, bind, pure, Except.bind, Except.pure, eq_comm]

theorem eq_of_sameName {a b : Option String} {said : Bool} (answer : sameName a b = .ok said) :
    said = decide (a.map Text.lower = b.map Text.lower) := by
  cases a <;> cases b <;> cases answer
  simp

theorem answer?_eq_error_iff :
    answer? a b = .error fault ↔ fault = .absentName ∧ Clash a b := by
  constructor
  · intro failed
    cases a <;> cases b <;> try cases failed
    case label.label kind name second other =>
      by_cases alike : kind = second
      · subst alike
        rw [answer?, if_pos rfl, map_eq_error_iff, sameName_eq_error_iff] at failed
        exact ⟨failed.1, kind, name, other, rfl, rfl, failed.2⟩
      · rw [answer?, if_neg alike] at failed
        cases failed
  · rintro ⟨rfl, kind, name, other, rfl, rfl, absent⟩
    rw [answer?, if_pos rfl, map_eq_error_iff, sameName_eq_error_iff]
    exact ⟨rfl, absent⟩

/-- What is said of two values depends on their keys. -/
theorem eq_of_answer? {said : Bool} (answer : answer? a b = .ok (some said)) :
    said = decide (key a = key b) := by
  cases a <;> cases b
  case label.label kind name second other =>
    by_cases alike : kind = second
    · rw [answer?, if_pos alike, map_eq_ok_iff] at answer
      obtain ⟨_, named, ⟨⟩⟩ := answer
      simp [eq_of_sameName named, key, alike]
    · rw [answer?, if_neg alike] at answer
      cases answer
  all_goals cases answer <;> simp [key, eq_comm]

/-- Values that say nothing of each other have different keys. -/
theorem key_ne_of_answer? (left : answer? a b = .ok none) (right : answer? b a = .ok none) :
    key a ≠ key b := by
  cases a <;> cases b
  case label.label kind name second other =>
    by_cases alike : kind = second
    · rw [answer?, if_pos alike, map_eq_ok_iff] at left
      obtain ⟨_, -, ⟨⟩⟩ := left
    · simp [key, alike]
  all_goals cases left <;> cases right <;> simp [key]

/-- Values can be compared unless they are labels of one kind and one of them has no name. -/
theorem compare_eq_error_iff : compare a b = .error fault ↔ fault = .absentName ∧ Clash a b := by
  rw [← answer?_eq_error_iff, compare]
  cases left : answer? a b with
  | error other => simp [Except.bind]
  | ok first =>
    cases first with
    | some said => exact iff_of_false nofun nofun
    | none =>
      cases right : answer? b a with
      | ok second => exact iff_of_false nofun nofun
      | error other =>
        obtain ⟨rfl, clash⟩ := answer?_eq_error_iff.1 right
        cases left.symm.trans (answer?_eq_error_iff.2 ⟨rfl, clash.symm⟩)

theorem eq_of_compare {said : Bool} (answer : compare a b = .ok said) :
    said = decide (key a = key b) := by
  obtain ⟨first, left, rest⟩ := bind_eq_ok_iff.1 answer
  cases first with
  | some said =>
    cases rest
    exact eq_of_answer? left
  | none =>
    obtain ⟨second, right, rfl⟩ := map_eq_ok_iff.1 rest
    cases second with
    | some said => simp only [Option.getD_some, eq_of_answer? right, eq_comm]
    | none => simpa using key_ne_of_answer? left right

theorem compare_eq_ok (left : a.isNamed = true) (right : b.isNamed = true) :
    compare a b = .ok (decide (key a = key b)) := by
  cases answer : compare a b with
  | error fault => exact absurd (compare_eq_error_iff.1 answer).2 (not_clash left right)
  | ok said => rw [eq_of_compare answer]

theorem compare_eq_true_iff (left : a.isNamed = true) (right : b.isNamed = true) :
    compare a b = .ok true ↔ key a = key b := by
  rw [compare_eq_ok left right, Except.ok.injEq, decide_eq_true_eq]

theorem same_eq (left : a.isNamed = true) (right : b.isNamed = true) :
    same a b = decide (key a = key b) := by
  rw [same, compare_eq_ok left right]

theorem compare_equivalence : Equivalence fun a b : Named => compare a b = .ok true where
  refl a := (compare_eq_true_iff a.2 a.2).2 rfl
  symm {a b} first := (compare_eq_true_iff b.2 a.2).2 ((compare_eq_true_iff a.2 b.2).1 first).symm
  trans {a b c} first second := (compare_eq_true_iff a.2 c.2).2
    (((compare_eq_true_iff a.2 b.2).1 first).trans ((compare_eq_true_iff b.2 c.2).1 second))

/-- The hash of a value with a key. A label is hashed as its text, and a composite as its entry. -/
def Key.hash (h : Hashing) : Key → Except Fault Int
  | .text value => .ok (h.text value)
  | .label _ (some lowered) => .ok (h.text lowered)
  | .label _ none => .error .absentName
  | .entry id => .ok (h.fields [h.text id])
  | .filter kind value => .ok (h.fields [h.kind kind, h.text value])

theorem hash_eq (h : Hashing) (x : Item) : hash h x = (key x).hash h := by
  cases x with
  | label kind name => cases name <;> rfl
  | _ => rfl

theorem exists_hash_iff : (∃ number, hash h x = .ok number) ↔ x.isNamed = true := by
  cases x with
  | label kind name => cases name <;> simp [hash, lowered, isNamed, Except.map]
  | _ => exact ⟨fun _ => rfl, fun _ => ⟨_, rfl⟩⟩

/-- Every value stands under its number. -/
def Numbered (h : Hashing) (held : List (Int × Item)) : Prop := ∀ y ∈ held, hash h y.2 = .ok y.1

/-- A value is put where no other has its key. -/
theorem exists_put {held : List (Int × Item)} (numbered : Numbered h held)
    (named : x.isNamed = true) : ∃ grown, put h held x = .ok grown ∧ Numbered h grown ∧
      grown.map (·.2) = addOn key (held.map (·.2)) x := by
  obtain ⟨number, hashed⟩ := exists_hash_iff.2 named
  -- A value that is the same has the number, so that to look only there misses none.
  have looked : held.anyM (fun y => if y.1 = number then compare y.2 x else .ok false) =
      .ok (held.any fun y => decide (key x = key y.2)) := by
    refine anyM_eq_ok fun y member => ?_
    have found := numbered y member
    by_cases there : y.1 = number
    · rw [if_pos there, compare_eq_ok (exists_hash_iff.1 ⟨_, found⟩) named]
      simp only [eq_comm]
    · rw [if_neg there, decide_eq_false]
      intro alike
      rw [hash_eq, ← alike, ← hash_eq, hashed] at found
      exact there (Except.ok.inj found).symm
  have grows : put h held x = .ok (if held.any fun y => decide (key x = key y.2) then held
      else held ++ [(number, x)]) := by
    simp only [put, hashed, bind, Except.bind, looked, pure, Except.pure]
  refine ⟨_, grows, ?_, ?_⟩
  · split
    · exact numbered
    · exact List.forall_mem_append.2 ⟨numbered, List.forall_mem_singleton.2 hashed⟩
  · have there : (held.map (·.2)).any (fun y => decide (key x = key y)) =
        held.any fun y => decide (key x = key y.2) := List.any_map
    rw [addOn, there]
    by_cases known : (held.any fun y => decide (key x = key y.2)) = true
    · rw [if_pos known, if_pos known]
    · rw [if_neg known, if_neg known, List.map_append]
      rfl

/-- Values that are put one after another are put where none before has their key. -/
theorem exists_puts {items : List Item} (named : ∀ x ∈ items, x.isNamed = true)
    {held : List (Int × Item)} (numbered : Numbered h held) :
    ∃ grown, items.foldlM (put h) held = .ok grown ∧
      grown.map (·.2) = items.foldl (addOn key) (held.map (·.2)) := by
  induction items generalizing held with
  | nil => exact ⟨held, rfl, rfl⟩
  | cons x rest ih =>
      obtain ⟨first, others⟩ := List.forall_mem_cons.1 named
      obtain ⟨next, step, kept, values⟩ := exists_put numbered first
      obtain ⟨grown, run, whole⟩ := ih others kept
      refine ⟨grown, ?_, ?_⟩
      · rw [List.foldlM_cons, step]
        exact run
      · rw [List.foldl_cons, ← values, whole]

theorem distinct_eq_distinctOn {items : List Item} (named : ∀ x ∈ items, x.isNamed = true) :
    distinct items = distinctOn key items := by
  induction items with
  | nil => rfl
  | cons x rest ih =>
      obtain ⟨first, others⟩ := List.forall_mem_cons.1 named
      rw [distinct, distinctOn, ih others]
      congr 1
      apply List.filter_congr
      intro y member
      rw [same_eq first (others y (mem_of_mem_distinctOn member)), ← decide_not]
      simp only [ne_comm, ne_eq]

/-- How values are hashed makes no difference to what a collection holds. -/
theorem gather_eq_distinct (h : Hashing) {items : List Item}
    (named : ∀ x ∈ items, x.isNamed = true) : gather h items = .ok (distinct items) := by
  have nothing : Numbered h [] := nofun
  obtain ⟨grown, run, values⟩ := exists_puts named nothing
  rw [List.map_nil, foldl_addOn_nil, ← distinct_eq_distinctOn named] at values
  rw [gather, run, ← values]
  rfl

/-- Collections can rely on what is the same, as long as no label is without a name: all values can
be compared, to be the same is an equivalence, and values that are the same have one hash. A
collection that is made of values, in whatever order, holds nothing else, and of all values that are
the same as one of them exactly one. -/
theorem same_suits_collections (h : Hashing) :
    (∀ a b : Named, ∃ said, compare a b = .ok said) ∧
    Equivalence (fun a b : Named => compare a b = .ok true) ∧
    (∀ a b : Named, compare a b = .ok true →
      ∃ number, hash h a = .ok number ∧ hash h b = .ok number) ∧
    ∀ items order : List Item, (∀ x ∈ items, x.isNamed = true) → order.Perm items →
      gather h order = .ok (distinct order) ∧ (∀ y ∈ distinct order, y ∈ items) ∧
      ∀ x ∈ items, (distinct order).countP (same x) = 1 := by
  refine ⟨fun a b => ⟨_, compare_eq_ok a.2 b.2⟩, compare_equivalence, fun a b alike => ?_,
    fun items order named reordered => ?_⟩
  · obtain ⟨number, hashed⟩ := exists_hash_iff.2 a.2
    refine ⟨number, hashed, ?_⟩
    rwa [hash_eq, ← (compare_eq_true_iff a.2 b.2).1 alike, ← hash_eq]
  · have ordered : ∀ x ∈ order, x.isNamed = true := fun x member =>
      named x (reordered.mem_iff.1 member)
    refine ⟨gather_eq_distinct h ordered, ?_⟩
    rw [distinct_eq_distinctOn ordered]
    constructor
    · intro y held
      exact reordered.mem_iff.1 (mem_of_mem_distinctOn held)
    · intro x member
      rw [← countP_distinctOn key (reordered.mem_iff.2 member)]
      refine List.countP_congr fun y held => ?_
      rw [same_eq (named x member) (ordered y (mem_of_mem_distinctOn held))]
      simp only [eq_comm]

/-- Texts and rows are hashed by their lengths, so that many values have one hash. -/
def byLength : Hashing where
  text value := value.length
  kind _ := 0
  fields hashes := hashes.length

def wall : Item := entry ⟨"1", "dam", "A wall", "0"⟩

/-- A composite that holds another entry of the same id. -/
def weir : Item := composite ⟨⟨"1", "weir", "A low wall", "7"⟩, [some "Water"], []⟩

/-- With them a word as text and as labels, and a filter before and after it was verified. -/
def dams : List Item :=
  [wall, weir, text "water", tag "Water", locale "water", tag "WATER",
    filter ⟨.term, "dam", false⟩, filter ⟨.term, "dam", true⟩]

/-- Backwards, the composite is held in place of the entry, and one tag in place of the other. -/
theorem same_suits_collections_dams :
    compare wall weir = .ok true ∧ hash byLength wall = .ok 1 ∧ hash byLength weir = .ok 1 ∧
    (∀ x ∈ dams, x.isNamed = true) ∧ dams.reverse.Perm dams ∧ tag "Water" ∈ dams ∧
    gather byLength dams.reverse =
      .ok [filter ⟨.term, "dam", true⟩, tag "WATER", locale "water", text "water", weir] ∧
    (distinct dams.reverse).countP (same (tag "Water")) = 1 := by
  obtain ⟨-, -, hashed, gathered⟩ := same_suits_collections byLength
  have alike : compare wall weir = .ok true := by decide
  obtain ⟨number, first, second⟩ := hashed ⟨wall, rfl⟩ ⟨weir, rfl⟩ alike
  cases first
  have named : ∀ x ∈ dams, x.isNamed = true := by decide
  have reordered : dams.reverse.Perm dams := List.reverse_perm dams
  obtain ⟨held, -, once⟩ := gathered dams dams.reverse named reordered
  have member : tag "Water" ∈ dams := by decide
  refine ⟨alike, rfl, second, named, reordered, member, ?_, once (tag "Water") member⟩
  rw [held]
  decide

/-- A label without a name is not the same as itself: it cannot be compared, and no collection can
look for it. -/
theorem unnamed_not_same :
    compare (label .tag none) (label .tag none) = .error .absentName ∧
    compare (tag "Water") (label .tag none) = .error .absentName ∧
    hash byLength (label .tag none) = .error .absentName ∧
    gather byLength [tag "Water", label .tag none] = .error .absentName ∧
    ¬∀ x : Item, compare x x = .ok true := by
  refine ⟨rfl, rfl, rfl, rfl, fun reflexive => ?_⟩
  cases reflexive (label .tag none)

end Item

end Glossary
