import Glossary.Proofs.Search.Stages

set_option autoImplicit false

namespace Glossary

/-- A store over time: the store that answers a call, by the number of calls before it. -/
def Course := Nat → Store

/-- What a question comes to, and the number of calls by the end of it. -/
structure Reply (α : Type) where
  answer : Except Fault α
  calls : Nat

/-- How far a search has come: its calls so far, and its list of failures, if it was given one. -/
structure Progress where
  calls : Nat
  failures : Option (List Failure)

namespace Progress

def reach (p : Progress) (calls : Nat) : Progress := { p with calls := calls }

def note (p : Progress) (failure : Failure) : Progress :=
  { p with failures := p.failures.map (· ++ [failure]) }

end Progress

section Asking

variable {β α : Type} (ask : β → Nat → Reply α) (recorded : Fault → Bool)
  (failure : β → Fault → Failure)

/-- Asks about every item in turn. A fault that is recorded is noted and leaves its item without an
answer; any other fault is the end. -/
def askAll : List β → Progress → Except Fault (List α) × Progress
  | [], p => (.ok [], p)
  | x :: rest, p =>
    let reply := ask x p.calls
    match reply.answer with
    | .ok a =>
      let later := askAll rest (p.reach reply.calls)
      (later.1.map (a :: ·), later.2)
    | .error fault =>
      if recorded fault then askAll rest ((p.reach reply.calls).note (failure x fault))
      else (.error fault, p.reach reply.calls)

/-- The items, each with the number of calls before the question about it. -/
def asked : List β → Nat → List (β × Nat)
  | [], _ => []
  | x :: rest, n => (x, n) :: asked rest (ask x n).calls

/-- The number of calls by the end of all questions. -/
def askedBy : List β → Nat → Nat
  | [], n => n
  | x :: rest, n => askedBy rest (ask x n).calls

/-- The answers that the questions came to. -/
def gained (questions : List (β × Nat)) : List α :=
  questions.filterMap fun q => (ask q.1 q.2).answer.toOption

/-- The failure of a question. -/
def loss? (q : β × Nat) : Option Failure :=
  match (ask q.1 q.2).answer with
  | .ok _ => none
  | .error fault => some (failure q.1 fault)

variable {ask failure}

theorem map_asked (items : List β) (n : Nat) : (asked ask items n).map (·.1) = items := by
  induction items generalizing n with
  | nil => rfl
  | cons x rest ih => rw [asked, List.map_cons, ih]

theorem mem_gained_iff {questions : List (β × Nat)} {a : α} :
    a ∈ gained ask questions ↔ ∃ q ∈ questions, (ask q.1 q.2).answer = .ok a := by
  rw [gained, List.mem_filterMap]
  refine exists_congr fun q => and_congr_right fun _ => ?_
  cases (ask q.1 q.2).answer <;> simp [Except.toOption]

theorem loss_iff {q : β × Nat} {lost : Failure} :
    loss? ask failure q = some lost ↔
      ∃ fault, (ask q.1 q.2).answer = .error fault ∧ lost = failure q.1 fault := by
  unfold loss?
  cases (ask q.1 q.2).answer <;> simp [eq_comm]

variable (ask failure)

/-- Where every fault is recorded, all questions are put, and every one comes either to an answer
or to a failure. The list of failures, if there is one, is only added to. -/
theorem askAll_eq
    (records : ∀ x n fault, (ask x n).answer = .error fault → recorded fault = true)
    (items : List β) (n : Nat) (known : Option (List Failure)) :
    askAll ask recorded failure items ⟨n, known⟩ =
      (.ok (gained ask (asked ask items n)),
        ⟨askedBy ask items n,
          known.map (· ++ (asked ask items n).filterMap (loss? ask failure))⟩) := by
  induction items generalizing n known with
  | nil => cases known <;> simp [askAll, askedBy, asked, gained]
  | cons x rest ih =>
      rw [askAll, asked, askedBy, gained, List.filterMap_cons, List.filterMap_cons, loss?]
      cases answer : (ask x n).answer with
      | ok a =>
          simp only [Progress.reach, ih]
          rfl
      | error fault =>
          have noted := records x n fault answer
          simp only [Progress.reach, Progress.note, noted, ↓reduceIte, ih, Option.map_map]
          cases known with
          | none => rfl
          | some before => simp [gained, Except.toOption]

end Asking

namespace Course

def still (s : Store) : Course := fun _ => s

def firstEntries (c : Course) : List String → Nat → Reply (List Entry)
  | [], n => ⟨.ok [], n⟩
  | term :: rest, n =>
    match (c n).definitions.firstForTerm term with
    | .error fault => ⟨.error fault, n + 1⟩
    | .ok found =>
      let later := c.firstEntries rest (n + 1)
      ⟨later.answer.map (found.toList ++ ·), later.calls⟩

def closeEntries (c : Course) (text : String) (maxDistance : Int) (n : Nat) : Reply (List Entry) :=
  if text = "" then ⟨.error .emptyTerm, n⟩
  else
    match (c n).definitions.termsWithin text maxDistance with
    | .error fault => ⟨.error fault, n + 1⟩
    | .ok terms => c.firstEntries terms (n + 1)

/-- The entries that a filter yields on its own, looked up after `n` calls. -/
def yield (c : Course) (m : Matching) (f : Filter) (n : Nat) : Reply (List Entry) :=
  match f.kind with
  | .definition => ⟨(c n).definitions.byDefinition f.text, n + 1⟩
  | .label kind => ⟨((c n).labels kind).entriesWith f.text, n + 1⟩
  | .term =>
    match m.termMatch with
    | .substring => ⟨(c n).definitions.byTerm f.text, n + 1⟩
    | .fuzzy => c.closeEntries f.text m.maxDistance n

def composite (c : Course) (e : Entry) (n : Nat) : Reply Composite :=
  match (c n).tags.namesOf e.id with
  | .error fault => ⟨.error fault, n + 1⟩
  | .ok tags => ⟨((c (n + 1)).locales.namesOf e.id).map (⟨e, tags, ·⟩), n + 2⟩

/-- The entries that satisfy every filter. The candidates are a set: `arrange` is the order in
which the search walks through them. -/
def find (c : Course) (m : Matching) (arrange : List Entry → List Entry) (filters : List Filter)
    (p : Progress) : Except Fault (List Entry) × Progress :=
  match askAll (c.yield m) Fault.isRecorded .retrieve filters p with
  | (.error fault, p) => (.error fault, p)
  | (.ok found, p) =>
    match askAll c.composite Fault.isOutage (fun e => .assemble e.id)
        (arrange (Entry.distinct found.flatten)) p with
    | (.error fault, p) => (.error fault, p)
    | (.ok composites, p) => (m.narrow composites filters, p)

theorem firstEntries_still (s : Store) (terms : List String) (n : Nat) :
    ((still s).firstEntries terms n).answer = s.firstEntries terms := by
  induction terms generalizing n with
  | nil => rfl
  | cons term rest ih =>
      rw [firstEntries, Store.firstEntries, ← ih (n + 1)]
      simp only [still]
      cases s.definitions.firstForTerm term <;> rfl

theorem yield_still (s : Store) (m : Matching) (f : Filter) (n : Nat) :
    ((still s).yield m f n).answer = s.yield m f := by
  unfold yield Store.yield
  cases f.kind with
  | definition => rfl
  | label kind => rfl
  | term =>
      cases m.termMatch with
      | substring => rfl
      | fuzzy =>
          simp only [closeEntries, Store.closeEntries]
          split
          · rfl
          · simp only [still]
            cases s.definitions.termsWithin f.text m.maxDistance with
            | error fault => rfl
            | ok terms => exact firstEntries_still s terms (n + 1)

theorem composite_still (s : Store) (e : Entry) (n : Nat) :
    ((still s).composite e n).answer = s.composite e := by
  simp only [composite, Store.composite, still]
  cases s.tags.namesOf e.id with
  | error fault => rfl
  | ok tags => cases s.locales.namesOf e.id <;> rfl

theorem askAll_yield_still (s : Store) (m : Matching) (filters : List Filter) (n : Nat)
    (known : List Failure) :
    ∃ found calls, askAll ((still s).yield m) Fault.isRecorded .retrieve filters ⟨n, some known⟩ =
        (found, ⟨calls, some (known ++ (s.yieldAll m filters).recorded)⟩) ∧
      (s.yieldAll m filters).result = found.map List.flatten := by
  induction filters generalizing n known with
  | nil => exact ⟨.ok [], n, by simp [askAll, Store.yieldAll], rfl⟩
  | cons f rest ih =>
      rw [askAll, Store.yieldAll]
      simp only [yield_still]
      cases s.yield m f with
      | ok entries =>
          obtain ⟨found, calls, run, result⟩ := ih ((still s).yield m f n).calls known
          refine ⟨found.map (entries :: ·), calls, ?_, ?_⟩
          · simp only [Progress.reach, run]
          · simp only [result]
            cases found <;> rfl
      | error fault =>
          cases noted : fault.isRecorded with
          | false =>
              exact ⟨.error fault, ((still s).yield m f n).calls, by simp [Progress.reach, noted],
                by simp [noted, Except.map]⟩
          | true =>
              obtain ⟨found, calls, run, result⟩ :=
                ih ((still s).yield m f n).calls (known ++ [.retrieve f fault])
              refine ⟨found, calls, ?_, ?_⟩
              · simp [Progress.reach, Progress.note, noted, run]
              · simp [noted, result]

theorem askAll_composite_still (s : Store) (entries : List Entry) (n : Nat)
    (known : List Failure) :
    ∃ calls, askAll (still s).composite Fault.isOutage (fun e => .assemble e.id) entries
        ⟨n, some known⟩ =
      ((s.assemble entries).result, ⟨calls, some (known ++ (s.assemble entries).recorded)⟩) := by
  induction entries generalizing n known with
  | nil => exact ⟨n, by simp [askAll, Store.assemble]⟩
  | cons e rest ih =>
      rw [askAll, Store.assemble]
      simp only [composite_still]
      cases s.composite e with
      | ok c =>
          obtain ⟨calls, run⟩ := ih ((still s).composite e n).calls known
          refine ⟨calls, ?_⟩
          simp only [Progress.reach, run]
      | error fault =>
          cases noted : fault.isOutage with
          | false => exact ⟨((still s).composite e n).calls, by simp [Progress.reach, noted]⟩
          | true =>
              obtain ⟨calls, run⟩ :=
                ih ((still s).composite e n).calls (known ++ [.assemble e.id fault])
              refine ⟨calls, ?_⟩
              simp [Progress.reach, Progress.note, noted, run]

end Course

/-- The search of a store is the search over the course that stays at it. -/
theorem Store.find_eq_still (s : Store) (m : Matching) (filters : List Filter) (n : Nat) :
    (s.find m filters).result =
      let run := (Course.still s).find m id filters ⟨n, some []⟩
      run.1.map (·, run.2.failures.getD []) := by
  obtain ⟨found, calls, retrieved, result⟩ := Course.askAll_yield_still s m filters n []
  simp only [Course.find, retrieved, Store.find, Store.retrieve, result]
  cases found with
  | error fault => rfl
  | ok found =>
      obtain ⟨calls, assembled⟩ := Course.askAll_composite_still s
        (Entry.distinct found.flatten) calls ([] ++ (s.yieldAll m filters).recorded)
      simp only [id, assembled, Except.map]
      cases (s.assemble (Entry.distinct found.flatten)).result <;> simp [Except.bind]

end Glossary
