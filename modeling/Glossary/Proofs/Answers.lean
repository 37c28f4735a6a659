set_option autoImplicit false

namespace Glossary

variable {ε α β : Type} {answer : Except ε α}

theorem map_eq_ok_iff {f : α → β} {b : β} :
    answer.map f = .ok b ↔ ∃ a, answer = .ok a ∧ f a = b := by
  cases answer <;> simp [Except.map]

theorem map_eq_error_iff {f : α → β} {why : ε} :
    answer.map f = .error why ↔ answer = .error why := by
  cases answer <;> simp [Except.map]

theorem bind_eq_ok_iff {f : α → Except ε β} {b : β} :
    answer.bind f = .ok b ↔ ∃ a, answer = .ok a ∧ f a = .ok b := by
  cases answer <;> simp [Except.bind]

end Glossary
