import Glossary.Text.Blank

set_option autoImplicit false

namespace Glossary.Text

/-- There is no white space at the ends of the text. -/
def Trimmed (s : String) : Prop :=
  (∀ c ∈ s.toList.head?, isBlank c = false) ∧ ∀ c ∈ s.toList.getLast?, isBlank c = false

theorem head?_dropWhile (drop : Char → Bool) (s : List Char) :
    ∀ c ∈ (s.dropWhile drop).head?, drop c = false := by
  intro c first
  have kept := List.head?_dropWhile_not drop s
  rw [Option.mem_def.1 first] at kept
  simpa using kept

/-- Dropping characters in front keeps the last character, if any is left. -/
theorem mem_getLast?_of_dropWhile {drop : Char → Bool} {s : List Char} {c : Char}
    (last : c ∈ (s.dropWhile drop).getLast?) : c ∈ s.getLast? := by
  obtain ⟨front, whole⟩ := List.dropWhile_suffix (l := s) drop
  rw [← whole, List.getLast?_append, Option.mem_def.1 last]
  rfl

theorem trimmed_trim (s : String) : Trimmed (trim s) := by
  rw [Trimmed, trim, String.toList_ofList, trimChars, List.head?_reverse, List.getLast?_reverse]
  refine ⟨fun c first => ?_, head?_dropWhile isBlank _⟩
  have front := mem_getLast?_of_dropWhile first
  rw [List.getLast?_reverse] at front
  exact head?_dropWhile isBlank _ c front

theorem mem_of_mem_trim {s : String} {c : Char} (member : c ∈ (trim s).toList) : c ∈ s.toList := by
  rw [trim, String.toList_ofList, trimChars, List.mem_reverse] at member
  have inner := List.mem_reverse.1 ((List.dropWhile_sublist isBlank).mem member)
  exact (List.dropWhile_sublist isBlank).mem inner

end Glossary.Text
