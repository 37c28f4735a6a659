set_option autoImplicit false

namespace Glossary.Text

/-- The bytes of a list of characters, one to four for each. -/
def utf8 (s : List Char) : List UInt8 := s.flatMap String.utf8EncodeChar

@[simp] theorem utf8_cons (c : Char) (s : List Char) :
    utf8 (c :: s) = String.utf8EncodeChar c ++ utf8 s := by
  simp only [utf8, List.flatMap_cons]

end Glossary.Text
