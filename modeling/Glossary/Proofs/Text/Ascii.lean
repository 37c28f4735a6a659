import Glossary.Database.Lookup
import Glossary.Proofs.EditDistance

set_option autoImplicit false

namespace Glossary

namespace Text

/-- There is no letter in the text that is lowered otherwise in its context than on its own. -/
def ContextFree (s : String) : Prop := 'Σ' ∉ s.toList ∧ 'İ' ∉ s.toList

theorem lower_of_contextFree {s : String} (free : ContextFree s) : lower s = lowerEach s := by
  rw [lower, lowerEach, lowerFrom_eq_lowerEachChar _ _ free.1 free.2]

/-- Every character is an ASCII character. -/
def Ascii (s : String) : Prop := ∀ c ∈ s.toList, c.toNat < 128

instance (s : String) : Decidable (Ascii s) := s.toList.decidableBAll _

theorem lower_of_ascii {s : String} (ascii : Ascii s) : lower s = lowerEach s := by
  have noSigma : 'Σ' ∉ s.toList := fun member => absurd (ascii _ member) (by decide)
  have noDotted : 'İ' ∉ s.toList := fun member => absurd (ascii _ member) (by decide)
  exact lower_of_contextFree ⟨noSigma, noDotted⟩

theorem utf8_of_ascii {s : List Char} (ascii : ∀ c ∈ s, c.toNat < 128) :
    utf8 s = s.map fun c => c.val.toUInt8 := by
  induction s with
  | nil => rfl
  | cons c rest ih =>
      have small : c.utf8Size = 1 := by
        have below : c.val.toNat < 128 := ascii c List.mem_cons_self
        have limit : (127 : UInt32).toNat = 127 := rfl
        rw [Char.utf8Size_eq_one_iff, UInt32.le_iff_toNat_le]
        omega
      rw [utf8_cons, ih fun d member => ascii d (List.mem_cons_of_mem c member),
        String.utf8EncodeChar_eq_singleton small, List.map_cons, List.singleton_append]

theorem eq_of_toUInt8 {c d : Char} (first : c.toNat < 128) (second : d.toNat < 128)
    (same : c.val.toUInt8 = d.val.toUInt8) : c = d := by
  have left : c.val.toNat < 128 := first
  have right : d.val.toNat < 128 := second
  have bytes := congrArg UInt8.toNat same
  rw [UInt32.toNat_toUInt8, UInt32.toNat_toUInt8] at bytes
  refine Char.toNat_inj.1 ?_
  rw [Char.toNat, Char.toNat]
  omega

end Text

theorem byteDistance_of_ascii {a b : String} (first : Text.Ascii a) (second : Text.Ascii b) :
    byteDistance a b = textDistance a b := by
  rw [byteDistance, textDistance, editDistance_eq_distance, editDistance_eq_distance,
    Text.utf8_of_ascii first, Text.utf8_of_ascii second]
  exact distance_map fun c inA d inB same => Text.eq_of_toUInt8 (first c inA) (second d inB) same

end Glossary
