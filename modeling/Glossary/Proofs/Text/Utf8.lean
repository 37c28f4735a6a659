import Mathlib.Tactic.SplitIfs
import Glossary.Text.Utf8

set_option autoImplicit false

namespace Glossary.Text

/-- The bytes of a character: a first one, and others that are first in no character. -/
structure Encodes (c : Char) (lead : UInt8) (trail : List UInt8) : Prop where
  bytes : String.utf8EncodeChar c = lead :: trail
  leading : lead.IsUTF8FirstByte
  trailing : ∀ b ∈ trail, ¬ b.IsUTF8FirstByte

theorem exists_encodes (c : Char) : ∃ lead trail, Encodes c lead trail := by
  cases bytes : String.utf8EncodeChar c with
  | nil => exact absurd bytes String.utf8EncodeChar_ne_nil
  | cons lead trail =>
      refine ⟨lead, trail, bytes, ?_, fun b member => ?_⟩
      · have first := @UInt8.isUTF8FirstByte_getElem_zero_utf8EncodeChar c
        simpa only [bytes, List.getElem_cons_zero] using first
      · obtain ⟨i, inside, rfl⟩ := List.mem_iff_getElem.1 member
        have later := @UInt8.isUTF8FirstByte_getElem_utf8EncodeChar c (i + 1)
          (by rw [bytes, List.length_cons]; omega)
        simp only [bytes, List.getElem_cons_succ] at later
        exact fun first => absurd (later.1 first) (Nat.succ_ne_zero i)

theorem decode_utf8EncodeChar (c : Char) :
    (String.utf8EncodeChar c).toByteArray.utf8DecodeChar? 0 = some c := by
  have decoded := @ByteArray.utf8DecodeChar?_utf8EncodeChar_append ByteArray.empty c
  rwa [ByteArray.append_empty] at decoded

/-- The first byte tells how many bytes the character has. -/
theorem utf8Size_eq {c : Char} {lead : UInt8} {trail : List UInt8}
    (bytes : String.utf8EncodeChar c = lead :: trail) (leading : lead.IsUTF8FirstByte) :
    c.utf8Size = lead.utf8ByteSize leading := by
  have decoded := decode_utf8EncodeChar c
  have some : ((String.utf8EncodeChar c).toByteArray.utf8DecodeChar? 0).isSome = true := by
    rw [decoded]
    rfl
  have same : (String.utf8EncodeChar c).toByteArray.utf8DecodeChar 0 some = c := by
    simp only [ByteArray.utf8DecodeChar, decoded, Option.get_some]
  have size := @ByteArray.utf8Size_utf8DecodeChar _ _ some
  rw [same] at size
  simpa only [List.getElem_toByteArray, bytes, List.getElem_cons_zero] using size

namespace Encodes

variable {c d : Char} {lead : UInt8} {trail other : List UInt8}

theorem length_eq (one : Encodes c lead trail) (two : Encodes d lead other) :
    trail.length = other.length := by
  have first := String.length_utf8EncodeChar c
  have second := String.length_utf8EncodeChar d
  rw [utf8Size_eq one.bytes one.leading, one.bytes, List.length_cons] at first
  rw [utf8Size_eq two.bytes two.leading, two.bytes, List.length_cons] at second
  omega

theorem char_eq (one : Encodes c lead trail) (two : Encodes d lead trail) : c = d := by
  have decoded := decode_utf8EncodeChar c
  rw [one.bytes, ← two.bytes, decode_utf8EncodeChar] at decoded
  exact (Option.some.inj decoded).symm

end Encodes

/-- The bytes of a text from some place on: what is left of a character that began before, and then
whole characters. -/
structure EncodedTail (bytes left : List UInt8) (rest : List Char) : Prop where
  split : bytes = left ++ utf8 rest
  trailing : ∀ b ∈ left, ¬ b.IsUTF8FirstByte

namespace EncodedTail

variable {b : UInt8} {bytes left : List UInt8} {rest : List Char}

theorem whole (rest : List Char) : EncodedTail (utf8 rest) [] rest := ⟨rfl, nofun⟩

/-- A byte goes on with the character that was cut, or begins another. -/
theorem cons_cases (tail : EncodedTail (b :: bytes) left rest) :
    (∃ left', left = b :: left' ∧ ¬ b.IsUTF8FirstByte ∧ EncodedTail bytes left' rest) ∨
      ∃ c trail rest', left = [] ∧ rest = c :: rest' ∧ Encodes c b trail ∧
        EncodedTail bytes trail rest' := by
  obtain ⟨split, trailing⟩ := tail
  cases left with
  | cons x left =>
      obtain ⟨rfl, behind⟩ := List.cons.inj split
      obtain ⟨here, later⟩ := List.forall_mem_cons.1 trailing
      exact Or.inl ⟨left, rfl, here, behind, later⟩
  | nil =>
      cases rest with
      | nil => cases split
      | cons c rest =>
          obtain ⟨lead, trail, encodes⟩ := exists_encodes c
          rw [List.nil_append, utf8_cons, encodes.bytes] at split
          obtain ⟨rfl, behind⟩ := List.cons.inj split
          exact Or.inr ⟨c, trail, rest, rfl, rfl, encodes, behind, encodes.trailing⟩

theorem eq_nil (tail : EncodedTail [] left rest) : left = [] ∧ rest = [] := by
  obtain ⟨none, nothing⟩ := List.append_eq_nil_iff.1 tail.split.symm
  refine ⟨none, ?_⟩
  cases rest with
  | nil => rfl
  | cons c rest =>
      rw [utf8_cons] at nothing
      exact absurd (List.append_eq_nil_iff.1 nothing).1 String.utf8EncodeChar_ne_nil

theorem length_le (tail : EncodedTail bytes left rest) : rest.length ≤ bytes.length := by
  induction bytes generalizing left rest with
  | nil =>
      rw [tail.eq_nil.2]
      exact Nat.le_refl 0
  | cons b bytes ih =>
      rw [List.length_cons]
      rcases tail.cons_cases with ⟨left, -, -, later⟩ | ⟨c, trail, rest, -, rfl, -, later⟩
      · exact Nat.le_succ_of_le (ih later)
      · exact Nat.succ_le_succ (ih later)

end EncodedTail

theorem toNat_val_lt (c : Char) : c.val.toNat < 1114112 := by
  rcases c.valid with low | ⟨-, high⟩
  · omega
  · exact high

/-- Of two characters the one with the greater code has the greater bytes: a longer encoding has a
greater first byte, and those of one length hold digits to the base 64, the highest first. -/
theorem utf8EncodeChar_append_lt {c d : Char} (below : c < d) (s t : List UInt8) :
    String.utf8EncodeChar c ++ s < String.utf8EncodeChar d ++ t := by
  have less : c.val.toNat < d.val.toNat := below
  have limit := toNat_val_lt d
  have twice : ∀ n, n / 4096 = n / 64 / 64 := fun n => (Nat.div_div_eq_div_mul n 64 64).symm
  have thrice : ∀ n, n / 262144 = n / 64 / 64 / 64 := fun n => by
    rw [Nat.div_div_eq_div_mul, Nat.div_div_eq_div_mul]
  rw [String.utf8EncodeChar, String.utf8EncodeChar, twice, twice, thrice, thrice]
  split_ifs <;> simp only [List.cons_append, List.cons_lt_cons_iff, UInt8.lt_iff_toNat_lt,
    ← UInt8.toNat_inj, UInt8.toNat_ofNat'] <;> omega

theorem utf8_lt_utf8 {s t : List Char} (below : s < t) : utf8 s < utf8 t := by
  induction t generalizing s with
  | nil => exact absurd below (List.not_lt_nil s)
  | cons d t ih =>
      rw [utf8_cons]
      cases s with
      | nil =>
          obtain ⟨lead, trail, encodes⟩ := exists_encodes d
          rw [encodes.bytes]
          exact List.nil_lt_cons lead (trail ++ utf8 t)
      | cons c s =>
          rw [utf8_cons]
          rcases List.cons_lt_cons_iff.1 below with less | ⟨rfl, rest⟩
          · exact utf8EncodeChar_append_lt less (utf8 s) (utf8 t)
          · exact List.append_left_lt (ih rest)

/-- Texts are in the order of their characters exactly if they are in that of their bytes. -/
theorem utf8_lt_utf8_iff {s t : List Char} : utf8 s < utf8 t ↔ s < t := by
  refine ⟨fun below => List.not_le.1 fun above => ?_, utf8_lt_utf8⟩
  by_cases same : s = t
  · rw [same] at below
    exact List.lt_irrefl (utf8 t) below
  · have more : t < s := List.not_le.1 fun under => same (List.le_antisymm under above)
    exact List.lt_asymm below (utf8_lt_utf8 more)

end Glossary.Text
