import KernelClient.Proofs.Message.RoundTrip
import Mathlib.Data.Char
import Mathlib.Data.List.Lex
import Mathlib.Tactic.SplitIfs

/-!
# Texts in byte order

Texts are ordered by their characters. The bytes of texts are in the same order: of two characters
the greater one has the greater bytes, whatever follows them.
-/

namespace KernelClient.Frame

theorem ofNat_cons_lt_cons_iff {least most : Nat} (small : least < 256) (large : most < 256)
    (left right : Bytes) :
    UInt8.ofNat least :: left < UInt8.ofNat most :: right ↔
      least < most ∨ least = most ∧ left < right := by
  rw [List.cons_lt_cons_iff, UInt8.lt_iff_toNat_lt, ← UInt8.toNat_inj, UInt8.toNat_ofNat',
    UInt8.toNat_ofNat', Nat.mod_eq_of_lt small, Nat.mod_eq_of_lt large]

theorem char_toNat_lt (character : Char) : character.val.toNat < 1114112 := by
  rcases character.valid with low | high
  · exact Nat.lt_trans low (by decide)
  · exact high.2

/-- A greater character has greater bytes. More bytes begin with a greater one, and as many hold the
digits of the character, the highest first. -/
theorem utf8EncodeChar_append_lt {lower upper : Char} (less : lower < upper)
    (left right : Bytes) :
    String.utf8EncodeChar lower ++ left < String.utf8EncodeChar upper ++ right := by
  have below : lower.val.toNat < upper.val.toNat := less
  have bound := char_toNat_lt upper
  have twice (value : Nat) : value / 4096 = value / 64 / 64 :=
    (Nat.div_div_eq_div_mul value 64 64).symm
  have thrice (value : Nat) : value / 262144 = value / 64 / 64 / 64 := by
    rw [Nat.div_div_eq_div_mul, Nat.div_div_eq_div_mul]
  simp only [String.utf8EncodeChar, twice, thrice]
  generalize lower.val.toNat = least at *
  generalize upper.val.toNat = most at *
  -- The cases in which the greater character has fewer bytes contradict the bounds.
  split_ifs <;> try (exfalso; omega)
  all_goals simp only [List.cons_append, List.nil_append]
  all_goals repeat rw [ofNat_cons_lt_cons_iff (by omega) (by omega)]
  all_goals omega

theorem flatMap_utf8EncodeChar_lt {left right : List Char} (less : left < right) :
    left.flatMap String.utf8EncodeChar < right.flatMap String.utf8EncodeChar := by
  induction left generalizing right with
  | nil =>
      cases right with
      | nil => exact absurd less (List.lt_irrefl _)
      | cons upper right =>
          obtain ⟨first, rest, encoded⟩ :=
            List.exists_cons_of_ne_nil (String.utf8EncodeChar_ne_nil (c := upper))
          rw [List.flatMap_nil, List.flatMap_cons, encoded]
          exact List.nil_lt_cons _ _
  | cons lower left ih =>
      cases right with
      | nil => exact absurd less (List.not_lt_nil _)
      | cons upper right =>
          rw [List.flatMap_cons, List.flatMap_cons]
          rcases List.cons_lt_cons_iff.mp less with greater | ⟨rfl, behind⟩
          · exact utf8EncodeChar_append_lt greater _ _
          · exact List.append_left_lt (ih behind)

/-- Different characters have different bytes, whatever follows them. -/
theorem flatMap_utf8EncodeChar_injective {left right : List Char}
    (same : left.flatMap String.utf8EncodeChar = right.flatMap String.utf8EncodeChar) :
    left = right := by
  rcases lt_trichotomy left right with less | equal | greater
  · exact absurd (same ▸ flatMap_utf8EncodeChar_lt less) (List.lt_irrefl _)
  · exact equal
  · exact absurd (same ▸ flatMap_utf8EncodeChar_lt greater) (List.lt_irrefl _)

/-- A greater text has greater bytes. -/
theorem utf8_lt_utf8 {left right : String} (less : left < right) : utf8 left < utf8 right := by
  have ordered := flatMap_utf8EncodeChar_lt (show left.toList < right.toList from less)
  rwa [← utf8_ofList, ← utf8_ofList, String.ofList_toList, String.ofList_toList] at ordered

end KernelClient.Frame
