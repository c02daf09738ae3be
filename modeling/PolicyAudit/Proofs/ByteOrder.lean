/-
Module: PolicyAudit.Proofs.ByteOrder
Purpose: The order of texts by characters is the order of their bytes.
Imports: Mathlib.Tactic.SplitIfs, PolicyAudit.Table
Trusted boundary: none
Main exports: Text.bytes, Text.lt_iff_bytes_lt
-/
import Mathlib.Tactic.SplitIfs
import PolicyAudit.Table

namespace PolicyAudit.Text

/-- The bytes of a text in UTF-8. -/
def bytes (s : String) : List UInt8 :=
  s.toUTF8.data.toList

theorem bytes_eq_flatMap (s : String) : bytes s = s.toList.flatMap String.utf8EncodeChar := by
  rw [bytes, String.toUTF8_eq_toByteArray, ← String.utf8Encode_toList, List.utf8Encode,
    List.toList_data_toByteArray]

/-! ### One character -/

theorem byte_lt_iff {a b : Nat} (smallA : a < 256) (smallB : b < 256) :
    UInt8.ofNat a < UInt8.ofNat b ↔ a < b := by
  rw [UInt8.lt_iff_toNat_lt, UInt8.toNat_ofNat_of_lt' smallA, UInt8.toNat_ofNat_of_lt' smallB]

theorem byte_eq_iff {a b : Nat} (smallA : a < 256) (smallB : b < 256) :
    UInt8.ofNat a = UInt8.ofNat b ↔ a = b := by
  rw [← UInt8.toNat_inj, UInt8.toNat_ofNat_of_lt' smallA, UInt8.toNat_ofNat_of_lt' smallB]

theorem codePoint_lt (c : Char) : c.val.toNat < 0x110000 := by
  have valid := c.valid
  simp only [UInt32.isValidChar, Nat.isValidChar] at valid
  omega

private theorem div_lt_or_mod_lt {m n : Nat} (less : m < n) :
    m / 64 < n / 64 ∨ m / 64 = n / 64 ∧ m % 64 < n % 64 := by
  omega

/-- Code points are ordered by their digits to the base 64, the first of which is below 8. -/
private theorem digits_lt {m n : Nat} (less : m < n) (bound : n < 0x110000) :
    m / 262144 % 8 < n / 262144 % 8 ∨ m / 262144 % 8 = n / 262144 % 8 ∧
      (m / 4096 % 64 < n / 4096 % 64 ∨ m / 4096 % 64 = n / 4096 % 64 ∧
        (m / 64 % 64 < n / 64 % 64 ∨ m / 64 % 64 = n / 64 % 64 ∧ m % 64 < n % 64)) := by
  have twice (k : Nat) : k / 4096 = k / 64 / 64 := (Nat.div_div_eq_div_mul k 64 64).symm
  have thrice (k : Nat) : k / 262144 = k / 64 / 64 / 64 := by
    rw [← twice, Nat.div_div_eq_div_mul]
  have firstM : m / 262144 < 8 := by omega
  have firstN : n / 262144 < 8 := by omega
  rw [Nat.mod_eq_of_lt firstM, Nat.mod_eq_of_lt firstN, thrice, thrice, twice, twice]
  rcases div_lt_or_mod_lt less with less | ⟨same, last⟩
  · rcases div_lt_or_mod_lt less with less | ⟨same, third⟩
    · rcases div_lt_or_mod_lt less with first | ⟨same, second⟩
      · exact .inl first
      · exact .inr ⟨same, .inl second⟩
    · exact .inr ⟨by rw [same], .inr ⟨by rw [same], .inl third⟩⟩
  · exact .inr ⟨by rw [same], .inr ⟨by rw [same], .inr ⟨by rw [same], last⟩⟩⟩

/-- The encoding of a smaller character is smaller, whatever follows. -/
theorem utf8EncodeChar_append_lt {c d : Char} (less : c < d) (r s : List UInt8) :
    String.utf8EncodeChar c ++ r < String.utf8EncodeChar d ++ s := by
  have lessCode : c.val.toNat < d.val.toNat := UInt32.lt_iff_toNat_lt.mp less
  have bound := codePoint_lt d
  have digits := digits_lt lessCode bound
  simp only [String.utf8EncodeChar]
  generalize c.val.toNat = m at *
  generalize d.val.toNat = n at *
  -- a shorter encoding starts with a smaller byte, and one of the same length has the same digits
  split_ifs <;>
    simp (disch := omega) only [List.cons_append, List.nil_append, List.cons_lt_cons_iff,
      byte_lt_iff, byte_eq_iff] <;>
    omega

/-! ### Texts -/

private theorem flatMap_utf8EncodeChar_lt {cs ds : List Char} (less : cs < ds) :
    cs.flatMap String.utf8EncodeChar < ds.flatMap String.utf8EncodeChar := by
  induction cs generalizing ds with
  | nil =>
      cases ds with
      | nil => exact absurd less (List.lt_irrefl [])
      | cons d ds =>
          rw [List.flatMap_cons, List.flatMap_nil]
          obtain ⟨first, others, encoded⟩ :=
            List.exists_cons_of_ne_nil (String.utf8EncodeChar_ne_nil (c := d))
          rw [encoded, List.cons_append]
          exact List.nil_lt_cons first _
  | cons c cs inductionHypothesis =>
      cases ds with
      | nil => exact absurd less (List.not_lt_nil _)
      | cons d ds =>
          rw [List.flatMap_cons, List.flatMap_cons]
          rcases List.cons_lt_cons_iff.mp less with smaller | ⟨rfl, further⟩
          · exact utf8EncodeChar_append_lt smaller _ _
          · exact List.append_left_lt (inductionHypothesis further)

/-- Texts are ordered as their bytes are. -/
theorem lt_iff_bytes_lt {s t : String} : s < t ↔ bytes s < bytes t := by
  have mono {s t : String} (less : s < t) : bytes s < bytes t := by
    rw [bytes_eq_flatMap, bytes_eq_flatMap]
    exact flatMap_utf8EncodeChar_lt less
  refine ⟨mono, fun less => ?_⟩
  by_cases smaller : s < t
  · exact smaller
  · rcases Decidable.em (t < s) with greater | notGreater
    · exact absurd less (List.lt_asymm (mono greater))
    · have same : s = t :=
        String.le_antisymm (String.not_lt.mp notGreater) (String.not_lt.mp smaller)
      exact absurd (same ▸ less) (List.lt_irrefl _)

end PolicyAudit.Text
