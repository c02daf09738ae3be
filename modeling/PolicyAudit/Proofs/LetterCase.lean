/-
Module: PolicyAudit.Proofs.LetterCase
Purpose: When texts are equal but for the case of ASCII letters, letter by letter.
Imports: Mathlib, PolicyAudit.Text.LowerCase
Trusted boundary: none
Main exports: Text.toLower_eq_iff, Text.map_toLower_eq_iff, Text.SameLetter, Text.SameButCase,
  Text.lowerAscii_eq_iff
-/
import Mathlib
import PolicyAudit.Text.LowerCase

namespace PolicyAudit.Text

/-! ### One text in capitals -/

theorem isUpper_iff {c : Char} : c.isUpper = true ↔ 65 ≤ c.toNat ∧ c.toNat ≤ 90 := by
  simp [Char.isUpper, UInt32.le_iff_toNat_le]

theorem toLower_of_not_isUpper {c : Char} (notUpper : ¬ c.isUpper = true) : c.toLower = c := by
  rw [Char.toLower, dif_neg]
  simpa [Char.isUpper] using notUpper

theorem toNat_toLower_of_isUpper {c : Char} (upper : c.isUpper = true) :
    c.toLower.toNat = c.toNat + 32 := by
  have shifted : c.toLower.val = c.val + 32 := by
    rw [Char.toLower, dif_pos]
    · rfl
    · simpa [Char.isUpper] using upper
  have small : c.toNat + 32 < 2 ^ 32 := by
    have bounds := isUpper_iff.mp upper
    omega
  rw [← Char.toNat_val, shifted, UInt32.toNat_add]
  exact Nat.mod_eq_of_lt small

/-- What has the lower case of a capital is that capital or its lower case. -/
theorem toLower_eq_iff {capital c : Char} (upper : capital.isUpper = true) :
    capital.toLower = c.toLower ↔ c = capital ∨ c = capital.toLower := by
  have bounds := isUpper_iff.mp upper
  simp only [← Char.toNat_inj, toNat_toLower_of_isUpper upper]
  by_cases alsoUpper : c.isUpper = true
  · rw [toNat_toLower_of_isUpper alsoUpper]
    have alsoBounds := isUpper_iff.mp alsoUpper
    omega
  · rw [toLower_of_not_isUpper alsoUpper]
    rw [isUpper_iff] at alsoUpper
    omega

theorem map_toLower_eq_iff {capitals cs : List Char} (upper : ∀ c ∈ capitals, c.isUpper = true) :
    capitals.map Char.toLower = cs.map Char.toLower ↔
      List.Forall₂ (fun capital c => c = capital ∨ c = capital.toLower) capitals cs := by
  induction capitals generalizing cs with
  | nil => cases cs <;> simp
  | cons capital capitals inductionHypothesis =>
      obtain ⟨here, further⟩ := List.forall_mem_cons.mp upper
      cases cs with
      | nil => simp
      | cons c cs =>
          rw [List.map_cons, List.map_cons, List.cons_eq_cons, toLower_eq_iff here,
            inductionHypothesis further, List.forall₂_cons]

/-! ### Any two texts -/

/-- Equal characters, or the two cases of an ASCII letter. -/
inductive SameLetter : Char → Char → Prop where
  | same (c : Char) : SameLetter c c
  | lowered {c d : Char} (capital : 'A' ≤ c ∧ c ≤ 'Z') (small : d.toNat = c.toNat + 32) :
      SameLetter c d
  | raised {c d : Char} (capital : 'A' ≤ d ∧ d ≤ 'Z') (small : c.toNat = d.toNat + 32) :
      SameLetter c d

/-- Two texts of one length, letter by letter the same but for the case. -/
def SameButCase (a b : String) : Prop :=
  List.Forall₂ SameLetter a.toList b.toList

theorem SameButCase.refl (a : String) : SameButCase a a :=
  List.forall₂_same.mpr fun c _ => .same c

theorem isUpper_iff_between {c : Char} : c.isUpper = true ↔ 'A' ≤ c ∧ c ≤ 'Z' := by
  rw [isUpper_iff]
  simp [Char.le_def, UInt32.le_iff_toNat_le]

theorem toLower_eq_of_capital {c d : Char} (capital : 'A' ≤ c ∧ c ≤ 'Z')
    (small : d.toNat = c.toNat + 32) : c.toLower = d.toLower := by
  have upper := isUpper_iff_between.mpr capital
  refine (toLower_eq_iff upper).mpr (.inr (Char.toNat_inj.mp ?_))
  rw [small, toNat_toLower_of_isUpper upper]

theorem toLower_eq_toLower_iff {c d : Char} : c.toLower = d.toLower ↔ SameLetter c d := by
  constructor
  · intro same
    by_cases upperC : c.isUpper = true
    · rcases (toLower_eq_iff upperC).mp same with rfl | rfl
      · exact .same d
      · exact .lowered (isUpper_iff_between.mp upperC) (toNat_toLower_of_isUpper upperC)
    · by_cases upperD : d.isUpper = true
      · rcases (toLower_eq_iff upperD).mp same.symm with rfl | rfl
        · exact .same c
        · exact .raised (isUpper_iff_between.mp upperD) (toNat_toLower_of_isUpper upperD)
      · rw [toLower_of_not_isUpper upperC, toLower_of_not_isUpper upperD] at same
        exact same ▸ .same c
  · rintro (_ | ⟨capital, small⟩ | ⟨capital, small⟩)
    · rfl
    · exact toLower_eq_of_capital capital small
    · exact (toLower_eq_of_capital capital small).symm

theorem lowerAscii_eq_iff {a b : String} : lowerAscii a = lowerAscii b ↔ SameButCase a b := by
  rw [lowerAscii, lowerAscii, String.ofList_inj, ← List.forall₂_eq_eq_eq,
    List.forall₂_map_left_iff, List.forall₂_map_right_iff]
  simp only [toLower_eq_toLower_iff, SameButCase]

end PolicyAudit.Text
