import Mathlib.Data.List.Forall2
import Mathlib.Tactic.SplitIfs
import SqlScribe.Text.Lowercase

/-!
# Texts in other cases

Two texts that differ only in the case of ASCII letters have the same characters in the same
places, each in its lower-case or its upper-case form.  The comparison that ignores the case of
ASCII letters holds of such texts and of no others.

Main definitions:

- `Text.Recased` relates texts that differ in the case of ASCII letters.

Main results:

- `Text.recased_iff`: which texts are equal where case is ignored.
- `Text.Recased.equals_left` and `Text.Recased.equals_right`: a changed case is not seen there.
-/

namespace SqlScribe.Text

open List (Forall₂)

/-! ## Letters -/

/-- Only ASCII capitals have another lower-case form. -/
theorem toNat_toLower (c : Char) :
    c.toLower.toNat = if 65 ≤ c.toNat ∧ c.toNat ≤ 90 then c.toNat + 32 else c.toNat := by
  have hrange : ('A'.val ≤ c.val ∧ c.val ≤ 'Z'.val) ↔ 65 ≤ c.toNat ∧ c.toNat ≤ 90 := Iff.rfl
  by_cases hupper : 'A'.val ≤ c.val ∧ c.val ≤ 'Z'.val
  · have hle : c.toNat ≤ 90 := (hrange.mp hupper).2
    have hlower : c.toLower = _ := dif_pos hupper
    rw [if_pos (hrange.mp hupper), hlower]
    change (c.val + 32).toNat = c.val.toNat + 32
    rw [UInt32.toNat_add]
    exact Nat.mod_eq_of_lt (by simp; omega)
  · have hsame : c.toLower = c := dif_neg hupper
    rw [if_neg (hrange.not.mp hupper), hsame]

/-- Only small ASCII letters have another upper-case form. -/
theorem toNat_toUpper (c : Char) :
    c.toUpper.toNat = if 97 ≤ c.toNat ∧ c.toNat ≤ 122 then c.toNat - 32 else c.toNat := by
  have hrange : ('a'.val ≤ c.val ∧ c.val ≤ 'z'.val) ↔ 97 ≤ c.toNat ∧ c.toNat ≤ 122 := Iff.rfl
  by_cases hlower : 'a'.val ≤ c.val ∧ c.val ≤ 'z'.val
  · have hbounds := hrange.mp hlower
    have hupper : c.toUpper = _ := dif_pos hlower
    rw [if_pos hbounds, hupper]
    -- Subtracting the distance between the cases is adding its complement.
    change (c.val + 4294967264).toNat = c.val.toNat - 32
    rw [UInt32.toNat_add]
    simp
    omega
  · have hsame : c.toUpper = c := dif_neg hlower
    rw [if_neg (hrange.not.mp hlower), hsame]

/-- Capitals have the lower-case letter that they had before. -/
theorem toLower_toUpper (c : Char) : c.toUpper.toLower = c.toLower := by
  apply Char.toNat_inj.mp
  rw [toNat_toLower, toNat_toLower, toNat_toUpper]
  split_ifs <;> omega

theorem toLower_toLower (c : Char) : c.toLower.toLower = c.toLower := by
  apply Char.toNat_inj.mp
  rw [toNat_toLower, toNat_toLower]
  split_ifs <;> omega

/-- A character may change its case if it is an ASCII letter. -/
def sameLetter (c d : Char) : Prop := d = c ∨ d = c.toLower ∨ d = c.toUpper

/-- Letters are the same if and only if they have one lower-case form. -/
theorem sameLetter_iff {c d : Char} : sameLetter c d ↔ c.toLower = d.toLower := by
  constructor
  · rintro (rfl | rfl | rfl)
    · rfl
    · exact (toLower_toLower c).symm
    · exact (toLower_toUpper c).symm
  · intro hlower
    have hcodes := congrArg Char.toNat hlower
    simp only [toNat_toLower] at hcodes
    simp only [sameLetter, ← Char.toNat_inj, toNat_toLower, toNat_toUpper]
    split_ifs at hcodes ⊢ <;> omega

/-! ## Texts -/

/-- A text in which the case of some ASCII letters is changed. -/
def Recased (a b : String) : Prop := Forall₂ sameLetter a.toList b.toList

instance (c d : Char) : Decidable (sameLetter c d) :=
  inferInstanceAs (Decidable (d = c ∨ d = c.toLower ∨ d = c.toUpper))

instance (a b : String) : Decidable (Recased a b) :=
  inferInstanceAs (Decidable (Forall₂ sameLetter a.toList b.toList))

@[refl] theorem Recased.refl (a : String) : Recased a a :=
  List.forall₂_same.mpr fun _ _ => .inl rfl

/-- Texts change their case part by part. -/
theorem Recased.append {a a' b b' : String} (ha : Recased a a') (hb : Recased b b') :
    Recased (a ++ b) (a' ++ b') := by
  unfold Recased
  rw [String.toList_append, String.toList_append]
  exact List.rel_append ha hb

/-- Texts differ in the case of some letters if and only if they are equal where case is
ignored. -/
theorem recased_iff {a b : String} : Recased a b ↔ foldAsciiCase a = foldAsciiCase b := by
  have hletters : sameLetter = fun c d => c.toLower = d.toLower := by
    funext c d
    exact propext sameLetter_iff
  rw [Recased, hletters, foldAsciiCase, foldAsciiCase, ← List.forall₂_eq_eq_eq,
    List.forall₂_map_left_iff, List.forall₂_map_right_iff]

/-- A changed case is not seen where case is ignored. -/
theorem Recased.foldAsciiCase_eq {a b : String} (hab : Recased a b) :
    foldAsciiCase b = foldAsciiCase a := (recased_iff.mp hab).symm

theorem Recased.equals_left {a b : String} (hab : Recased a b) (c : String) :
    equalsIgnoringAsciiCase b c = equalsIgnoringAsciiCase a c := by
  rw [equalsIgnoringAsciiCase, equalsIgnoringAsciiCase, hab.foldAsciiCase_eq]

theorem Recased.equals_right {a b : String} (hab : Recased a b) (c : String) :
    equalsIgnoringAsciiCase c b = equalsIgnoringAsciiCase c a := by
  rw [equalsIgnoringAsciiCase, equalsIgnoringAsciiCase, hab.foldAsciiCase_eq]

end SqlScribe.Text
