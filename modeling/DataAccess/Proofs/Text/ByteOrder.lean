import DataAccess.Text.Basic
import Mathlib.Data.List.Perm.Basic

/-!
# The byte order of texts

The byte order is total, and different texts are never level in it. So different texts can stand in
byte order in one way only (`eq_of_pairwise_precedes`).
-/

namespace DataAccess.Text

theorem isUpTo_total (left right : List Char) : isUpTo left right || isUpTo right left := by
  induction left generalizing right with
  | nil => rfl
  | cons c left ih =>
      cases right with
      | nil => rfl
      | cons d right =>
          simp only [isUpTo, Bool.or_eq_true, Bool.and_eq_true, decide_eq_true_eq, beq_iff_eq]
          rcases Nat.lt_trichotomy c.toNat d.toNat with smaller | same | larger
          · exact Or.inl (Or.inl smaller)
          · have chars : c = d := Char.toNat_inj.mp same
            subst chars
            rcases Bool.or_eq_true_iff.mp (ih right) with upTo | upTo
            · exact Or.inl (Or.inr ⟨rfl, upTo⟩)
            · exact Or.inr (Or.inr ⟨rfl, upTo⟩)
          · exact Or.inr (Or.inl larger)

theorem isUpTo_trans {first second third : List Char} (here : isUpTo first second = true)
    (there : isUpTo second third = true) : isUpTo first third = true := by
  induction first generalizing second third with
  | nil => rfl
  | cons c first ih =>
      cases second with
      | nil => cases here
      | cons d second =>
          cases third with
          | nil => cases there
          | cons e third =>
              simp only [isUpTo, Bool.or_eq_true, Bool.and_eq_true, decide_eq_true_eq,
                beq_iff_eq] at here there ⊢
              rcases here with smaller | ⟨rfl, here⟩
              · rcases there with smallerToo | ⟨rfl, -⟩
                · exact Or.inl (Nat.lt_trans smaller smallerToo)
                · exact Or.inl smaller
              · rcases there with smaller | ⟨rfl, there⟩
                · exact Or.inl smaller
                · exact Or.inr ⟨rfl, ih here there⟩

theorem isUpTo_antisymm {left right : List Char} (here : isUpTo left right = true)
    (there : isUpTo right left = true) : left = right := by
  induction left generalizing right with
  | nil =>
      cases right with
      | nil => rfl
      | cons d right => cases there
  | cons c left ih =>
      cases right with
      | nil => cases here
      | cons d right =>
          simp only [isUpTo, Bool.or_eq_true, Bool.and_eq_true, decide_eq_true_eq,
            beq_iff_eq] at here there
          rcases here with smaller | ⟨rfl, here⟩
          · rcases there with larger | ⟨rfl, -⟩
            · omega
            · omega
          · rcases there with larger | ⟨-, there⟩
            · omega
            · rw [ih here there]

theorem byBytes_total (left right : String) : byBytes left right || byBytes right left :=
  isUpTo_total left.toList right.toList

theorem byBytes_refl (text : String) : byBytes text text = true := by
  simpa using byBytes_total text text

theorem byBytes_trans {first second third : String} (here : byBytes first second = true)
    (there : byBytes second third = true) : byBytes first third = true :=
  isUpTo_trans here there

theorem byBytes_antisymm {left right : String} (here : byBytes left right = true)
    (there : byBytes right left = true) : left = right :=
  String.toList_inj.mp (isUpTo_antisymm here there)

/-- A text comes before another in byte order. -/
def Precedes (left right : String) : Prop :=
  byBytes left right = true ∧ left ≠ right

/-- Different texts in byte order stand in one order only. -/
theorem eq_of_pairwise_precedes {left right : List String} (here : left.Pairwise Precedes)
    (there : right.Pairwise Precedes) (same : ∀ text, text ∈ left ↔ text ∈ right) :
    left = right := by
  have distinct (texts : List String) (increasing : texts.Pairwise Precedes) : texts.Nodup :=
    increasing.imp fun before => before.2
  have perm : left.Perm right := (List.perm_ext_iff_of_nodup (distinct left here)
    (distinct right there)).mpr same
  refine perm.eq_of_pairwise ?_ here there
  intro first second _ _ before behind
  exact byBytes_antisymm before.1 behind.1

end DataAccess.Text
