import ResourceGraph.Graph.Store

/-! # Confidences

A confidence from zero to one is stored as it is: it is a number, it lies within the bounds that it is
clamped to, and only the sign of a zero may be lost. -/

namespace ResourceGraph

/-! ## Comparing numbers -/

namespace Confidence
open Float.Model
variable {x y : Float}

/-- How two numbers compare, unless one of them is none. -/
def order? (x y : Float) : Option Ordering := x.toModel.unpack.compare y.toModel.unpack

theorem le_iff : x ≤ y ↔ (order? x y).any (·.isLE) = true := decide_eq_true_iff

theorem lt_iff : x < y ↔ (order? x y == some .lt) = true := decide_eq_true_iff

theorem beq_eq : (x == y) = (order? x y == some .eq) := rfl

theorem compare_swap (a b : UnpackedFloat) : b.compare a = (a.compare b).map Ordering.swap := by
  cases a with
  | notANumber => cases b with
    | infinity s => cases s <;> rfl
    | finite s => cases s <;> rfl
    | _ => rfl
  | infinity s => cases b with
    | infinity t => cases s <;> cases t <;> rfl
    | finite t => cases s <;> cases t <;> rfl
    | _ => cases s <;> rfl
  | zero s => cases b with
    | infinity t => cases t <;> rfl
    | finite t => cases t <;> rfl
    | _ => rfl
  | finite s m e => cases b with
    | infinity t => cases s <;> cases t <;> rfl
    | finite t m' e' =>
      have swap : ((compare e e').then (compare m m')).swap = (compare e' e).then (compare m' m) := by
        rw [Ordering.swap_then, ← Std.OrientedOrd.eq_swap, ← Std.OrientedOrd.eq_swap]
      cases s <;> cases t
      · exact congrArg (some ·.swap) swap.symm
      · rfl
      · rfl
      · exact congrArg some swap.symm
    | _ => cases s <;> rfl

theorem order?_swap : order? y x = (order? x y).map Ordering.swap := compare_swap _ _

theorem isNaN_of_unpack (h : x.toModel.unpack = .notANumber) : x.isNaN = true := by
  have heq : x.isNaN = x.toModel.unpack.isNaN := rfl
  rw [heq, h]
  rfl

theorem order?_self (hx : x.isNaN = false) : order? x x = some .eq := by
  unfold order?
  cases hu : x.toModel.unpack with
  | notANumber =>
    rw [isNaN_of_unpack hu] at hx
    cases hx
  | infinity s => cases s <;> rfl
  | zero s => rfl
  | finite s m e =>
    have self : (compare e e).then (compare m m) = .eq := by simp
    cases s
    · exact congrArg (some ·.swap) self
    · exact congrArg some self

theorem isNaN_eq_false_of_le (h : x ≤ y) : y.isNaN = false := by
  rw [le_iff] at h
  have heq : y.isNaN = y.toModel.unpack.isNaN := rfl
  rw [heq]
  unfold order? at h
  cases hu : y.toModel.unpack with
  | notANumber =>
    -- Nothing compares with a value that is no number.
    rw [hu] at h
    generalize x.toModel.unpack = u at h
    cases u <;> exact absurd h Bool.false_ne_true
  | _ => rfl

theorem not_lt_of_le (h : x ≤ y) : ¬y < x := by
  rw [le_iff] at h
  rw [lt_iff, order?_swap]
  cases horder : order? x y with
  | none => simp
  | some o => cases o <;> simp [horder] at h ⊢

theorem beq_self (hx : x.isNaN = false) : (x == x) = true := by simp [beq_eq, order?_self hx]

theorem beq_symm (h : (x == y) = true) : (y == x) = true := by
  rw [beq_eq, beq_iff_eq] at h ⊢
  simp [order?_swap (x := x), h]

end Confidence

/-! ## Storing a confidence -/

section Stored
variable {d : RelationshipDescriptor}

theorem RelationshipDescriptor.isValid_bounds (hd : d.isValid = true) : 0.0 ≤ d.confidence ∧ d.confidence ≤ 1.0 := by
  simp only [isValid, Bool.and_eq_true, decide_eq_true_eq] at hd
  exact hd.2

theorem RelationshipDescriptor.isValid_isNaN (hd : d.isValid = true) : d.confidence.isNaN = false :=
  Confidence.isNaN_eq_false_of_le (isValid_bounds hd).1

/-- A valid confidence lies within the bounds. -/
theorem Edge.clamp_of_isValid (hd : d.isValid = true) : clamp d.confidence = d.confidence := by
  obtain ⟨hlow, hhigh⟩ := d.isValid_bounds hd
  unfold clamp
  rw [if_neg (Confidence.not_lt_of_le hlow), if_neg (Confidence.not_lt_of_le hhigh)]

/-- Clamping makes no number of what is none. -/
theorem Edge.isNaN_of_clamp {x : Float} (h : (clamp x).isNaN = true) : x.isNaN = true := by
  unfold clamp at h
  split at h
  · exact absurd h (by decide)
  · split at h
    · exact absurd h (by decide)
    · exact h

/-- Only the sign of a zero is lost. -/
theorem Store.stored_confidence {e : Edge} (he : e.confidence.isNaN = false) :
    ((stored e).confidence == e.confidence) = true := by
  unfold stored
  split
  · rename_i hzero
    exact Confidence.beq_symm hzero
  · exact Confidence.beq_self he

end Stored

end ResourceGraph
