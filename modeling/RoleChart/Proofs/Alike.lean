import Mathlib.Data.List.Forall2
import RoleChart.Proofs.Building

/-!
# Builds that end alike

Two builds end alike if both succeed, with results that are related, or both fail with the same fault.
A collision is no fault that is reported, so neither of them may end in one. Builds that are put
together from alike steps in the same order end alike, since the first fault is that of the same step.

## Main statements

* `Alike.bind`, `Alike.mapM` — alike steps, one after the other and along a list
* `Decided.alike` — builds that fail under one condition, with one fault
-/

namespace RoleChart

open RoleChart.Built

/-- Whether a fault is reported. A collision ends the program instead. -/
def Fault.IsReported (e : Fault) : Prop := ∀ name, e ≠ .collision name

namespace Built

variable {α β γ δ : Type} {R : α → β → Prop} {S : γ → δ → Prop}

/-- Two builds that end alike. -/
inductive Alike (R : α → β → Prop) : Built α → Built β → Prop where
  | ok {a : α} {b : β} (h : R a b) : Alike R (.ok a) (.ok b)
  | error {e : Fault} (h : e.IsReported) : Alike R (.error e) (.error e)

/-- A build that ends alike with itself: it does not end in a collision. -/
def Reported (x : Built α) : Prop := Alike Eq x x

/-! ## Steps -/

namespace Alike

theorem pure {a : α} {b : β} (h : R a b) : Alike R (Pure.pure a) (Pure.pure b) := .ok h

/-- Results that are related are related in every weaker way. -/
theorem mono {R' : α → β → Prop} {x : Built α} {y : Built β} (h : Alike R x y)
    (hR : ∀ a b, R a b → R' a b) : Alike R' x y := by
  cases h with
  | ok h => exact .ok (hR _ _ h)
  | error h => exact .error h

/-- Builds that end alike can be followed by builds that do. -/
theorem bind {x : Built α} {y : Built β} {f : α → Built γ} {f' : β → Built δ} (h : Alike R x y)
    (hf : ∀ a b, R a b → Alike S (f a) (f' b)) : Alike S (x >>= f) (y >>= f') := by
  cases h with
  | ok h => exact hf _ _ h
  | error h => exact .error h

theorem map {x : Built α} {y : Built β} {f : α → γ} {f' : β → δ} (h : Alike R x y)
    (hf : ∀ a b, R a b → S (f a) (f' b)) : Alike S (x.map f) (y.map f') := by
  cases h with
  | ok h => exact .ok (hf _ _ h)
  | error h => exact .error h

/-- A list is gone through alike if each of its steps is. The fault of both is that of the first step
with one. -/
theorem mapM {ι : Type} {f : ι → Built α} {f' : ι → Built β} {xs : List ι}
    (h : ∀ x ∈ xs, Alike R (f x) (f' x)) : Alike (List.Forall₂ R) (xs.mapM f) (xs.mapM f') := by
  induction xs with
  | nil => exact .ok .nil
  | cons x xs ih =>
    rw [List.mapM_cons, List.mapM_cons]
    obtain ⟨hx, hxs⟩ := List.forall_mem_cons.1 h
    refine hx.bind fun a b hab => (ih hxs).bind fun as bs hrest => ?_
    exact .pure (.cons hab hrest)

end Alike

/-! ## Conditions of failure -/

/-- A build that fails just under a condition, always with the same fault, and has a result with some
property otherwise. -/
structure Decided (p : Prop) (e : Fault) (P : α → Prop) (x : Built α) : Prop where
  fails : p → x = .error e
  succeeds : ¬ p → ∃ a, x = .ok a ∧ P a

namespace Decided

variable {p : Prop} {e : Fault} {P : α → Prop} {Q : β → Prop}

/-- A step that cannot fail keeps the condition of the failure. -/
theorem bind {x : Built α} {f : α → Built β} (h : Decided p e P x)
    (hf : ∀ a, P a → ∃ b, f a = .ok b ∧ Q b) : Decided p e Q (x >>= f) where
  fails hp := by
    rw [h.fails hp]
    rfl
  succeeds hp := by
    obtain ⟨a, hx, ha⟩ := h.succeeds hp
    rw [hx]
    exact hf a ha

/-- Two builds that fail under one condition, with one fault, end alike. -/
theorem alike {x : Built α} {y : Built β} (hx : Decided p e P x) (hy : Decided p e Q y)
    (he : e.IsReported) : Alike (fun a b => P a ∧ Q b) x y := by
  by_cases hp : p
  · rw [hx.fails hp, hy.fails hp]
    exact .error he
  · obtain ⟨a, ha, hPa⟩ := hx.succeeds hp
    obtain ⟨b, hb, hQb⟩ := hy.succeeds hp
    rw [ha, hb]
    exact .ok ⟨hPa, hQb⟩

end Decided

/-! ## The same build -/

namespace Reported

theorem pure (a : α) : Reported (Pure.pure a) := .ok rfl

theorem error {e : Fault} (h : e.IsReported) : Reported (.error e : Built α) := Alike.error h

/-- Only reported faults can come of two steps that have no others. -/
theorem bind {x : Built α} {f : α → Built γ} (h : Reported x) (hf : ∀ a, Reported (f a)) :
    Reported (x >>= f) := by
  refine Alike.bind h ?_
  rintro a _ rfl
  exact hf a

theorem mapM {f : α → Built β} {xs : List α} (h : ∀ x ∈ xs, Reported (f x)) : Reported (xs.mapM f) :=
  (Alike.mapM h).mono fun as bs hab => by rwa [List.forall₂_eq_eq_eq] at hab

/-- What is made of one result in two ways ends alike. -/
theorem bind_alike {x : Built α} {f : α → Built γ} {f' : α → Built δ} (h : Reported x)
    (hf : ∀ a, Alike S (f a) (f' a)) : Alike S (x >>= f) (x >>= f') := by
  refine Alike.bind h ?_
  rintro a _ rfl
  exact hf a

end Reported

end Built

end RoleChart
