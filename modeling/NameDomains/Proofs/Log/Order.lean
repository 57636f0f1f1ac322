/-
**The order of directives is lawful.**

Numbers are compared by value, values by kind and then by value, conditions by name and value, and
directives by how specific they are. Each of these orders is one comparison after another, each of what is
in an ordered type; so it is turned around by exchanging its sides, and it is transitive. Directives that
are equal in it have the same target, span and field; they differ in the level alone.

* `Binary64.order_eq_compareLex`, `FieldValue.order_eq_compareLex`, `FieldCondition.order_eq_compareLex`,
  `Directive.order_eq_compareLex` — the comparisons of each order.
* `Directive.order_eq_iff_sameSubject` — when directives are equal.
-/

import Mathlib.Algebra.Order.Ring.Cast
import Mathlib.Algebra.Order.Ring.Rat
import Mathlib.Order.Compare
import NameDomains.Log.Directive

namespace NameDomains

/-! ### Optional values -/

namespace Directive

variable {α : Type} {order : α → α → Ordering}

instance [Std.OrientedCmp order] : Std.OrientedCmp (orderOption order) where
  eq_swap {a b} := by
    cases a with
    | none => cases b <;> rfl
    | some a =>
      cases b with
      | none => rfl
      | some b =>
        show order a b = (order b a).swap
        exact Std.OrientedCmp.eq_swap

instance [Std.TransCmp order] : Std.TransCmp (orderOption order) where
  isLE_trans {a b c} ab bc := by
    cases a with
    | none => cases c <;> rfl
    | some a =>
      cases b with
      | none => exact absurd ab Bool.false_ne_true
      | some b =>
        cases c with
        | none => exact absurd bc Bool.false_ne_true
        | some c =>
          show (order a c).isLE
          exact Std.TransCmp.isLE_trans ab bc

/-- Optional values are equal in the order exactly if they are equal. -/
theorem orderOption_compare_eq_iff [Ord α] [Std.LawfulEqOrd α] {first second : Option α} :
    orderOption compare first second = .eq ↔ first = second := by
  cases first <;> cases second <;> simp [orderOption]

/-- Of optional values that are equal in an order both are given, or neither is. -/
theorem isSome_eq_of_orderOption {first second : Option α} (same : orderOption order first second = .eq) :
    first.isSome = second.isSome := by
  cases first <;> cases second <;> simp [orderOption] at same ⊢

end Directive

/-! ### Numbers -/

namespace Binary64

/-- The place of each kind of number in the order. -/
def rank : Binary64 → Nat
  | infinite true => 0
  | finite .. => 1
  | infinite false => 2
  | nan => 3

/-- The value of a finite number; zero stands for all else. -/
def value : Binary64 → ℚ
  | finite isNegative mantissa exponent => (if isNegative then -1 else 1) * mantissa * 2 ^ exponent
  | _ => 0

/-- **Finite numbers are compared by value.** -/
theorem order_finite (s t : Bool) (m n : Nat) (e f : Int) :
    order (finite s m e) (finite t n f) = compare (finite s m e).value (finite t n f).value := by
  have scaled : ∀ (isNegative : Bool) (mantissa : Nat) (exponent : Int), min e f ≤ exponent →
      (finite isNegative mantissa exponent).value =
        (((if isNegative then -1 else 1) * mantissa * Int.pow 2 (exponent - min e f).toNat : Int) : ℚ) *
          2 ^ min e f := by
    intro isNegative mantissa exponent fits
    have power : (2 : ℚ) ^ exponent = 2 ^ (exponent - min e f).toNat * 2 ^ min e f := by
      rw [← zpow_natCast, ← zpow_add₀ two_ne_zero]
      congr 1
      omega
    show (if isNegative then -1 else 1) * (mantissa : ℚ) * 2 ^ exponent = _
    rw [power, ← mul_assoc]
    congr 1
    show _ = (((if isNegative then -1 else 1) * mantissa * 2 ^ (exponent - min e f).toNat : Int) : ℚ)
    push_cast
    rfl
  have increases : StrictMono fun number : Int => (number : ℚ) * 2 ^ min e f := fun _ _ less =>
    mul_lt_mul_of_pos_right (Int.cast_lt.mpr less) (zpow_pos two_pos _)
  rw [scaled s m e (min_le_left e f), scaled t n f (min_le_right e f)]
  exact (cmp_eq_compare _ _).symm.trans
    ((increases.cmp_map_eq _ _).symm.trans (cmp_eq_compare _ _))

theorem order_eq_compareLex : order = compareLex (compareOn rank) (compareOn value) := by
  funext a b
  rcases a with ⟨s, m, e⟩ | (_ | _) | _ <;> rcases b with ⟨t, n, f⟩ | (_ | _) | _
  case finite.finite => exact order_finite s t m n e f
  all_goals rfl

instance : Std.TransCmp order := order_eq_compareLex ▸ inferInstance

end Binary64

/-! ### Values and conditions -/

namespace FieldValue

/-- The truth value that is meant, if one is. -/
def flag? : FieldValue → Option Bool
  | flag value => some value
  | _ => none

/-- The number with a point or a power of ten that is meant, if one is. -/
def real? : FieldValue → Option Binary64
  | real value => some value
  | _ => none

/-- The whole number without a sign that is meant, if one is. -/
def natural? : FieldValue → Option Nat
  | natural value => some value
  | _ => none

/-- The whole number with a sign that is meant, if one is. -/
def negative? : FieldValue → Option Int
  | negative value => some value
  | _ => none

/-- The pattern that is meant, if one is. -/
def pattern? : FieldValue → Option String
  | pattern text => some text
  | _ => none

theorem order_eq_compareLex :
    order = compareLex (compareOn rank) (compareLex (compareOn flag?)
      (compareLex (Ordering.byKey real? (Directive.orderOption Binary64.order))
        (compareLex (compareOn natural?) (compareLex (compareOn negative?) (compareOn pattern?))))) := by
  funext a b
  cases a <;> cases b <;> first | rfl | exact Ordering.then_eq.symm

instance : Std.TransCmp order := order_eq_compareLex ▸ inferInstance

end FieldValue

namespace FieldCondition

theorem order_eq_compareLex :
    order = compareLex (compareOn fun condition => condition.value.isSome)
      (compareLex (compareOn name) (Ordering.byKey value (Directive.orderOption FieldValue.order))) := by
  funext ⟨name, value⟩ ⟨other, otherValue⟩
  cases value <;> cases otherValue <;> first | rfl | exact Ordering.then_eq.symm

instance : Std.TransCmp order := order_eq_compareLex ▸ inferInstance

/-- Of equal conditions both have a value, or neither has. -/
theorem isSome_value_eq {first second : FieldCondition} (same : order first second = .eq) :
    first.value.isSome = second.value.isSome := by
  rw [order_eq_compareLex] at same
  exact Std.LawfulEqOrd.compare_eq_iff_eq.mp (Ordering.then_eq_eq.mp same).1

end FieldCondition

/-! ### Directives -/

namespace Directive

/-- The length of the target in bytes, if there is one. -/
def targetSize (directive : Directive) : Option Nat := directive.target.map String.utf8ByteSize

theorem order_eq_compareLex :
    order = flip (compareLex (Ordering.byKey targetSize (orderOption compare))
      (compareLex (compareOn fun directive => directive.span.isSome)
        (compareLex (compareOn fun directive => directive.field.isSome)
          (compareLex (Ordering.byKey target (orderOption compare))
            (compareLex (Ordering.byKey span (orderOption compare))
              (Ordering.byKey field (orderOption FieldCondition.order))))))) := rfl

instance : Std.TransCmp order := order_eq_compareLex ▸ inferInstance

theorem order_self (directive : Directive) : directive.order directive = .eq := Std.ReflCmp.compare_self

/-- Two directives are about the same: they have the same target and span, and equal fields. Numbers that
a field must have are equal by value. -/
structure SameSubject (first second : Directive) : Prop where
  target : first.target = second.target
  span : first.span = second.span
  field : orderOption FieldCondition.order first.field second.field = .eq

/-- **Directives are equal in the order exactly if they are about the same.** -/
theorem order_eq_iff_sameSubject {first second : Directive} :
    first.order second = .eq ↔ SameSubject first second := by
  have fieldBack : orderOption FieldCondition.order second.field first.field = .eq ↔
      orderOption FieldCondition.order first.field second.field = .eq :=
    Std.OrientedCmp.eq_comm
  simp only [order, Ordering.then_eq_eq, orderOption_compare_eq_iff, Std.LawfulEqOrd.compare_eq_iff_eq,
    fieldBack]
  constructor
  · rintro ⟨-, -, -, target, span, field⟩
    exact ⟨target.symm, span.symm, field⟩
  · rintro ⟨target, span, field⟩
    have sameGiven := (isSome_eq_of_orderOption field).symm
    exact ⟨by rw [target], by rw [span], sameGiven, target.symm, span.symm, field⟩

/-- Directives of which one comes before the other are not about the same. -/
theorem not_sameSubject_of_lt {first second : Directive} (before : first.order second = .lt) :
    ¬ SameSubject second first := fun same => by
  have equal := Std.OrientedCmp.eq_comm.mp (order_eq_iff_sameSubject.mpr same)
  rw [before] at equal
  cases equal

namespace SameSubject

variable {first second : Directive}

theorem refl (directive : Directive) : SameSubject directive directive :=
  order_eq_iff_sameSubject.mp directive.order_self

theorem symm (same : SameSubject first second) : SameSubject second first :=
  order_eq_iff_sameSubject.mp (Std.OrientedCmp.eq_comm.mp (order_eq_iff_sameSubject.mpr same))

theorem trans {third : Directive} (same : SameSubject first second) (next : SameSubject second third) :
    SameSubject first third :=
  order_eq_iff_sameSubject.mp
    (Std.TransCmp.eq_trans (order_eq_iff_sameSubject.mpr same) (order_eq_iff_sameSubject.mpr next))

/-- Of directives about the same both have a value for a field, or neither has. -/
theorem isSome_value_eq (same : SameSubject first second) :
    (first.field.bind FieldCondition.value).isSome = (second.field.bind FieldCondition.value).isSome := by
  have field := same.field
  cases given : first.field with
  | none =>
    cases otherGiven : second.field with
    | none => rfl
    | some other => simp [given, otherGiven, orderOption] at field
  | some condition =>
    cases otherGiven : second.field with
    | none => simp [given, otherGiven, orderOption] at field
    | some other =>
      rw [given, otherGiven] at field
      exact FieldCondition.isSome_value_eq field

/-- Of directives about the same both are about events, or neither is. -/
theorem isForEvents_eq (same : SameSubject first second) :
    first.isForEvents = second.isForEvents := by
  have sameValue := congrArg not same.isSome_value_eq
  rw [Option.not_isSome, Option.not_isSome] at sameValue
  rw [isForEvents, isForEvents, same.span, sameValue]

/-- Of directives about the same both are about spans of work, or neither is. -/
theorem isForSpans_eq (same : SameSubject first second) : first.isForSpans = second.isForSpans := by
  rw [isForSpans, isForSpans, same.span, isSome_eq_of_orderOption same.field]

end SameSubject

end Directive

end NameDomains
