import RowBind.Column.Scalar.Numbers

/-!
# The values of numbers

Integers and decimals are converted by the numbers that they are.  An integer type takes
every integer and every decimal whose number is an integer of its range, however wide the
integer and whatever the scale of the decimal, and none else.  The decimals take the integers
of 96 bits at most.  Where an integer has a decimal, it makes no difference if it is converted
to an integer type by way of that decimal.

Main statement: `ofValue_number_exact`.
-/

namespace RowBind

open Number

variable {t : IntegerType} {v : Value} {q : Rat}

/-- The exact number of an integer or a decimal. -/
def Value.number? : Value → Option Rat
  | .int _ (some i) => some i.val
  | .decimal (some d) _ _ => some d.toRat
  | _ => none

/-- An integer is made of a value with that number, and of no other. -/
theorem integerOfValue_number {kind : IntKind} {type : String}
    {readAll : String → Outcome (Integer kind)} {j : Integer kind} (h : v.number? = some q) :
    integerOfValue kind type readAll v = .ok j ↔ (j.val : Rat) = q := by
  cases v with
  | int source content =>
      cases content with
      | none => cases h
      | some i =>
          cases h
          rw [integerOfValue_int, Rat.intCast_inj]
  | decimal content digits places =>
      cases content with
      | none => cases h
      | some d =>
          cases h
          rw [integerOfValue_decimal]
          exact eq_comm
  | _ => cases h

/-- A content of an integer type is made of a value with that number, and of no other. -/
theorem IntegerType.ofValue_number (t : IntegerType) {content : Content t.scalar}
    (h : v.number? = some q) :
    ofValue t.scalar v = .ok content ↔ (t.number content : Rat) = q := by
  cases t with
  | sized kind => exact integerOfValue_number h
  | word signed => exact integerOfValue_number h

theorem ofValue_decimal_int {source : IntKind} (i : Integer source) :
    ofValue Scalar.decimal (.int source (some i)) =
      orRefuse (.int source (some i)) "Decimal" (Decimal.ofScaled? i.val 0) :=
  rfl

/-- The decimal of an integer is its number. -/
theorem exists_decimal_of_int {source : IntKind} (i : Integer source)
    (h : i.val.natAbs < mantissaLimit) :
    ∃ d : Decimal, ofValue Scalar.decimal (.int source (some i)) = .ok d ∧
      d.coefficient = i.val ∧ d.scale = 0 ∧ d.toRat = i.val := by
  rw [ofValue_decimal_int]
  cases hfound : Decimal.ofScaled? i.val 0 with
  | none => exact absurd ⟨h, Nat.zero_le 28⟩ (Decimal.ofScaled?_eq_none_iff.mp hfound)
  | some d =>
      obtain ⟨hcoefficient, hscale⟩ := Decimal.ofScaled?_eq_some hfound
      refine ⟨d, rfl, hcoefficient, hscale, Decimal.toRat_eq_intCast_iff.mpr ?_⟩
      rw [hcoefficient, hscale, Int.pow_zero, Int.mul_one]

/-- There is none for a wider integer. -/
theorem exists_refusal_of_int {source : IntKind} (i : Integer source)
    (h : ¬ i.val.natAbs < mantissaLimit) :
    ∃ failure, ofValue Scalar.decimal (.int source (some i)) = .error failure := by
  have hnone : Decimal.ofScaled? i.val 0 = none :=
    Decimal.ofScaled?_eq_none_iff.mpr fun hlimits => h hlimits.1
  rw [ofValue_decimal_int, hnone]
  exact ⟨_, rfl⟩

/-- What is to be expected of conversions that keep numbers. -/
structure KeepsNumbers : Prop where
  /-- An integer or a decimal is converted to the integer that it is, if that lies in the
  range of the type. -/
  integer : ∀ (t : IntegerType) {v : Value} {q : Rat}, v.number? = some q → ∀ n : Int,
    (∃ content, ofValue t.scalar v = .ok content ∧ t.number content = n) ↔
      (n : Rat) = q ∧ t.kind.Holds n
  /-- It is refused if it is no integer of the range. -/
  noInteger : ∀ (t : IntegerType) {v : Value} {q : Rat}, v.number? = some q →
    (∀ n : Int, (n : Rat) = q → ¬ t.kind.Holds n) → ∃ failure, ofValue t.scalar v = .error failure
  /-- An integer of 96 bits is converted to the decimal without places. -/
  decimal : ∀ {source : IntKind} (i : Integer source), i.val.natAbs < mantissaLimit →
    ∃ d : Decimal, ofValue Scalar.decimal (.int source (some i)) = .ok d ∧
      d.coefficient = i.val ∧ d.scale = 0
  /-- Any wider integer is refused. -/
  noDecimal : ∀ {source : IntKind} (i : Integer source), ¬ i.val.natAbs < mantissaLimit →
    ∃ failure, ofValue Scalar.decimal (.int source (some i)) = .error failure
  /-- By way of its decimal, whatever digits and places that is declared with, an integer is
  converted as it is without. -/
  detour : ∀ (t : IntegerType) {source : IntKind} (i : Integer source) {d : Decimal}
    (digits places : UInt8) {content : Content t.scalar},
      ofValue Scalar.decimal (.int source (some i)) = .ok d →
        (ofValue t.scalar (.decimal (some d) digits places) = .ok content ↔
          ofValue t.scalar (.int source (some i)) = .ok content)

/-- **Conversions keep numbers.** -/
theorem ofValue_number_exact : KeepsNumbers where
  integer t v q hnumber n := by
    constructor
    · rintro ⟨content, hcontent, rfl⟩
      exact ⟨(t.ofValue_number hnumber).mp hcontent, (t.integer content).holds⟩
    · rintro ⟨hq, hholds⟩
      obtain ⟨content, rfl⟩ := (t.exists_number_iff n).mpr hholds
      exact ⟨content, (t.ofValue_number hnumber).mpr hq, rfl⟩
  noInteger t v q hnumber hnone := by
    cases hconverted : ofValue t.scalar v with
    | error failure => exact ⟨failure, rfl⟩
    | ok content =>
        have hq : (t.number content : Rat) = q := (t.ofValue_number hnumber).mp hconverted
        exact absurd (t.integer content).holds (hnone _ hq)
  decimal i hlimit := by
    obtain ⟨d, hd, hcoefficient, hscale, -⟩ := exists_decimal_of_int i hlimit
    exact ⟨d, hd, hcoefficient, hscale⟩
  noDecimal i hlimit := exists_refusal_of_int i hlimit
  detour t source i d digits places content hd := by
    by_cases hlimit : i.val.natAbs < mantissaLimit
    · obtain ⟨found, hfound, -, -, hnumber⟩ := exists_decimal_of_int i hlimit
      rw [hfound] at hd
      cases hd
      have hdecimal : (Value.decimal (some d) digits places).number? = some (i.val : Rat) :=
        congrArg some hnumber
      rw [t.ofValue_number hdecimal, t.ofValue_number rfl]
    · obtain ⟨failure, hfailure⟩ := exists_refusal_of_int i hlimit
      rw [hfailure] at hd
      cases hd

end RowBind
