import Mathlib.Data.List.Forall2
import RowBind.Column.Layers

/-!
# Null

A value that is null makes no content of a scalar type, whichever type it is the null of.  There
are two kinds of columns that it fits: an optional column holds nothing then, and a list made of
the null of a list has no elements.  Pointers change nothing about either.

A list that is not null is converted element by element, so a null among its elements is not
passed over: it is converted like any other element, and where its type does not take it, the
whole list is refused.

Main statements: `ColumnType.ofValue_eq_ok_iff_of_isNull`, what becomes of null in a type that is
built from others; `ColumnType.convertAll_eq_ok_iff`, the elements of a list are converted one by
one; and `nulls_kept`, null never becomes a value.
-/

namespace RowBind

namespace ColumnType

variable {ι : Type} [ColumnFamily ι]

/-! ## The types that take null -/

/-- The type makes a content of the null: where there may be no content, and where a list meets
the null of a list. -/
def TakesNull : ColumnType ι → Value → Prop
  | base _, _ => False
  | optional _, _ => True
  | listOf _, value => ∃ element, value = .list none element
  | pointer _ t, value => t.TakesNull value

/-- No type of the family takes null. -/
def RefusesNull (ι : Type) [ColumnFamily ι] : Prop :=
  ∀ (i : ι) {value : Value}, value.isNull = true →
    ∃ failure, ColumnFamily.ofValue i value = .error failure

theorem refusesNull_scalar : RefusesNull Scalar :=
  fun s _ hnull => ⟨_, s.ofValue_of_isNull hnull⟩

/-- A column is empty exactly if the value is null. -/
theorem ofValue_optional_eq_none_iff (t : ColumnType ι) {value : Value} :
    (optional t).ofValue value = .ok none ↔ value.isNull = true := by
  constructor
  · intro h
    by_contra hvalue
    rw [ofValue, if_neg hvalue] at h
    split at h <;> cases h
  · intro hvalue
    exact ofValue_optional_of_isNull t hvalue

/-- Of the nulls a list takes that of a list, and refuses the others. -/
theorem ofValue_listOf_of_isNull (t : ColumnType ι) {value : Value} (hnull : value.isNull = true) :
    (∃ element, value = .list none element ∧ (listOf t).ofValue value = .ok []) ∨
      ((∀ element, value ≠ .list none element) ∧
        (listOf t).ofValue value = refuse value (listOf t).typeName) := by
  by_cases hlist : ∃ element, value = .list none element
  · obtain ⟨element, rfl⟩ := hlist
    exact .inl ⟨element, rfl, rfl⟩
  · refine .inr ⟨fun element heq => hlist ⟨element, heq⟩, ?_⟩
    cases value with
    | list content element =>
        have hnone : content = none := Option.isNone_iff_eq_none.mp hnull
        exact absurd ⟨element, by rw [hnone]⟩ hlist
    | _ => rfl

/-- **What becomes of null**: a type that takes it holds what it holds at first, and any other
type refuses it. -/
theorem ofValue_eq_ok_iff_of_isNull (hbase : RefusesNull ι) (t : ColumnType ι) {value : Value}
    (hnull : value.isNull = true) {content : t.Content} :
    t.ofValue value = .ok content ↔ t.TakesNull value ∧ content = t.blank := by
  induction t with
  | base i =>
      obtain ⟨failure, hfailure⟩ := hbase i hnull
      simp [ofValue, hfailure, TakesNull]
  | optional t =>
      rw [ofValue_optional_of_isNull t hnull, Except.ok.injEq]
      exact ⟨fun h => ⟨trivial, h.symm⟩, fun h => h.2.symm⟩
  | listOf t =>
      rcases ofValue_listOf_of_isNull t hnull with ⟨element, hvalue, hempty⟩ | ⟨hother, hrefused⟩
      · rw [hempty, Except.ok.injEq]
        exact ⟨fun h => ⟨⟨element, hvalue⟩, h.symm⟩, fun h => h.2.symm⟩
      · rw [hrefused]
        constructor
        · intro h
          cases h
        · rintro ⟨⟨element, hvalue⟩, -⟩
          exact absurd hvalue (hother element)
  | pointer kind t ih =>
      rw [ofValue_pointer]
      exact ih

/-- Null is refused behind pointers by the type that they point to. -/
theorem ofValue_pointers_of_isNull (s : Scalar) (kinds : List PointerKind) {value : Value}
    (hnull : value.isNull = true) :
    (wrap s (kinds.map .pointer)).ofValue value = refuse value s.refusedAs := by
  induction kinds with
  | nil => exact s.ofValue_of_isNull hnull
  | cons kind kinds ih => exact ih

/-! ## Lists -/

/-- The elements of a list are converted one by one. -/
theorem convertAll_eq_ok_iff {α : Type} {convert : Value → Outcome α} {elements : List Value}
    {contents : List α} :
    convertAll convert elements = .ok contents ↔
      List.Forall₂ (fun element content => convert element = .ok content) elements contents := by
  constructor
  · intro h
    induction elements generalizing contents with
    | nil =>
        cases h
        exact .nil
    | cons first elements ih =>
        rw [convertAll] at h
        split at h
        · cases h
        · next hfirst =>
          split at h
          · cases h
          · next hrest =>
            cases h
            exact .cons hfirst (ih hrest)
  · intro h
    induction h with
    | nil => rfl
    | cons hfirst _ ih => simp only [convertAll, hfirst, ih]

/-- A list is refused if one of its elements is. -/
theorem exists_refusal_of_element {α : Type} {convert : Value → Outcome α} {elements : List Value}
    {element : Value} (hmem : element ∈ elements)
    (hrefused : ∀ content, convert element ≠ .ok content) :
    ∃ failure, convertAll convert elements = .error failure := by
  induction elements with
  | nil => cases hmem
  | cons first elements ih =>
      rw [convertAll]
      cases hfirst : convert first with
      | error failure => exact ⟨failure, rfl⟩
      | ok content =>
          rcases List.mem_cons.mp hmem with rfl | hrest
          · exact absurd hfirst (hrefused content)
          · obtain ⟨failure, hfailure⟩ := ih hrest
            exact ⟨failure, by simp only [hfailure]⟩

end ColumnType

/-! ## Null never becomes a value -/

/-- What is to be expected of conversions that take null for no value. -/
structure KeepsNulls : Prop where
  /-- A scalar type refuses every null, also behind pointers. -/
  scalar : ∀ (s : Scalar) (kinds : List PointerKind) {value : Value}, value.isNull = true →
    (ColumnType.wrap s (kinds.map .pointer)).ofValue value = refuse value s.refusedAs
  /-- An optional column of any type is empty for null, and for nothing else. -/
  optional : ∀ {ι : Type} [ColumnFamily ι] (t : ColumnType ι) {value : Value},
    (ColumnType.optional t).ofValue value = .ok none ↔ value.isNull = true
  /-- The null of a list is the list of no elements, and a list refuses any other null. -/
  nullList : ∀ {ι : Type} [ColumnFamily ι] (t : ColumnType ι) {value : Value},
    value.isNull = true →
      (∃ element, value = .list none element ∧ (ColumnType.listOf t).ofValue value = .ok []) ∨
        ((∀ element, value ≠ .list none element) ∧ (ColumnType.listOf t).ofValue value =
          refuse value (ColumnType.listOf t).typeName)
  /-- A list that is not null is converted element by element. -/
  list : ∀ {ι : Type} [ColumnFamily ι] (t : ColumnType ι) {elements : List Value}
    {element : Value} {contents : List t.Content},
      (ColumnType.listOf t).ofValue (.list (some elements) element) = .ok contents ↔
        List.Forall₂ (fun value content => t.ofValue value = .ok content) elements contents
  /-- A null among its elements is an element like the others where their type takes it. -/
  nullTaken : ∀ (t : ColumnType Scalar) {value : Value}, value.isNull = true →
    t.TakesNull value → t.ofValue value = .ok t.blank
  /-- Everywhere else the list is refused. -/
  nullRefused : ∀ (t : ColumnType Scalar) {elements : List Value} {value element : Value},
    value ∈ elements → value.isNull = true → ¬ t.TakesNull value →
      ∃ failure, (ColumnType.listOf t).ofValue (.list (some elements) element) = .error failure

/-- **Null never becomes a value.** -/
theorem nulls_kept : KeepsNulls where
  scalar := ColumnType.ofValue_pointers_of_isNull
  optional := ColumnType.ofValue_optional_eq_none_iff
  nullList := ColumnType.ofValue_listOf_of_isNull
  list := fun _ {_ _ _} => ColumnType.convertAll_eq_ok_iff
  nullTaken := fun t {value} hnull htakes =>
    (t.ofValue_eq_ok_iff_of_isNull ColumnType.refusesNull_scalar hnull).mpr ⟨htakes, rfl⟩
  nullRefused := fun t {elements value element} hmem hnull hrefused => by
    apply ColumnType.exists_refusal_of_element hmem
    intro content hcontent
    exact hrefused
      ((t.ofValue_eq_ok_iff_of_isNull ColumnType.refusesNull_scalar hnull).mp hcontent).1

end RowBind
