import Mathlib.Data.Option.Basic
import RowBind.Value

/-!
# Equality of values

Values are compared by type and by content.  Their types are compared without any content, and
that of a list by the type of its elements, so what the value that stands for the element type
may hold never counts.  Contents are compared as what they mean: a number of several written
forms, or an instant in several zones, equals itself in another form.

Comparing types is an equivalence.  Comparing values is not: it is symmetric and transitive, but a
content that is no number differs from all others and from itself, and so does a list, at any
depth, that has such an element.

Main statements: `sameType_iff`, types are the same exactly if nothing but the contents
distinguishes them; `equal_iff_agree`, values are equal exactly if they agree in every part; and
`equality_laws`.
-/

namespace RowBind

open Number Calendar

namespace Value

variable {a b c v : Value}

/-! ## Types -/

/-- The null of the type alone, without the contents that element types may carry. -/
def bare : Value → Value
  | list _ element => list none (bare element)
  | v => v.asNull

/-- **Types are the same** exactly if nothing but the contents distinguishes them. -/
theorem sameType_iff : sameType a b = true ↔ a.bare = b.bare := by
  constructor
  · intro h
    fun_induction sameType a b with
    | case3 kind content kind' content' =>
        obtain rfl := beq_iff_eq.mp h
        rfl
    | case4 p content q content' =>
        obtain rfl := beq_iff_eq.mp h
        rfl
    | _ => simp_all [bare, asNull]
  · intro h
    fun_induction bare a generalizing b with
    | case1 content element ih =>
        cases b with
        | list content' element' =>
            simp only [bare, list.injEq, true_and] at h
            exact ih h
        | _ => cases h
    | case2 a hnolist => cases a <;> cases b <;> cases h <;> simp_all [sameType]

theorem sameType_symm (h : sameType a b = true) : sameType b a = true :=
  sameType_iff.mpr (sameType_iff.mp h).symm

theorem sameType_trans (hab : sameType a b = true) (hbc : sameType b c = true) :
    sameType a c = true :=
  sameType_iff.mpr ((sameType_iff.mp hab).trans (sameType_iff.mp hbc))

/-! ## Contents -/

/-- A content that is no number occurs in the value, or in an element of a list at any depth. -/
inductive HoldsNaN : Value → Prop
  | float {p : Precision} {x : Binary p} (h : x.isNaN = true) : HoldsNaN (float p (some x))
  | list {elements : List Value} {element v : Value} (hmem : v ∈ elements) (h : HoldsNaN v) :
      HoldsNaN (list (some elements) element)

/-- The value is equal to no other: it is null and no list, or its content has one form only. -/
def hasOneForm : Value → Bool
  | float _ (some _) => false
  | decimal (some _) _ _ => false
  | zoned (some _) => false
  | list _ _ => false
  | _ => true

/-- Two values agree in every part. -/
inductive Agree : Value → Value → Prop
  | same {v : Value} (h : v.hasOneForm = true) : Agree v v
  | float {p : Precision} {x y : Binary p} (h : Binary.equal x y = true) :
      Agree (float p (some x)) (float p (some y))
  | decimal {d e : Decimal} {digits places : UInt8} (h : d.toRat = e.toRat) :
      Agree (decimal (some d) digits places) (decimal (some e) digits places)
  | zoned {s t : ZonedTimestamp} (h : s.instant = t.instant) :
      Agree (zoned (some s)) (zoned (some t))
  | nullList {e f : Value} (htype : sameType e f = true) : Agree (list none e) (list none f)
  | list {as bs : List Value} {e f : Value} (hlength : as.length = bs.length)
      (helements : ∀ (i : Nat) {a b : Value}, as[i]? = some a → bs[i]? = some b → Agree a b)
      (htype : sameType e f = true) : Agree (list (some as) e) (list (some bs) f)

/-- Goes down from a value to the elements of a list, and to the elements of those. -/
theorem elementsInduction {motive : Value → Prop}
    (step : ∀ v, (∀ elements element, v = list (some elements) element →
      ∀ w ∈ elements, motive w) → motive v) (v : Value) : motive v := by
  apply step
  intro elements element hv w hw
  have hlt : sizeOf w < sizeOf v := by
    have := List.sizeOf_lt_of_mem hw
    subst hv
    simp only [list.sizeOf_spec, Option.some.sizeOf_spec]
    omega
  exact elementsInduction step w
termination_by sizeOf v

/-- Lists are equal if they are element by element. -/
theorem equalAll_iff {as bs : List Value} : equalAll as bs = true ↔
    as.length = bs.length ∧
      ∀ (i : Nat) {a b : Value}, as[i]? = some a → bs[i]? = some b → equal a b = true := by
  induction as generalizing bs with
  | nil => cases bs <;> simp [equalAll]
  | cons first as ih =>
      cases bs with
      | nil => simp [equalAll]
      | cons other bs =>
          simp only [equalAll, Bool.and_eq_true, ih, List.length_cons, Nat.add_right_cancel_iff]
          constructor
          · rintro ⟨hfirst, hlength, helements⟩
            refine ⟨hlength, fun i a b ha hb => ?_⟩
            cases i with
            | zero =>
                cases ha
                cases hb
                exact hfirst
            | succ i => exact helements i ha hb
          · rintro ⟨hlength, helements⟩
            exact ⟨helements 0 rfl rfl, hlength, fun i a b ha hb => helements (i + 1) ha hb⟩

/-- Two values of one type agree if both are null or if their contents do. -/
theorem agree_of_sameContent {α : Type} {same : α → α → Bool} {f : Option α → Value}
    (hnull : (f none).hasOneForm = true)
    (hcontents : ∀ {x y : α}, same x y = true → Agree (f (some x)) (f (some y)))
    {content content' : Option α} (h : sameContent same content content' = true) :
    Agree (f content) (f content') := by
  cases content with
  | none =>
      cases content' with
      | none => exact .same hnull
      | some y => cases h
  | some x =>
      cases content' with
      | none => cases h
      | some y => exact hcontents h

/-- Values that are equal agree in every part. -/
theorem agree_of_equal (h : equal a b = true) : Agree a b := by
  induction a using elementsInduction generalizing b with
  | step a ih =>
      cases a with
      | null =>
          cases b with
          | null => exact .same rfl
          | _ => cases h
      | bool content | char content | text content | bytes content | date content | time content
      | timestamp content | uuid content | untyped content =>
          -- Contents of these types are compared as they are.
          cases b <;> first | cases h | (obtain rfl := eq_of_beq h; exact .same rfl)
      | int kind content =>
          cases b with
          | int kind' content' =>
              simp only [equal, Bool.and_eq_true, beq_iff_eq] at h
              obtain ⟨rfl, hval⟩ := h
              obtain rfl : content = content' :=
                Option.map_injective (fun i j => Integer.eq_of_val_eq) hval
              exact .same rfl
          | _ => cases h
      | float p content =>
          cases b with
          | float q content' =>
              cases p <;> cases q <;> first | cases h | exact agree_of_sameContent rfl .float h
          | _ => cases p <;> cases h
      | decimal content digits places =>
          cases b with
          | decimal content' digits' places' =>
              simp only [equal, Bool.and_eq_true, beq_iff_eq] at h
              obtain ⟨hcontent, rfl, rfl⟩ := h
              apply agree_of_sameContent (f := fun content => decimal content digits places) rfl
              · intro d e hequal
                exact .decimal (Decimal.equal_iff_toRat.mp hequal)
              · exact hcontent
          | _ => cases h
      | zoned content =>
          cases b with
          | zoned content' =>
              cases content with
              | none =>
                  cases content' with
                  | none => exact .same rfl
                  | some t => cases h
              | some s =>
                  cases content' with
                  | none => cases h
                  | some t => exact .zoned (Option.some.inj (eq_of_beq h))
          | _ => cases h
      | list content element =>
          cases b with
          | list content' element' =>
              cases content with
              | none =>
                  cases content' with
                  | none => exact .nullList h
                  | some elements' => cases h
              | some elements =>
                  cases content' with
                  | none => cases h
                  | some elements' =>
                      simp only [equal, Bool.and_eq_true, equalAll_iff] at h
                      obtain ⟨⟨hlength, helements⟩, htype⟩ := h
                      refine .list hlength (fun i v w hv hw => ?_) htype
                      exact ih elements element rfl v (List.mem_of_getElem? hv)
                        (helements i hv hw)
          | _ => cases content <;> cases h

theorem equal_self_of_hasOneForm (h : v.hasOneForm = true) : equal v v = true := by
  cases v with
  | null => rfl
  | float p content =>
      cases content with
      | none => cases p <;> rfl
      | some x => cases h
  | decimal content digits places =>
      cases content with
      | none => simp [equal, sameContent]
      | some d => cases h
  | list content element => cases h
  | _ => simp [equal]

/-- **Values are equal** exactly if they agree in every part. -/
theorem equal_iff_agree : equal a b = true ↔ Agree a b := by
  constructor
  · exact agree_of_equal
  · intro h
    induction h with
    | same h => exact equal_self_of_hasOneForm h
    | @float p x y h => cases p <;> exact h
    | decimal h => simp [equal, sameContent, Decimal.equal_iff_toRat.mpr h]
    | zoned h => simp [equal, h]
    | nullList htype => exact htype
    | list hlength _ htype ih =>
        rw [equal, Bool.and_eq_true, equalAll_iff]
        exact ⟨⟨hlength, ih⟩, htype⟩

/-! ## Laws of agreement -/

theorem Agree.symm (h : Agree a b) : Agree b a := by
  induction h with
  | same h => exact .same h
  | float h => exact .float (by rwa [Binary.equal_symm])
  | decimal h => exact .decimal h.symm
  | zoned h => exact .zoned h.symm
  | nullList htype => exact .nullList (sameType_symm htype)
  | list hlength _ htype ih =>
      exact .list hlength.symm (fun i _ _ hb ha => ih i ha hb) (sameType_symm htype)

theorem Agree.trans (hab : Agree a b) (hbc : Agree b c) : Agree a c := by
  induction hab generalizing c with
  | same h => exact hbc
  | float h =>
      cases hbc with
      | same hone => cases hone
      | float h' => exact .float (Binary.equal_trans h h')
  | decimal h =>
      cases hbc with
      | same hone => cases hone
      | decimal h' => exact .decimal (h.trans h')
  | zoned h =>
      cases hbc with
      | same hone => cases hone
      | zoned h' => exact .zoned (h.trans h')
  | nullList htype =>
      cases hbc with
      | same hone => cases hone
      | nullList htype' => exact .nullList (sameType_trans htype htype')
  | list hlength _ htype ih =>
      cases hbc with
      | same hone => cases hone
      | list hlength' helements' htype' =>
          refine .list (hlength.trans hlength') ?_ (sameType_trans htype htype')
          intro i v w hv hw
          -- The lists are as long as each other, so something stands between the two.
          have hlt := (List.getElem?_eq_some_iff.mp hv).1
          have hbetween := List.getElem?_eq_getElem (hlength ▸ hlt)
          exact ih i hv hbetween (helements' i hbetween hw)

theorem Agree.sameType (h : Agree a b) : Value.sameType a b = true := by
  cases h with
  | same h => exact sameType_refl _
  | float h => simp [Value.sameType]
  | decimal h => simp [Value.sameType]
  | zoned h => rfl
  | nullList htype => exact htype
  | list _ _ htype => exact htype

theorem Agree.isNull_eq (h : Agree a b) : a.isNull = b.isNull := by
  cases h <;> rfl

/-- A value agrees with itself exactly if everything in it is a number that should be one. -/
theorem agree_self_iff : Agree a a ↔ ¬ HoldsNaN a := by
  constructor
  · intro h hnan
    induction hnan with
    | @float p x hx =>
        cases h with
        | same hone => cases hone
        | float hself =>
            rw [Binary.equal_self_iff, hx] at hself
            cases hself
    | list hmem _ ih =>
        cases h with
        | same hone => cases hone
        | list _ helements _ =>
            obtain ⟨i, hi⟩ := List.getElem?_of_mem hmem
            exact ih (helements i hi hi)
  · intro h
    induction a using elementsInduction with
    | step a ih =>
        cases a with
        | float p content =>
            cases content with
            | none => exact .same rfl
            | some x =>
                have hx : x.isNaN = false := by
                  by_contra hnan
                  exact h (.float (by simpa using hnan))
                exact .float ((Binary.equal_self_iff x).mpr hx)
        | decimal content digits places =>
            cases content with
            | none => exact .same rfl
            | some d => exact .decimal rfl
        | zoned content =>
            cases content with
            | none => exact .same rfl
            | some s => exact .zoned rfl
        | list content element =>
            cases content with
            | none => exact .nullList (sameType_refl element)
            | some elements =>
                refine .list rfl (fun i v w hv hw => ?_) (sameType_refl element)
                obtain rfl : v = w := Option.some.inj (hv.symm.trans hw)
                have hmem := List.mem_of_getElem? hv
                exact ih elements element rfl v hmem fun hnan => h (.list hmem hnan)
        | _ => exact .same rfl

/-- Nulls agree if their types are the same. -/
theorem agree_asNull (h : sameType a b = true) : Agree a.asNull b.asNull := by
  have hbare := sameType_iff.mp h
  cases a with
  | list content element =>
      cases b with
      | list content' element' => exact .nullList h
      | _ => cases h
  | _ =>
      cases b <;> cases hbare
      exact .same rfl

/-- **Types are the same** exactly if their nulls agree. -/
theorem sameType_iff_agree_asNull : sameType a b = true ↔ Agree a.asNull b.asNull := by
  constructor
  · exact agree_asNull
  · intro h
    exact sameType_trans (sameType_asNull a)
      (sameType_trans h.sameType (sameType_symm (sameType_asNull b)))

end Value

/-! ## Equality -/

/-- What is to be expected of comparing values. -/
structure EqualityLaws : Prop where
  /-- Comparing types is an equivalence. -/
  sameType_equivalence : Equivalence fun a b : Value => a.sameType b = true
  /-- It comes to comparing the nulls of the types. -/
  sameType_iff_null : ∀ a b : Value, a.sameType b = true ↔ (a.asNull == b.asNull) = true
  symm : ∀ a b : Value, (a == b) = (b == a)
  trans : ∀ {a b c : Value}, (a == b) = true → (b == c) = true → (a == c) = true
  /-- A value equals itself exactly if it holds nothing that is no number. -/
  self_iff : ∀ a : Value, (a == a) = true ↔ ¬ a.HoldsNaN
  sameType : ∀ {a b : Value}, (a == b) = true → a.sameType b = true
  isNull : ∀ {a b : Value}, (a == b) = true → a.isNull = b.isNull
  /-- The null of a value is the null of itself, it is null, and it is of the type of the
  value. -/
  asNull_twice : ∀ a : Value, a.asNull.asNull = a.asNull
  asNull_null : ∀ a : Value, a.asNull.isNull = true
  asNull_type : ∀ a : Value, a.sameType a.asNull = true

/-- **Equality of values** is a partial equivalence, and that of types is a full one. -/
theorem equality_laws : EqualityLaws where
  sameType_equivalence := ⟨Value.sameType_refl, Value.sameType_symm, Value.sameType_trans⟩
  sameType_iff_null _ _ := Value.sameType_iff_agree_asNull.trans Value.equal_iff_agree.symm
  symm a b := by
    rw [Bool.eq_iff_iff]
    change Value.equal a b = true ↔ Value.equal b a = true
    rw [Value.equal_iff_agree, Value.equal_iff_agree]
    exact ⟨.symm, .symm⟩
  trans hab hbc := Value.equal_iff_agree.mpr
    ((Value.equal_iff_agree.mp hab).trans (Value.equal_iff_agree.mp hbc))
  self_iff _ := Value.equal_iff_agree.trans Value.agree_self_iff
  sameType h := (Value.equal_iff_agree.mp h).sameType
  isNull h := (Value.equal_iff_agree.mp h).isNull_eq
  asNull_twice := Value.asNull_asNull
  asNull_null := Value.isNull_asNull
  asNull_type := Value.sameType_asNull

end RowBind
