import RowBind.Proofs.Reader.Suiting

/-!
# Columns that are deleted

A column that goes nowhere takes nothing from the others, so it makes no difference whether it
is there: without it the routes, the claims and the slots of the columns that are left are as
they were, only closer together.  A row without its value is written or refused as before, and
the leaves it is put back to are the same.

What is deleted is said by a mask, with a truth value for each column.

Main statements: `claimsFrom_keepWhere`, columns that go nowhere do not claim;
`fillFrom_keepWhere`, what becomes of a row without some of its values; and `putBack_keepWhere`,
where the leaves end up.
-/

namespace RowBind

/-! ## Masks -/

/-- The elements of a list where a mask says so. -/
def keepWhere {α : Type} : List Bool → List α → List α
  | true :: mask, first :: list => first :: keepWhere mask list
  | false :: mask, _ :: list => keepWhere mask list
  | _, _ => []

section

variable {α β : Type}

theorem keepWhere_nil (mask : List Bool) : keepWhere mask ([] : List α) = [] := by
  cases mask with
  | nil => rfl
  | cons keep mask => cases keep <;> rfl

theorem keepWhere_map (f : α → β) (mask : List Bool) (list : List α) :
    keepWhere mask (list.map f) = (keepWhere mask list).map f := by
  induction list generalizing mask with
  | nil => simp [keepWhere_nil]
  | cons first list ih =>
      cases mask with
      | nil => rfl
      | cons keep mask => cases keep <;> simp [keepWhere, ih]

end

/-- The column finds a field. -/
def Layout.resolves (layout : Layout) (rule : NameRule) (column : String) : Bool :=
  ((NameTable.ofLayout rule layout).find? column).isSome

/-- The columns that find a field. -/
def Layout.mask (layout : Layout) (rule : NameRule) (columns : List String) : List Bool :=
  columns.map (layout.resolves rule)

/-- A column finds a field exactly if its route leads somewhere. -/
theorem Layout.mask_eq (layout : Layout) (rule : NameRule) (columns : List String) :
    layout.mask rule columns = (layout.routes rule columns).map (·.isSome) := by
  simp [mask, routes, resolves, Function.comp_def]

/-- The routes of the columns that are left. -/
theorem Layout.routes_keepWhere (layout : Layout) (rule : NameRule) (mask : List Bool)
    (columns : List String) :
    layout.routes rule (keepWhere mask columns) = keepWhere mask (layout.routes rule columns) :=
  (keepWhere_map _ mask columns).symm

/-- Every column that is left finds a field. -/
theorem Layout.isSome_of_mem_keepWhere {layout : Layout} {rule : NameRule} {columns : List String}
    {name : String} (h : name ∈ keepWhere (layout.mask rule columns) columns) :
    layout.resolves rule name = true := by
  induction columns with
  | nil => cases h
  | cons first columns ih =>
      cases hfirst : layout.resolves rule first with
      | true =>
          simp only [mask, List.map_cons, hfirst, keepWhere, List.mem_cons] at h
          rcases h with rfl | hlater
          · exact hfirst
          · exact ih hlater
      | false =>
          simp only [mask, List.map_cons, hfirst, keepWhere] at h
          exact ih h

/-! ## Claims -/

/-- **Columns that go nowhere do not claim.** -/
theorem claimsFrom_keepWhere (size : Nat) (taken : List Nat) (routes : Routes) :
    claimsFrom size taken (keepWhere (routes.map (·.isSome)) routes) =
      keepWhere (routes.map (·.isSome)) (claimsFrom size taken routes) := by
  induction routes generalizing taken with
  | nil => rfl
  | cons route routes ih =>
      cases route with
      | none => simpa [keepWhere, claimsFrom] using ih taken
      | some leaf =>
          by_cases hfree : leaf < size ∧ leaf ∉ taken
          · simp [keepWhere, claimsFrom, hfree, ih]
          · simp [keepWhere, claimsFrom, hfree, ih]

section

variable {τ : Type} [ColumnFamily τ]

/-- Slots that discard wherever a mask deletes. -/
inductive Covers : List Bool → List (Slot τ) → Prop
  | nil : Covers [] []
  | kept {mask : List Bool} {slots : List (Slot τ)} (slot : Slot τ) (h : Covers mask slots) :
    Covers (true :: mask) (slot :: slots)
  | deleted {mask : List Bool} {slots : List (Slot τ)} (h : Covers mask slots) :
    Covers (false :: mask) (.discard :: slots)

theorem Covers.length_eq {mask : List Bool} {slots : List (Slot τ)} (h : Covers mask slots) :
    slots.length = mask.length := by
  induction h with
  | nil => rfl
  | kept slot h ih => simp [ih]
  | deleted h ih => simp [ih]

/-- The slot of a column that goes nowhere discards. -/
theorem covers_claimsFrom (cells : List (Cell τ)) (size : Nat) (taken : List Nat)
    (routes : Routes) :
    Covers (routes.map (·.isSome)) ((claimsFrom size taken routes).map (slotOf cells)) := by
  induction routes generalizing taken with
  | nil => exact .nil
  | cons route routes ih =>
      cases route with
      | none => exact .deleted (ih taken)
      | some leaf =>
          by_cases hfree : leaf < size ∧ leaf ∉ taken
          · simp only [claimsFrom, if_pos hfree]
            exact .kept _ (ih (leaf :: taken))
          · simp only [claimsFrom, if_neg hfree]
            exact .kept _ (ih taken)

/-! ## Rows -/

/-- **A row without values that are discarded** is written where it was written before, and
into the slots that are left as before.  Where it is refused, the reason tells of another
position. -/
theorem fillFrom_keepWhere {mask : List Bool} {slots : List (Slot τ)} (h : Covers mask slots)
    (columns index columns' index' : Nat) {row : Row} (hlength : row.length = mask.length) :
    (fillFrom columns' index' (keepWhere mask slots) (keepWhere mask row)).1.toOption =
        (fillFrom columns index slots row).1.toOption ∧
      (fillFrom columns' index' (keepWhere mask slots) (keepWhere mask row)).2 =
        keepWhere mask (fillFrom columns index slots row).2 := by
  induction h generalizing index index' row with
  | nil =>
      have hrow : row = [] := List.eq_nil_of_length_eq_zero hlength
      simp [hrow, keepWhere, fillFrom]
  | @kept mask slots slot h ih =>
      obtain ⟨value, row, rfl⟩ := List.exists_cons_of_length_eq_add_one hlength
      have hrest : row.length = mask.length := by simpa using hlength
      obtain ⟨houtcome, hslots⟩ := ih (index + 1) (index' + 1) hrest
      cases hassign : slot.assign value with
      | error failure => simp [keepWhere, fillFrom, hassign, Except.toOption]
      | ok new => simp [keepWhere, fillFrom, hassign, houtcome, hslots]
  | @deleted mask slots h ih =>
      obtain ⟨value, row, rfl⟩ := List.exists_cons_of_length_eq_add_one hlength
      have hrest : row.length = mask.length := by simpa using hlength
      obtain ⟨houtcome, hslots⟩ := ih (index + 1) index' hrest
      simp [keepWhere, fillFrom, Slot.assign_discard, houtcome, hslots]

/-- **Leaves are put back as before**: a column that goes nowhere claims none. -/
theorem putBack_keepWhere (size : Nat) (taken : List Nat) {routes : Routes}
    {slots : List (Slot τ)} (hlength : slots.length = routes.length) (cells : List (Cell τ)) :
    putBack (keepWhere (routes.map (·.isSome)) (claimsFrom size taken routes))
        (keepWhere (routes.map (·.isSome)) slots) cells =
      putBack (claimsFrom size taken routes) slots cells := by
  induction routes generalizing taken slots cells with
  | nil =>
      have hslots : slots = [] := List.eq_nil_of_length_eq_zero hlength
      simp [hslots, keepWhere, claimsFrom]
  | cons route routes ih =>
      obtain ⟨slot, slots, rfl⟩ := List.exists_cons_of_length_eq_add_one hlength
      have hrest : slots.length = routes.length := by simpa using hlength
      cases route with
      | none =>
          simp only [List.map_cons, Option.isSome_none, keepWhere, claimsFrom, putBack]
          exact ih taken hrest cells
      | some leaf =>
          by_cases hfree : leaf < size ∧ leaf ∉ taken
          · simp only [List.map_cons, Option.isSome_some, keepWhere, claimsFrom, if_pos hfree]
            rcases slot with (cell | ⟨info, fields⟩) | _
            · exact ih (leaf :: taken) hrest (cells.set leaf cell)
            · exact ih (leaf :: taken) hrest cells
            · exact ih (leaf :: taken) hrest cells
          · simp only [List.map_cons, Option.isSome_some, keepWhere, claimsFrom, if_neg hfree,
              putBack]
            exact ih taken hrest cells

end

end RowBind
