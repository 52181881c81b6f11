import RowBind.Proofs.Record.Outline
import RowBind.Cursor
import RowBind.Route

/-!
# Rows that are written into records

A row is written into a record through the slots of the leaves that the routes claim, and
the leaves are put back.  This is said here without slots: position by position, what
becomes of the leaf that a column claims, and of a leaf that no column claims.

Writing a row is an all or nothing affair as far as its outcome goes: it goes well exactly
when every value converts that goes to a leaf.  Values that go nowhere are not looked at.

Main statements: `takeRow_ok_iff`, when a row is written; `takeRow_written` and
`takeRow_kept`, what the leaves hold then; `takeRow_outline`, nothing else changes; and
`takeRow_congr`, values that go nowhere make no difference.
-/

namespace RowBind

variable {τ : Type} [ColumnFamily τ]

/-! ## Filling slots -/

/-- A slot that leads to a column takes what the column takes. -/
theorem Slot.assign_column_eq_ok_iff {cell : Cell τ} {value : Value} {slot : Slot τ} :
    (Slot.field (.column cell)).assign value = .ok slot ↔
      ∃ new, cell.receive value = .ok new ∧ slot = .field (.column new) := by
  cases h : cell.receive value with
  | error failure => simp [assign, Destination.receive, h]
  | ok new => simp [assign, Destination.receive, h, eq_comm]

/-- Each slot of a row that was written holds what was assigned to it. -/
theorem fillFrom_getElem {columns index : Nat} {slots : List (Slot τ)} {row : List Value}
    (hok : (fillFrom columns index slots row).1 = .ok ()) {j : Nat} {slot : Slot τ}
    {value : Value} (hslot : slots[j]? = some slot) (hvalue : row[j]? = some value) :
    ∃ new, slot.assign value = .ok new ∧
      (fillFrom columns index slots row).2[j]? = some new := by
  induction slots generalizing index row j with
  | nil => simp at hslot
  | cons first slots ih =>
      cases row with
      | nil => simp at hvalue
      | cons head row =>
          cases hassign : first.assign head with
          | error failure => simp [fillFrom, hassign] at hok
          | ok new =>
              simp only [fillFrom, hassign] at hok ⊢
              cases j with
              | zero =>
                  simp only [List.getElem?_cons_zero, Option.some.injEq] at hslot hvalue ⊢
                  exact ⟨new, by rw [← hslot, ← hvalue, hassign], rfl⟩
              | succ j =>
                  simp only [List.getElem?_cons_succ] at hslot hvalue ⊢
                  exact ih hok hslot hvalue

/-- A row is written if there are as many values as slots and every slot takes its value. -/
theorem fillFrom_ok (columns index : Nat) {slots : List (Slot τ)} {row : List Value}
    (hlength : row.length = slots.length)
    (htake : ∀ (j : Nat) (slot : Slot τ) (value : Value), slots[j]? = some slot →
      row[j]? = some value → ∃ new, slot.assign value = .ok new) :
    (fillFrom columns index slots row).1 = .ok () := by
  induction slots generalizing index row with
  | nil =>
      have hrow : row = [] := by simpa using hlength
      simp [hrow, fillFrom]
  | cons first slots ih =>
      cases row with
      | nil => simp at hlength
      | cons head row =>
          obtain ⟨new, hassign⟩ := htake 0 first head rfl rfl
          simp only [fillFrom, hassign]
          exact ih (index + 1) (by simpa using hlength) fun j => htake (j + 1)

/-- Values that are discarded make no difference. -/
theorem fillFrom_congr (columns index : Nat) {slots : List (Slot τ)} {row other : List Value}
    (hlength : row.length = other.length)
    (hsame : ∀ (j : Nat) (target : Destination τ), slots[j]? = some (.field target) →
      row[j]? = other[j]?) :
    fillFrom columns index slots row = fillFrom columns index slots other := by
  induction slots generalizing index row other with
  | nil => cases row <;> cases other <;> simp_all [fillFrom]
  | cons first slots ih =>
      cases row with
      | nil => rw [List.eq_nil_of_length_eq_zero hlength.symm]
      | cons head row =>
          obtain ⟨head', other, rfl⟩ := List.exists_cons_of_length_eq_add_one hlength.symm
          have hrest := fun index => ih index (by simpa using hlength) fun j => hsame (j + 1)
          cases first with
          | discard => simp [fillFrom, Slot.assign_discard, hrest]
          | field target =>
              have hhead : head = head' := by simpa using hsame 0 target rfl
              simp only [fillFrom, hhead, hrest]

/-! ## Claims -/

/-- A leaf is claimed once. -/
theorem claims_inj {size : Nat} {routes : Routes} {i j leaf : Nat}
    (hi : (claims size routes)[i]? = some (some leaf))
    (hj : (claims size routes)[j]? = some (some leaf)) : i = j := by
  obtain ⟨hroute, -, hfirst⟩ := claims_eq_some_iff.mp hi
  obtain ⟨hroute', -, hfirst'⟩ := claims_eq_some_iff.mp hj
  rcases Nat.lt_trichotomy i j with hlt | heq | hlt
  · exact absurd hroute (hfirst' i hlt)
  · exact heq
  · exact absurd hroute' (hfirst j hlt)

/-- A leaf that is not claimed is put back as it was. -/
theorem putBack_getElem_of_unclaimed {claims : List (Option Nat)} {leaf : Nat}
    (h : ∀ i : Nat, claims[i]? ≠ some (some leaf)) (slots : List (Slot τ))
    (cells : List (Cell τ)) : (putBack claims slots cells)[leaf]? = cells[leaf]? := by
  fun_induction putBack claims slots cells with
  | case1 first claims cell slots cells ih =>
      have hne : first ≠ leaf := fun heq => h 0 (by simp [heq])
      rw [ih fun i => h (i + 1), List.getElem?_set_ne hne]
  | case2 claim claims slot slots cells hother ih => exact ih fun i => h (i + 1)
  | case3 => rfl

/-- A leaf that is claimed is put back as its slot holds it. -/
theorem putBack_getElem_of_claimed {claims : List (Option Nat)} {leaf i : Nat}
    (hclaim : claims[i]? = some (some leaf))
    (honce : ∀ j : Nat, claims[j]? = some (some leaf) → j = i) {slots : List (Slot τ)}
    {cell : Cell τ} (hslot : slots[i]? = some (.field (.column cell))) {cells : List (Cell τ)}
    (hleaf : leaf < cells.length) : (putBack claims slots cells)[leaf]? = some cell := by
  fun_induction putBack claims slots cells generalizing i with
  | case1 first claims held slots cells ih =>
      cases i with
      | zero =>
          simp only [List.getElem?_cons_zero, Option.some.injEq, Slot.field.injEq,
            Destination.column.injEq] at hclaim hslot
          subst hclaim hslot
          have hlater : ∀ j : Nat, claims[j]? ≠ some (some first) :=
            fun j hj => absurd (honce (j + 1) (by simpa using hj)) (by omega)
          rw [putBack_getElem_of_unclaimed hlater, List.getElem?_set_self hleaf]
      | succ i =>
          refine ih (by simpa using hclaim) (fun j hj => ?_) (by simpa using hslot)
            (by simpa using hleaf)
          simpa using honce (j + 1) (by simpa using hj)
  | case2 claim claims slot slots cells hother ih =>
      cases i with
      | zero =>
          simp only [List.getElem?_cons_zero, Option.some.injEq] at hclaim hslot
          exact absurd hslot (hother leaf cell hclaim)
      | succ i =>
          refine ih (by simpa using hclaim) (fun j hj => ?_) (by simpa using hslot) hleaf
          simpa using honce (j + 1) (by simpa using hj)
  | case3 claims slots cells hfirst hend =>
      cases claims with
      | nil => simp at hclaim
      | cons claim claims =>
          cases slots with
          | nil => simp at hslot
          | cons slot slots => exact absurd rfl (hend claim claims slot slots rfl)

/-! ## Rows and records -/

namespace Record

/-- Writes a row into a record: whether that went well, and the record then. -/
def takeRow (fields : Record τ) (routes : Routes) (row : Row) : Outcome Unit × Record τ :=
  let claims := claims fields.cells.length routes
  let filled := fillRow (claims.map (slotOf fields.cells)) row
  (filled.1, fields.refill (putBack claims filled.2 fields.cells))

variable {fields : Record τ} {routes : Routes} {row : Row}

/-- The leaf at position `k` is claimed through the route at position `i`. -/
def ClaimedBy (fields : Record τ) (routes : Routes) (k i : Nat) : Prop :=
  (claims fields.cells.length routes)[i]? = some (some k)

/-- The slot of a column that claims a leaf leads to it. -/
theorem ClaimedBy.slot {k i : Nat} (h : fields.ClaimedBy routes k i) {cell : Cell τ}
    (hcell : fields.cells[k]? = some cell) :
    ((claims fields.cells.length routes).map (slotOf fields.cells))[i]? =
      some (.field (.column cell)) := by
  rw [List.getElem?_map, h]
  simp [slotOf, hcell]

/-- A slot that leads anywhere leads to a leaf that is claimed. -/
theorem claimedBy_of_slot {i : Nat} {target : Destination τ}
    (h : ((claims fields.cells.length routes).map (slotOf fields.cells))[i]? =
      some (.field target)) :
    ∃ k cell, fields.ClaimedBy routes k i ∧ fields.cells[k]? = some cell ∧
      target = .column cell := by
  rw [List.getElem?_map] at h
  obtain ⟨claim, hclaim, hslot⟩ := Option.map_eq_some_iff.mp h
  unfold slotOf at hslot
  split at hslot
  · next cell hcell =>
    obtain ⟨k, rfl, hleaf⟩ := Option.bind_eq_some_iff.mp hcell
    cases hslot
    exact ⟨k, cell, hclaim, hleaf, rfl⟩
  · cases hslot

theorem cells_takeRow : (fields.takeRow routes row).2.cells =
    putBack (claims fields.cells.length routes)
      (fillRow ((claims fields.cells.length routes).map (slotOf fields.cells)) row).2
      fields.cells :=
  cells_refill fields _ (putBack_length _ _ _)

theorem layout_takeRow : (fields.takeRow routes row).2.layout = fields.layout :=
  layout_refill fields _

/-- **What a leaf holds that a column claims.**  It is the value of the column,
converted. -/
theorem takeRow_written (hok : (fields.takeRow routes row).1 = .ok ()) {k i : Nat}
    (hclaim : fields.ClaimedBy routes k i) {cell : Cell τ} (hcell : fields.cells[k]? = some cell)
    {value : Value} (hvalue : row[i]? = some value) :
    ∃ new, cell.receive value = .ok new ∧
      (fields.takeRow routes row).2.cells[k]? = some new := by
  obtain ⟨slot, hassign, hslot⟩ := fillFrom_getElem hok (hclaim.slot hcell) hvalue
  obtain ⟨new, hnew, rfl⟩ := Slot.assign_column_eq_ok_iff.mp hassign
  refine ⟨new, hnew, ?_⟩
  rw [cells_takeRow]
  exact putBack_getElem_of_claimed hclaim (fun j hj => claims_inj hj hclaim) hslot
    (List.getElem?_eq_some_iff.mp hcell).1

/-- A leaf that no column claims holds what it held before. -/
theorem takeRow_kept (row : Row) {k : Nat} (h : ∀ i, ¬ fields.ClaimedBy routes k i) :
    (fields.takeRow routes row).2.cells[k]? = fields.cells[k]? := by
  rw [cells_takeRow]
  exact putBack_getElem_of_unclaimed h _ _

/-- **When a row is written.**  A row with a value for each column is written exactly when
every value converts that goes to a leaf. -/
theorem takeRow_ok_iff (hlength : row.length = routes.length) :
    (fields.takeRow routes row).1 = .ok () ↔
      ∀ (k i : Nat) (cell : Cell τ) (value : Value), fields.ClaimedBy routes k i →
        fields.cells[k]? = some cell → row[i]? = some value →
          ∃ new, cell.receive value = .ok new := by
  constructor
  · intro hok k i cell value hclaim hcell hvalue
    obtain ⟨new, hnew, -⟩ := takeRow_written hok hclaim hcell hvalue
    exact ⟨new, hnew⟩
  · intro hconvert
    refine fillFrom_ok _ 0 (by simp [hlength, claims_length]) fun j slot value hslot hvalue => ?_
    cases slot with
    | discard => exact ⟨.discard, rfl⟩
    | field target =>
        obtain ⟨k, cell, hclaim, hcell, rfl⟩ := claimedBy_of_slot hslot
        obtain ⟨new, hnew⟩ := hconvert k j cell value hclaim hcell hvalue
        exact ⟨.field (.column new), Slot.assign_column_eq_ok_iff.mpr ⟨new, hnew, rfl⟩⟩

/-- A row that is written changes nothing but leaves. -/
theorem takeRow_outline (hlength : row.length = routes.length)
    (hok : (fields.takeRow routes row).1 = .ok ()) :
    (fields.takeRow routes row).2.outline = fields.outline := by
  refine outline_refill fields (List.ext_getElem? fun k => ?_)
  rw [← cells_takeRow, List.getElem?_map, List.getElem?_map]
  by_cases hclaimed : ∃ i, fields.ClaimedBy routes k i
  · obtain ⟨i, hclaim⟩ := hclaimed
    obtain ⟨hroute, hleaf, -⟩ := claims_eq_some_iff.mp hclaim
    have hcell := List.getElem?_eq_getElem hleaf
    have hvalue : row[i]? = some _ := List.getElem?_eq_getElem (by
      rw [hlength]
      exact (List.getElem?_eq_some_iff.mp hroute).1)
    obtain ⟨new, hnew, hwritten⟩ := takeRow_written hok hclaim hcell hvalue
    rw [hwritten, hcell, Option.map_some, Option.map_some, Cell.receive_type hnew]
  · rw [takeRow_kept row fun i hclaim => hclaimed ⟨i, hclaim⟩]

/-- **Values that go nowhere make no difference.**  Rows that agree where a leaf is claimed
turn out alike, also where they are not written. -/
theorem takeRow_congr {other : Row} (hlength : row.length = other.length)
    (hsame : ∀ k i, fields.ClaimedBy routes k i → row[i]? = other[i]?) :
    fields.takeRow routes row = fields.takeRow routes other := by
  have hfill : fillRow ((claims fields.cells.length routes).map (slotOf fields.cells)) row =
      fillRow ((claims fields.cells.length routes).map (slotOf fields.cells)) other := by
    refine fillFrom_congr _ 0 hlength fun j target hslot => ?_
    obtain ⟨k, cell, hclaim, -, -⟩ := claimedBy_of_slot hslot
    exact hsame k j hclaim
  simp only [takeRow, hfill]

end Record

end RowBind
