import RowBind.Proofs.Route.Filling

/-!
# Rows that are refused

A row is written value by value, up to the first slot that refuses its value.  The slots
before that one hold their values, converted; the slot itself and those behind it are as they
were.  Where no slot refuses its value, every slot that has a value takes it, and it is only
then that the row is found to be too short or too long.

So what is left of a row in a record is told by the position at which the writing stopped:
the leaves that are claimed by columns before it were written, and nothing else has changed.
What was written is told by the conversion of its value, and by nothing else.

Main statements: `Destination.receive_eq_ok_iff` and `Destination.receive_eq_error_iff`, what a
destination takes and refuses; `rowAccount`, what becomes of any row in any slots; and
`Record.takeRow_upTo`, what becomes of it in a record.
-/

namespace RowBind

variable {τ : Type} [ColumnFamily τ]

/-! ## Single values -/

namespace Destination

/-- A destination takes a value, and this is what it is then: a column that holds what the value
converts to, or a record that was decoded from the value. -/
inductive Takes (value : Value) : Destination τ → Destination τ → Prop
  | column {cell : Cell τ} {content : Content cell.type}
      (h : ofValue cell.type value = .ok content) :
      Takes value (.column cell) (.column ⟨cell.type, content⟩)
  | record {info : RecordInfo τ} {fields decoded : Record τ} {decode : Value → Outcome (Record τ)}
      (hdecode : info.decode = some decode) (h : decode value = .ok decoded) :
      Takes value (.record info fields) (.record info decoded)

/-- A destination refuses a value: it does not convert, it is not decoded, or there is no decoder
for it. -/
inductive Refuses (value : Value) (failure : Failure) : Destination τ → Prop
  | column {cell : Cell τ} (h : ofValue cell.type value = .error failure) :
      Refuses value failure (.column cell)
  | record {info : RecordInfo τ} {fields : Record τ} {decode : Value → Outcome (Record τ)}
      (hdecode : info.decode = some decode) (h : decode value = .error failure) :
      Refuses value failure (.record info fields)
  | undecodable {info : RecordInfo τ} {fields : Record τ} (hdecode : info.decode = none)
      (h : failure = .of (.notDecodable info.name)) : Refuses value failure (.record info fields)

theorem receive_eq_ok_iff {dest new : Destination τ} {value : Value} :
    dest.receive value = .ok new ↔ dest.Takes value new := by
  constructor
  · intro h
    cases dest with
    | column cell =>
        cases hcell : cell.receive value with
        | error failure => simp [receive, hcell] at h
        | ok taken =>
            obtain ⟨content, hcontent, rfl⟩ := Cell.receive_eq_ok_iff.mp hcell
            simp only [receive, hcell, Except.ok.injEq] at h
            exact h ▸ .column hcontent
    | record info fields =>
        cases hdecode : info.decode with
        | none => simp [receive, hdecode, failFor] at h
        | some decode =>
            cases hdecoded : decode value with
            | error failure => simp [receive, hdecode, hdecoded] at h
            | ok decoded =>
                simp only [receive, hdecode, hdecoded, Except.ok.injEq] at h
                exact h ▸ .record hdecode hdecoded
  · rintro (⟨hcontent⟩ | ⟨hdecode, hdecoded⟩)
    · simp [receive, Cell.receive_eq_ok_iff.mpr ⟨_, hcontent, rfl⟩]
    · simp [receive, hdecode, hdecoded]

theorem receive_eq_error_iff {dest : Destination τ} {value : Value} {failure : Failure} :
    dest.receive value = .error failure ↔ dest.Refuses value failure := by
  constructor
  · intro h
    cases dest with
    | column cell =>
        cases hcell : cell.receive value with
        | error other =>
            simp only [receive, hcell, Except.error.injEq] at h
            exact .column (Cell.receive_eq_error_iff.mp (h ▸ hcell))
        | ok taken => simp [receive, hcell] at h
    | record info fields =>
        cases hdecode : info.decode with
        | none =>
            simp only [receive, hdecode, failFor, Except.error.injEq] at h
            exact .undecodable hdecode h.symm
        | some decode =>
            cases hdecoded : decode value with
            | error other =>
                simp only [receive, hdecode, hdecoded, Except.error.injEq] at h
                exact .record hdecode (h ▸ hdecoded)
            | ok decoded => simp [receive, hdecode, hdecoded] at h
  · rintro (hcontent | ⟨hdecode, hdecoded⟩ | ⟨hdecode, rfl⟩)
    · simp [receive, Cell.receive_eq_error_iff.mpr hcontent]
    · simp [receive, hdecode, hdecoded]
    · simp [receive, hdecode, failFor]

/-- A value that is refused is not taken. -/
theorem Refuses.not_takes {dest new : Destination τ} {value : Value} {failure : Failure}
    (h : dest.Refuses value failure) : ¬ dest.Takes value new := by
  rw [← receive_eq_error_iff] at h
  simp [← receive_eq_ok_iff, h]

/-- A value is refused for one reason. -/
theorem Refuses.unique {dest : Destination τ} {value : Value} {failure other : Failure}
    (h : dest.Refuses value failure) (hother : dest.Refuses value other) : failure = other := by
  rw [← receive_eq_error_iff] at h hother
  exact Except.error.inj (h.symm.trans hother)

end Destination

/-! ## The first refusal -/

/-- The slot at a position is the first one that refuses its value. -/
structure FirstRefused (slots : List (Slot τ)) (row : Row) (j : Nat) (failure : Failure) :
    Prop where
  refuses : ∃ target value, slots[j]? = some (.field target) ∧ row[j]? = some value ∧
    target.Refuses value failure
  /-- The slots before it take theirs. -/
  takes : ∀ {i : Nat} {target : Destination τ} {value : Value}, i < j →
    slots[i]? = some (.field target) → row[i]? = some value → ∃ new, target.Takes value new

/-- A row was written up to a position, and no further. -/
structure FilledUpTo (slots : List (Slot τ)) (row : Row) (stop : Nat) (after : List (Slot τ)) :
    Prop where
  written : ∀ {i : Nat} {target : Destination τ}, i < stop → slots[i]? = some (.field target) →
    ∃ value new, row[i]? = some value ∧ target.Takes value new ∧ after[i]? = some (.field new)
  kept : ∀ {i : Nat}, stop ≤ i → after[i]? = slots[i]?
  /-- A slot that discards goes on discarding. -/
  discards : ∀ {i : Nat}, slots[i]? = some .discard → after[i]? = some .discard

theorem Slot.assign_field_error_iff {target : Destination τ} {value : Value} {failure : Failure} :
    (Slot.field target).assign value = .error failure ↔ target.Refuses value failure := by
  rw [← Destination.receive_eq_error_iff]
  cases h : target.receive value <;> simp [assign, h]

theorem Slot.assign_field_ok_iff {target : Destination τ} {value : Value} {slot : Slot τ} :
    (Slot.field target).assign value = .ok slot ↔
      ∃ new, target.Takes value new ∧ slot = .field new := by
  simp only [← Destination.receive_eq_ok_iff]
  cases h : target.receive value <;> simp [assign, h, eq_comm]

/-- Nothing is written up to the first position. -/
theorem FilledUpTo.zero (slots : List (Slot τ)) (row : Row) : FilledUpTo slots row 0 slots where
  written hlt := absurd hlt (Nat.not_lt_zero _)
  kept _ := rfl
  discards hslot := hslot

/-- A row is written through its first slot and then through those behind it. -/
theorem FilledUpTo.cons {slot new : Slot τ} {slots after : List (Slot τ)} {value : Value}
    {row : Row} {stop : Nat} (hassign : slot.assign value = .ok new)
    (h : FilledUpTo slots row stop after) :
    FilledUpTo (slot :: slots) (value :: row) (stop + 1) (new :: after) where
  written {i target} hlt hslot := by
    cases i with
    | zero =>
        simp only [List.getElem?_cons_zero, Option.some.injEq] at hslot ⊢
        subst hslot
        obtain ⟨taken, htaken, rfl⟩ := Slot.assign_field_ok_iff.mp hassign
        exact ⟨value, taken, rfl, htaken, rfl⟩
    | succ i => exact h.written (Nat.lt_of_succ_lt_succ hlt) (by simpa using hslot)
  kept {i} hle := by
    obtain ⟨i, rfl⟩ := Nat.exists_eq_add_of_lt hle
    simpa [Nat.add_right_comm] using h.kept (Nat.le_add_right stop i)
  discards {i} hslot := by
    cases i with
    | zero =>
        simp only [List.getElem?_cons_zero, Option.some.injEq] at hslot ⊢
        subst hslot
        simpa [Slot.assign_discard] using hassign.symm
    | succ i => exact h.discards (by simpa using hslot)

/-- A first slot that takes its value moves the first refusal by one. -/
theorem firstRefused_cons {slot new : Slot τ} {slots : List (Slot τ)} {value : Value} {row : Row}
    (hassign : slot.assign value = .ok new) {j : Nat} {failure : Failure}
    (h : FirstRefused (slot :: slots) (value :: row) j failure) :
    ∃ i, j = i + 1 ∧ FirstRefused slots row i failure := by
  cases j with
  | zero =>
      obtain ⟨target, first, hslot, hvalue, hrefused⟩ := h.refuses
      simp only [List.getElem?_cons_zero, Option.some.injEq] at hslot hvalue
      subst hslot hvalue
      rw [Slot.assign_field_error_iff.mpr hrefused] at hassign
      cases hassign
  | succ i =>
      refine ⟨i, rfl, by simpa using h.refuses, fun hlt hslot hvalue => ?_⟩
      exact h.takes (Nat.succ_lt_succ hlt) (by simpa using hslot) (by simpa using hvalue)

theorem FirstRefused.cons {slot new : Slot τ} {slots : List (Slot τ)} {value : Value} {row : Row}
    (hassign : slot.assign value = .ok new) {i : Nat} {failure : Failure}
    (h : FirstRefused slots row i failure) :
    FirstRefused (slot :: slots) (value :: row) (i + 1) failure where
  refuses := by simpa using h.refuses
  takes {k target head} hlt hslot hvalue := by
    cases k with
    | zero =>
        simp only [List.getElem?_cons_zero, Option.some.injEq] at hslot hvalue
        subst hslot hvalue
        obtain ⟨taken, htaken, -⟩ := Slot.assign_field_ok_iff.mp hassign
        exact ⟨taken, htaken⟩
    | succ k =>
        exact h.takes (Nat.lt_of_succ_lt_succ hlt) (by simpa using hslot) (by simpa using hvalue)

/-- A slot that refuses its value at the front is the first one. -/
theorem firstRefused_zero {slot : Slot τ} {slots : List (Slot τ)} {value : Value} {row : Row}
    {failure : Failure} (hassign : slot.assign value = .error failure) :
    FirstRefused (slot :: slots) (value :: row) 0 failure := by
  cases slot with
  | discard => cases hassign
  | field target =>
      exact ⟨⟨target, value, rfl, rfl, Slot.assign_field_error_iff.mp hassign⟩,
        fun hlt => absurd hlt (Nat.not_lt_zero _)⟩

/-- Where a slot refuses its value, one of them is the first. -/
theorem exists_firstRefused {slots : List (Slot τ)} {row : Row} {i : Nat}
    {target : Destination τ} {value : Value} {failure : Failure}
    (hslot : slots[i]? = some (.field target)) (hvalue : row[i]? = some value)
    (hrefused : target.Refuses value failure) :
    ∃ j other, j ≤ i ∧ FirstRefused slots row j other := by
  induction slots generalizing row i with
  | nil => simp at hslot
  | cons slot slots ih =>
      cases row with
      | nil => simp at hvalue
      | cons head row =>
          cases hassign : slot.assign head with
          | error other => exact ⟨0, other, Nat.zero_le i, firstRefused_zero hassign⟩
          | ok new =>
              cases i with
              | zero =>
                  simp only [List.getElem?_cons_zero, Option.some.injEq] at hslot hvalue
                  subst hslot hvalue
                  rw [Slot.assign_field_error_iff.mpr hrefused] at hassign
                  cases hassign
              | succ i =>
                  obtain ⟨j, other, hle, hfirst⟩ :=
                    ih (by simpa using hslot) (by simpa using hvalue)
                  exact ⟨j + 1, other, Nat.succ_le_succ hle, hfirst.cons hassign⟩

/-- Only one slot is the first that refuses. -/
theorem FirstRefused.unique {slots : List (Slot τ)} {row : Row} {j k : Nat}
    {failure other : Failure} (hj : FirstRefused slots row j failure)
    (hk : FirstRefused slots row k other) : j = k ∧ failure = other := by
  obtain ⟨target, value, hslot, hvalue, hrefused⟩ := hj.refuses
  obtain ⟨target', value', hslot', hvalue', hrefused'⟩ := hk.refuses
  rcases Nat.lt_trichotomy j k with hlt | rfl | hlt
  · obtain ⟨new, hnew⟩ := hk.takes hlt hslot hvalue
    exact absurd hnew hrefused.not_takes
  · rw [hslot, Option.some.injEq, Slot.field.injEq] at hslot'
    rw [hvalue, Option.some.injEq] at hvalue'
    subst hslot' hvalue'
    exact ⟨rfl, hrefused.unique hrefused'⟩
  · obtain ⟨new, hnew⟩ := hj.takes hlt hslot' hvalue'
    exact absurd hnew hrefused'.not_takes

/-! ## The account of a row -/

/-- What a row comes to behind its last value. -/
def lengthVerdict (values columns : Nat) : Outcome Unit :=
  if values = columns then .ok ()
  else if values < columns then failFor (.shortRow values columns)
  else failFor (.longRow columns)

/-- A row goes well behind its last value exactly if its length is right. -/
theorem lengthVerdict_eq_ok_iff {values columns : Nat} :
    lengthVerdict values columns = .ok () ↔ values = columns := by
  unfold lengthVerdict failFor
  split
  · simp [*]
  · split <;> simp [*]

/-- The writing stops at the first slot that refuses its value. -/
theorem fillFrom_refused (columns index : Nat) {slots : List (Slot τ)} {row : Row} {j : Nat}
    {failure : Failure} (h : FirstRefused slots row j failure) :
    (fillFrom columns index slots row).1 = .error (failure.within (.assigning (index + j))) ∧
      FilledUpTo slots row j (fillFrom columns index slots row).2 := by
  induction slots generalizing index row j with
  | nil =>
      obtain ⟨target, value, hslot, -⟩ := h.refuses
      simp at hslot
  | cons slot slots ih =>
      cases row with
      | nil =>
          obtain ⟨target, value, -, hvalue, -⟩ := h.refuses
          simp at hvalue
      | cons value row =>
          cases hassign : slot.assign value with
          | error other =>
              obtain ⟨rfl, rfl⟩ := h.unique (firstRefused_zero hassign)
              simp only [fillFrom, hassign]
              exact ⟨rfl, .zero _ _⟩
          | ok new =>
              obtain ⟨i, rfl, hlater⟩ := firstRefused_cons hassign h
              obtain ⟨houtcome, hfilled⟩ := ih (index + 1) hlater
              simp only [fillFrom, hassign]
              refine ⟨?_, .cons hassign hfilled⟩
              rw [houtcome, Nat.add_assoc, Nat.add_comm 1 i]

/-- Where no slot refuses its value, every slot that has one takes it. -/
theorem fillFrom_taken (index : Nat) {slots : List (Slot τ)} {row : Row}
    (h : ∀ j failure, ¬ FirstRefused slots row j failure) :
    (fillFrom (index + slots.length) index slots row).1 =
        lengthVerdict (index + row.length) (index + slots.length) ∧
      FilledUpTo slots row row.length (fillFrom (index + slots.length) index slots row).2 := by
  induction slots generalizing index row with
  | nil =>
      cases row with
      | nil => simp [fillFrom, lengthVerdict, FilledUpTo.zero]
      | cons value row =>
          have hlong : ¬ index + (value :: row).length < index + ([] : List (Slot τ)).length := by
            simp
          refine ⟨?_, by constructor <;> simp [fillFrom]⟩
          rw [lengthVerdict, if_neg (by simp), if_neg hlong]
          rfl
  | cons slot slots ih =>
      cases row with
      | nil => exact ⟨by simp [fillFrom, lengthVerdict], .zero _ _⟩
      | cons value row =>
          cases hassign : slot.assign value with
          | error failure => exact absurd (firstRefused_zero hassign) (h 0 failure)
          | ok new =>
              have hlater : ∀ j failure, ¬ FirstRefused slots row j failure :=
                fun j failure hfirst => h (j + 1) failure (hfirst.cons hassign)
              obtain ⟨houtcome, hfilled⟩ := ih (index + 1) hlater
              have hcolumns : index + (slot :: slots).length = index + 1 + slots.length := by
                rw [List.length_cons]
                omega
              have hvalues : index + (value :: row).length = index + 1 + row.length := by
                rw [List.length_cons]
                omega
              rw [hcolumns, hvalues]
              simp only [fillFrom, hassign]
              exact ⟨houtcome, hfilled.cons hassign⟩

/-- What there is to say of a row that was written through slots. -/
structure RowAccount (slots : List (Slot τ)) (row : Row) (filled : Outcome Unit × List (Slot τ)) :
    Prop where
  /-- Where a slot refuses its value, one of them is the first. -/
  first : ∀ {i : Nat} {target : Destination τ} {value : Value} {failure : Failure},
    slots[i]? = some (.field target) → row[i]? = some value →
      target.Refuses value failure → ∃ j other, j ≤ i ∧ FirstRefused slots row j other
  /-- The writing stops there. -/
  refused : ∀ {j : Nat} {failure : Failure}, FirstRefused slots row j failure →
    filled.1 = .error (failure.within (.assigning j)) ∧ FilledUpTo slots row j filled.2
  /-- Where none refuses its value, every slot that has one takes it. -/
  taken : (∀ j failure, ¬ FirstRefused slots row j failure) →
    FilledUpTo slots row row.length filled.2
  /-- The lengths decide then. -/
  outcome_eq : (∀ j failure, ¬ FirstRefused slots row j failure) →
    filled.1 = lengthVerdict row.length slots.length
  ok_iff : filled.1 = .ok () ↔
    (∀ j failure, ¬ FirstRefused slots row j failure) ∧ row.length = slots.length

/-- **The account of a row**, for any slots and any values. -/
theorem rowAccount (slots : List (Slot τ)) (row : Row) :
    RowAccount slots row (fillRow slots row) := by
  have hrefused : ∀ {j : Nat} {failure : Failure}, FirstRefused slots row j failure →
      (fillRow slots row).1 = .error (failure.within (.assigning j)) ∧
        FilledUpTo slots row j (fillRow slots row).2 := by
    intro j failure hfirst
    simpa [fillRow] using fillFrom_refused slots.length 0 hfirst
  have htaken : (∀ j failure, ¬ FirstRefused slots row j failure) →
      (fillRow slots row).1 = lengthVerdict row.length slots.length ∧
        FilledUpTo slots row row.length (fillRow slots row).2 := by
    intro hnone
    simpa [fillRow] using fillFrom_taken 0 hnone
  refine ⟨exists_firstRefused, hrefused, fun hnone => (htaken hnone).2,
    fun hnone => (htaken hnone).1, ?_⟩
  constructor
  · intro hok
    have hnone : ∀ j failure, ¬ FirstRefused slots row j failure := by
      intro j failure hfirst
      rw [(hrefused hfirst).1] at hok
      cases hok
    rw [(htaken hnone).1] at hok
    exact ⟨hnone, lengthVerdict_eq_ok_iff.mp hok⟩
  · rintro ⟨hnone, hlength⟩
    rw [(htaken hnone).1]
    exact lengthVerdict_eq_ok_iff.mpr hlength

/-! ## Records -/

namespace Record

/-- The leaves of a record that are claimed by columns before a position were written, and
nothing else has changed. -/
structure WrittenUpTo (fields : Record τ) (routes : Routes) (row : Row) (stop : Nat)
    (after : Record τ) : Prop where
  outline_eq : after.outline = fields.outline
  written : ∀ {k i : Nat} {cell : Cell τ}, fields.ClaimedBy routes k i → i < stop →
    fields.cells[k]? = some cell → ∃ value content, row[i]? = some value ∧
      ofValue cell.type value = .ok content ∧ after.cells[k]? = some ⟨cell.type, content⟩
  kept : ∀ {k : Nat}, (∀ i, fields.ClaimedBy routes k i → stop ≤ i) →
    after.cells[k]? = fields.cells[k]?

variable {fields : Record τ} {routes : Routes} {row : Row}

/-- A row that is written into slots up to a position is written into the record up to
there. -/
theorem takeRow_upTo {stop : Nat}
    (h : FilledUpTo ((claims fields.cells.length routes).map (slotOf fields.cells)) row stop
      (fillRow ((claims fields.cells.length routes).map (slotOf fields.cells)) row).2) :
    fields.WrittenUpTo routes row stop (fields.takeRow routes row).2 := by
  have hput : ∀ {k i : Nat} {new : Cell τ}, fields.ClaimedBy routes k i →
      (fillRow ((claims fields.cells.length routes).map (slotOf fields.cells)) row).2[i]? =
        some (.field (.column new)) → (fields.takeRow routes row).2.cells[k]? = some new := by
    intro k i new hclaim hslot
    rw [cells_takeRow]
    exact putBack_getElem_of_claimed hclaim (fun j hj => claims_inj hj hclaim) hslot
      (claims_eq_some_iff.mp hclaim).2.1
  have hwritten : ∀ {k i : Nat} {cell : Cell τ}, fields.ClaimedBy routes k i → i < stop →
      fields.cells[k]? = some cell → ∃ value content, row[i]? = some value ∧
        ofValue cell.type value = .ok content ∧
        (fields.takeRow routes row).2.cells[k]? = some ⟨cell.type, content⟩ := by
    intro k i cell hclaim hlt hcell
    obtain ⟨value, target, hvalue, htakes, hslot⟩ := h.written hlt (hclaim.slot hcell)
    cases htakes with
    | column hcontent => exact ⟨value, _, hvalue, hcontent, hput hclaim hslot⟩
  have hkept : ∀ {k : Nat}, (∀ i, fields.ClaimedBy routes k i → stop ≤ i) →
      (fields.takeRow routes row).2.cells[k]? = fields.cells[k]? := by
    intro k hlate
    by_cases hclaimed : ∃ i, fields.ClaimedBy routes k i
    · obtain ⟨i, hclaim⟩ := hclaimed
      have hcell := List.getElem?_eq_getElem (claims_eq_some_iff.mp hclaim).2.1
      rw [hcell]
      exact hput hclaim ((h.kept (hlate i hclaim)).trans (hclaim.slot hcell))
    · exact takeRow_kept row fun i hclaim => hclaimed ⟨i, hclaim⟩
  refine ⟨outline_refill fields (List.ext_getElem? fun k => ?_), hwritten, hkept⟩
  rw [← cells_takeRow, List.getElem?_map, List.getElem?_map]
  by_cases hearly : ∃ i, fields.ClaimedBy routes k i ∧ i < stop
  · obtain ⟨i, hclaim, hlt⟩ := hearly
    have hcell := List.getElem?_eq_getElem (claims_eq_some_iff.mp hclaim).2.1
    obtain ⟨value, content, -, -, hafter⟩ := hwritten hclaim hlt hcell
    rw [hafter, hcell, Option.map_some, Option.map_some]
  · have hlate : ∀ i, fields.ClaimedBy routes k i → stop ≤ i :=
      fun i hclaim => Nat.le_of_not_lt fun hlt => hearly ⟨i, hclaim, hlt⟩
    rw [hkept hlate]

end Record

end RowBind
