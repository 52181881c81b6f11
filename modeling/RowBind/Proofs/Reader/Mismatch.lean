import RowBind.Proofs.Reader.Collecting
import RowBind.Proofs.Reader.UnreadList
import RowBind.Proofs.Record.Place

/-!
# Results that do not suit

Whether rows can be read into a destination is a matter of the columns of the result and of
the type of the destination: of the columns there may be too many for a single value, or
one that has no field; the type may have no fields, or may not be made from a value.  It is
said here without a reader, as a relation between columns, types and causes.

A reader looks at it before its first row, and what it finds to speak against the row is
just that.  A reader that knows its routes does not look at the columns again.

Main statements: `firstMissing?_eq_some_iff`, which column is told of; and
`objection?_eq_some_iff` and `objection?_eq_none_iff`, what speaks against the first row and
when nothing does.
-/

namespace RowBind

/-! ## What does not suit -/

/-- The column in position `i` is the first one whose name the layout lacks. -/
structure Layout.LacksFirst (layout : Layout) (rule : NameRule) (columns : List String)
    (i : Nat) (name : String) : Prop where
  column : columns[i]? = some name
  lacks : layout.Lacks rule name
  found : ∀ (j : Nat) (earlier : String), j < i → columns[j]? = some earlier →
    ¬ layout.Lacks rule earlier

/-- The cause of a failure, as it is told where a list was to be read. -/
def Cause.ofList : Cause → Cause
  | .notRecord type => .forcedOnScalar type
  | cause => cause

/-- The first route that goes nowhere is that of the first column that is lacking. -/
theorem Layout.firstMissing?_eq_some_iff {layout : Layout} {rule : NameRule}
    {columns : List String} {i : Nat} :
    (layout.routes rule columns).firstMissing? = some i ↔
      ∃ name, layout.LacksFirst rule columns i name := by
  have hlacks : ∀ name, (((NameTable.ofLayout rule layout).find? name).map (·.slot)).isNone =
      true ↔ layout.Lacks rule name := by
    intro name
    rw [Option.isNone_iff_eq_none, Option.map_eq_none_iff, NameTable.find?_eq_none_iff]
  rw [Routes.firstMissing?, routes, List.findIdx?_map, List.findIdx?_eq_some_iff_getElem]
  simp only [Function.comp_apply, hlacks]
  constructor
  · rintro ⟨hi, hat, hbefore⟩
    refine ⟨columns[i], List.getElem?_eq_getElem hi, hat, fun j earlier hj hearlier => ?_⟩
    obtain ⟨_, rfl⟩ := List.getElem?_eq_some_iff.mp hearlier
    exact hbefore j hj
  · rintro ⟨name, hcolumn, hat, hbefore⟩
    obtain ⟨hi, rfl⟩ := List.getElem?_eq_some_iff.mp hcolumn
    exact ⟨hi, hat, fun j hj => hbefore j _ hj (List.getElem?_eq_getElem _)⟩

namespace Destination

variable {τ : Type} [ColumnFamily τ]

/-- The destination does not suit the columns of a result, for a cause: too many columns
come before a type that is not made from a value, and a type without fields before a field
that is lacking. -/
inductive Mismatch (rule : NameRule) (columns : List String) (dropUnmatched : Bool)
    (dest : Destination τ) : Bool → Cause → Prop
  /-- There are several columns for a single value. -/
  | tooManyColumns (hmany : 1 < columns.length) :
    Mismatch rule columns dropUnmatched dest false
      (.tooManyColumns dest.typeName columns.length)
  /-- The destination is not made from a value. -/
  | notDecodable (hfew : columns.length ≤ 1) (hvalue : dest.takesValue = false) :
    Mismatch rule columns dropUnmatched dest false (.notDecodable dest.typeName)
  /-- The destination has no fields. -/
  | notRecord (hscalar : dest.isRecord = false) :
    Mismatch rule columns dropUnmatched dest true (.notRecord dest.typeName)
  /-- A column has no field and may not be dropped; it is the first such column. -/
  | noField (hrecord : dest.isRecord = true) (hstrict : dropUnmatched = false) {i : Nat}
      {name : String} (hfirst : dest.layout.LacksFirst rule columns i name) :
    Mismatch rule columns dropUnmatched dest true (.noField name dest.typeName)

/-- A type with fields is told of in the same words where a list is read. -/
theorem Mismatch.ofList_eq {rule : NameRule} {columns : List String} {dropUnmatched : Bool}
    {dest : Destination τ} {byField : Bool} {cause : Cause}
    (h : dest.Mismatch rule columns dropUnmatched byField cause)
    (hrecord : byField = true → dest.isRecord = true) : cause.ofList = cause := by
  cases h with
  | tooManyColumns => rfl
  | notDecodable => rfl
  | notRecord hscalar => simp [hscalar] at hrecord
  | noField => rfl

/-- A record suits where every column has a field or may be dropped. -/
theorem suits_record_iff {rule : NameRule} {columns : List String} {dropUnmatched : Bool}
    {info : RecordInfo τ} {fields : Record τ} :
    (record info fields).Suits true rule columns dropUnmatched ↔
      dropUnmatched = true ∨ ∀ name ∈ columns, ∃ k, fields.Answers rule name k := by
  constructor
  · rintro ⟨_, _, heq, hanswers⟩
    cases heq
    exact hanswers
  · intro hanswers
    exact ⟨info, fields, rfl, hanswers⟩

/-- Two destinations are of one type, as far as that decides on routing. -/
structure SameType (a b : Destination τ) : Prop where
  typeName : a.typeName = b.typeName
  isRecord : a.isRecord = b.isRecord
  takesValue : a.takesValue = b.takesValue
  layout : a.layout = b.layout

/-- What decodes itself is a record that is made from a value. -/
theorem decodesItself_eq (dest : Destination τ) :
    dest.decodesItself = (dest.isRecord && dest.takesValue) := by
  cases dest <;> simp [decodesItself, isRecord, takesValue]

/-- Destinations of one type are routed alike. -/
theorem SameType.routingForced_eq {a b : Destination τ} (h : a.SameType b) (force : Bool) :
    a.routingForced force = b.routingForced force := by
  simp only [routingForced, routing, decodesItself_eq, h.isRecord, h.takesValue, h.layout]

theorem SameType.symm {a b : Destination τ} (h : a.SameType b) : b.SameType a :=
  ⟨h.typeName.symm, h.isRecord.symm, h.takesValue.symm, h.layout.symm⟩

/-- Where a destination does not suit, no other one of its type does. -/
theorem SameType.mismatch {a b : Destination τ} (h : a.SameType b) {rule : NameRule}
    {columns : List String} {dropUnmatched byField : Bool} {cause : Cause}
    (hmismatch : a.Mismatch rule columns dropUnmatched byField cause) :
    b.Mismatch rule columns dropUnmatched byField cause := by
  cases hmismatch with
  | tooManyColumns hmany =>
      rw [h.typeName]
      exact .tooManyColumns hmany
  | notDecodable hfew hvalue =>
      rw [h.typeName]
      exact .notDecodable hfew (h.takesValue ▸ hvalue)
  | notRecord hscalar =>
      rw [h.typeName]
      exact .notRecord (h.isRecord ▸ hscalar)
  | noField hrecord hstrict hfirst =>
      rw [h.typeName]
      exact .noField (h.isRecord ▸ hrecord) hstrict (h.layout ▸ hfirst)

end Destination

namespace Reader

variable {σ τ : Type} [ColumnFamily τ] [Cursor σ]

/-- The columns of the reader can be routed to the destination. -/
def Suits (reader : Reader σ) (byField : Bool) (dest : Destination τ) : Prop :=
  dest.Suits byField reader.naming.rule (Cursor.columnNames reader.cursor) reader.dropUnmatched

/-- The destination does not suit the columns of the reader, for a cause. -/
def Mismatch (reader : Reader σ) (byField : Bool) (dest : Destination τ) (cause : Cause) :
    Prop :=
  dest.Mismatch reader.naming.rule (Cursor.columnNames reader.cursor) reader.dropUnmatched
    byField cause

/-! ## What speaks against a row -/

variable {byField : Bool} {dest : Destination τ}

theorem columnNames_length (cursor : σ) :
    (Cursor.columnNames cursor).length = (Cursor.columns cursor).length := by
  rw [Cursor.columnNames, List.length_map]

/-- How routing the columns turns out. -/
theorem resolve_outcome (reader : Reader σ) (dest : Destination τ) :
    (reader.resolve dest).1 =
      if dest.isRecord then
        let columns := Cursor.columnNames reader.cursor
        let routes := dest.layout.routes reader.naming.rule columns
        match routes.firstMissing?, reader.dropUnmatched with
        | some i, false => failFor (.noField (columns.getD i "") dest.typeName)
        | _, _ => .ok routes
      else failFor (.notRecord dest.typeName) := by
  have hroutes : (reader.naming.routes dest.key (Cursor.columnNames reader.cursor)).1 =
      dest.layout.routes reader.naming.rule (Cursor.columnNames reader.cursor) :=
    Naming.routes_fst _ _ _
  cases hrecord : dest.isRecord with
  | false => simp [resolve, hrecord]
  | true =>
      simp only [resolve, hrecord, hroutes, Bool.not_true, Bool.false_eq_true, if_false, if_true]
      cases (dest.layout.routes reader.naming.rule
        (Cursor.columnNames reader.cursor)).firstMissing? <;>
          cases reader.dropUnmatched <;> rfl

/-- What speaks against a row that is read as a whole is that the destination does not
suit. -/
theorem objection?_whole_eq_some_iff {reader : Reader σ} {failure : Failure} :
    reader.objection? false dest = some failure ↔
      ∃ cause, failure = .of cause ∧ reader.Mismatch false dest cause := by
  have hcount := columnNames_length reader.cursor
  constructor
  · intro hobjection
    simp only [objection?, Bool.false_eq_true, if_false, ← hcount] at hobjection
    split at hobjection
    · next hmany => exact ⟨_, (Option.some.inj hobjection).symm, .tooManyColumns hmany⟩
    · next hfew =>
      split at hobjection
      · next hvalue =>
        refine ⟨_, (Option.some.inj hobjection).symm, .notDecodable (Nat.le_of_not_lt hfew) ?_⟩
        simpa using hvalue
      · cases hobjection
  · rintro ⟨cause, rfl, hmismatch⟩
    cases hmismatch with
    | tooManyColumns hmany => simp [objection?, ← hcount, hmany]
    | notDecodable hfew hvalue =>
        simp [objection?, ← hcount, Nat.not_lt.mpr hfew, hvalue]

/-- Columns are not routed to a destination that does not suit. -/
theorem resolve_eq_error_iff {reader : Reader σ} {failure : Failure} :
    (reader.resolve dest).1 = .error failure ↔
      ∃ cause, failure = .of cause ∧ reader.Mismatch true dest cause := by
  constructor
  · intro hfailed
    rw [resolve_outcome] at hfailed
    split at hfailed
    · next hrecord =>
      dsimp only at hfailed
      split at hfailed
      · next i hfirst hstrict =>
        obtain ⟨name, hlacks⟩ := Layout.firstMissing?_eq_some_iff.mp hfirst
        rw [List.getD_eq_getElem?_getD, hlacks.column] at hfailed
        exact ⟨_, (Except.error.inj hfailed).symm, .noField hrecord hstrict hlacks⟩
      · cases hfailed
    · next hscalar =>
      exact ⟨_, (Except.error.inj hfailed).symm, .notRecord (by simpa using hscalar)⟩
  · rintro ⟨cause, rfl, hmismatch⟩
    cases hmismatch with
    | notRecord hscalar => simp [resolve_outcome, hscalar, failFor]
    | noField hrecord hstrict hfirst =>
        have hmissing := Layout.firstMissing?_eq_some_iff.mpr ⟨_, hfirst⟩
        simp [resolve_outcome, hrecord, hmissing, hstrict, failFor, hfirst.column]

/-- What speaks against the first row by field is that the columns are not routed. -/
theorem objection?_unrouted {reader : Reader σ} (h : reader.routes? = none)
    {failure : Failure} :
    reader.objection? true dest = some failure ↔ (reader.resolve dest).1 = .error failure := by
  simp only [objection?, if_true, h]
  cases (reader.resolve dest).1 <;> simp

/-- **What speaks against the first row** is that the destination does not suit. -/
theorem objection?_eq_some_iff {reader : Reader σ} (h : reader.routes? = none)
    {failure : Failure} :
    reader.objection? byField dest = some failure ↔
      ∃ cause, failure = .of cause ∧ reader.Mismatch byField dest cause := by
  cases byField with
  | false => exact objection?_whole_eq_some_iff
  | true => rw [objection?_unrouted h, resolve_eq_error_iff]

/-- When nothing speaks against a row that is read as a whole. -/
theorem objection?_whole_eq_none_iff {reader : Reader σ} :
    reader.objection? false dest = none ↔
      (Cursor.columns reader.cursor).length ≤ 1 ∧ dest.takesValue = true := by
  simp only [objection?, Bool.false_eq_true, if_false]
  split
  · next hmany => exact iff_of_false (by simp) fun hfew => absurd hfew.1 (Nat.not_le.mpr hmany)
  · next hfew =>
    cases hvalue : dest.takesValue with
    | false => simp
    | true => simpa using hfew

/-- A row by field that nothing speaks against is read into a record. -/
theorem isRecord_of_objection? {reader : Reader σ}
    (h : reader.objection? true dest = none) : dest.isRecord = true := by
  simp only [objection?, if_true] at h
  split at h
  · simpa using h
  · split at h
    · next routes hresolve => exact isRecord_of_resolve hresolve
    · cases h

/-- Nothing speaks against the first row exactly if the destination suits. -/
theorem objection?_eq_none_iff {reader : Reader σ} (h : reader.routes? = none) :
    reader.objection? byField dest = none ↔ reader.Suits byField dest := by
  cases byField with
  | false =>
      rw [objection?_whole_eq_none_iff, ← columnNames_length]
      rfl
  | true =>
      cases dest with
      | column cell =>
          simp [objection?, h, resolve_outcome, Suits, Destination.Suits, Destination.isRecord,
            failFor]
      | record info fields =>
          have hfailed : (∃ failure, (reader.resolve (.record info fields)).1 =
              .error failure) ↔ _ := resolve_record_eq_error_iff
          have hsuits : reader.Suits true (.record info fields) ↔
              ¬ (reader.dropUnmatched = false ∧ ∃ name ∈ Cursor.columnNames reader.cursor,
                ∀ k, ¬ fields.Answers reader.naming.rule name k) := by
            rw [Suits, Destination.suits_record_iff]
            cases reader.dropUnmatched <;> simp
          rw [hsuits, ← hfailed]
          simp only [objection?, h, if_true]
          cases (reader.resolve (.record info fields)).1 <;> simp

/-- No destination suits and does not. -/
theorem not_suits_iff {reader : Reader σ} (h : reader.routes? = none) :
    ¬ reader.Suits byField dest ↔ ∃ cause, reader.Mismatch byField dest cause := by
  rw [← objection?_eq_none_iff h, ← ne_eq, Option.ne_none_iff_exists']
  constructor
  · rintro ⟨failure, hobjection⟩
    obtain ⟨cause, -, hmismatch⟩ := (objection?_eq_some_iff h).mp hobjection
    exact ⟨cause, hmismatch⟩
  · rintro ⟨cause, hmismatch⟩
    exact ⟨_, (objection?_eq_some_iff h).mpr ⟨cause, rfl, hmismatch⟩⟩

/-- A destination does not suit for one cause only. -/
theorem Mismatch.unique {reader : Reader σ} (h : reader.routes? = none) {cause other : Cause}
    (hcause : reader.Mismatch byField dest cause) (hother : reader.Mismatch byField dest other) :
    cause = other := by
  have hleft := (objection?_eq_some_iff h).mpr ⟨cause, rfl, hcause⟩
  have hright := (objection?_eq_some_iff h).mpr ⟨other, rfl, hother⟩
  exact congrArg Failure.cause (Option.some.inj (hleft.symm.trans hright))

end Reader

end RowBind
