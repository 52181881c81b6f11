import RowBind.Reader.Calls

/-!
# Rows that a caller reads one by one

A caller can go through a result by itself.  It reads a row by field into a blank record, and
does so again as long as there was one; or it asks for records one after the other, until there
is none.

Main statements: `collect_eq`, records that are asked for are those that are read at once; and
`readsEach_iff`, so are the rows that a caller reads on its own.
-/

namespace RowBind

variable {σ τ : Type} [Cursor σ] [ColumnFamily τ]

/-! ## Records that are asked for -/

namespace Records

/-- A record is there if the row for it is. -/
theorem next_delivered {records : Records σ τ} (hgoing : records.done = false)
    (h : (records.reader.readFields records.blank).delivered = true) :
    records.next =
      (some (records.reader.readFields records.blank).dest,
        { records with reader := (records.reader.readFields records.blank).reader },
        (records.reader.readFields records.blank).log) := by
  simp [next, hgoing, h]

/-- Where there is no row for it, there is no record, and none will come. -/
theorem next_undelivered {records : Records σ τ} (hgoing : records.done = false)
    (h : (records.reader.readFields records.blank).delivered = false) :
    records.next =
      (none,
        { records with
          reader := (records.reader.readFields records.blank).reader
          done := true },
        (records.reader.readFields records.blank).log) := by
  simp [next, hgoing, h]

variable [FiniteCursor σ]

/-- A record that was there brings the end of a finite result closer. -/
theorem remaining_next {records after : Records σ τ} {dest : Destination τ} {log : Log}
    (h : records.next = (some dest, after, log)) :
    FiniteCursor.remaining after.reader.cursor <
      FiniteCursor.remaining records.reader.cursor := by
  cases hgoing : records.done with
  | true =>
      rw [next_of_done hgoing] at h
      cases h
  | false =>
      cases hread : (records.reader.readFields records.blank).delivered with
      | true =>
          rw [next_delivered hgoing hread] at h
          cases h
          exact records.reader.remaining_readRow true records.blank hread
      | false =>
          rw [next_undelivered hgoing hread] at h
          cases h

/-- Asks for records until there is none. -/
def collect (records : Records σ τ) : Rows σ τ :=
  match h : records.next with
  | (some dest, after, log) =>
    have := remaining_next h
    let rows := collect after
    { rows with dests := dest :: rows.dests, log := log ++ rows.log }
  | (none, after, log) => { dests := [], reader := after.reader, log }
termination_by FiniteCursor.remaining records.reader.cursor

end Records

/-! ## Rows that are read -/

namespace Reader

/-- The rows that are read by field, each into a blank record, until there is none, and the
reader after that. -/
inductive ReadsEach (blank : Destination τ) :
    Reader σ → List (Destination τ) → Reader σ → Prop
  | stop {reader : Reader σ} (hnone : (reader.readFields blank).delivered = false) :
      ReadsEach blank reader [] (reader.readFields blank).reader
  | more {reader last : Reader σ} {dests : List (Destination τ)}
      (hsome : (reader.readFields blank).delivered = true)
      (hmore : ReadsEach blank (reader.readFields blank).reader dests last) :
      ReadsEach blank reader ((reader.readFields blank).dest :: dests) last

variable [FiniteCursor σ] {blank : Destination τ}

/-- A row is read, and then those behind it, if it was there. -/
theorem records_delivered {reader : Reader σ}
    (h : (reader.readFields blank).delivered = true) :
    reader.records none blank =
      let rows := (reader.readFields blank).reader.records none blank
      { rows with
        dests := (reader.readFields blank).dest :: rows.dests
        log := (reader.readFields blank).log ++ rows.log } := by
  rw [records, readMany_step true (by simp)]
  simp [readRow, h, records]

/-- Where there is no row, nothing is read. -/
theorem records_undelivered {reader : Reader σ}
    (h : (reader.readFields blank).delivered = false) :
    reader.records none blank =
      { dests := []
        reader := (reader.readFields blank).reader
        log := (reader.readFields blank).log } := by
  rw [records, readMany_step true (by simp)]
  simp [readRow, h]

/-- Reading rows on one's own comes to an end, with those that are read at once. -/
theorem readsEach_records (reader : Reader σ) (blank : Destination τ) :
    ReadsEach blank reader (reader.records none blank).dests
      (reader.records none blank).reader := by
  cases h : (reader.readFields blank).delivered with
  | true =>
      rw [records_delivered h]
      exact .more h (readsEach_records _ blank)
  | false =>
      rw [records_undelivered h]
      exact .stop h
termination_by FiniteCursor.remaining reader.cursor
decreasing_by exact reader.remaining_readRow true blank h

/-- **The rows that a caller reads on its own are those that are read at once**; there is an
end to it. -/
theorem readsEach_iff {reader last : Reader σ} {dests : List (Destination τ)} :
    ReadsEach blank reader dests last ↔
      dests = (reader.records none blank).dests ∧ last = (reader.records none blank).reader := by
  constructor
  · intro heach
    induction heach with
    | stop hnone =>
        rw [records_undelivered hnone]
        exact ⟨rfl, rfl⟩
    | more hsome hmore ih =>
        rw [records_delivered hsome]
        exact ⟨congrArg (_ :: ·) ih.1, ih.2⟩
  · rintro ⟨rfl, rfl⟩
    exact readsEach_records reader blank

end Reader

/-- **Records that are asked for are those that are read at once.** -/
theorem Records.collect_eq [FiniteCursor σ] {records : Records σ τ} (hgoing : records.done = false) :
    records.collect = records.reader.records none records.blank := by
  fun_induction collect records with
  | case1 records dest after log hnext hless rows ih =>
      cases hread : (records.reader.readFields records.blank).delivered with
      | true =>
          rw [next_delivered hgoing hread] at hnext
          cases hnext
          have hrows : rows = _ := ih hgoing
          rw [Reader.records_delivered hread, hrows]
      | false =>
          rw [next_undelivered hgoing hread] at hnext
          cases hnext
  | case2 records after log hnext =>
      cases hread : (records.reader.readFields records.blank).delivered with
      | true =>
          rw [next_delivered hgoing hread] at hnext
          cases hnext
      | false =>
          rw [next_undelivered hgoing hread] at hnext
          cases hnext
          rw [Reader.records_undelivered hread]

end RowBind
