import RowBind.Cursor

/-!
# Cursors over a stream of rows

A feed delivers the items of a stream, each a row or a failure, as they come.  It ends
with the stream, with the first failure, or when it is closed.  Its hint is fixed at the
start.
-/

namespace RowBind

/-- A cursor over a stream. -/
structure Feed where
  columns : List ColumnInfo
  /-- The items not taken from the stream yet. -/
  items : List (Outcome Row)
  hint : Nat
  done : Bool := false

namespace Feed

/-- A feed from a stream that knows how many items it has. -/
def ofItems (columns : List ColumnInfo) (items : List (Outcome Row)) : Feed :=
  { columns, items, hint := items.length }

/-- Delivers the next item. -/
def fetch {τ : Type} [ColumnFamily τ] (cursor : Feed) (slots : List (Slot τ)) : Fetched Feed τ :=
  if cursor.done then noRow cursor slots []
  else
    match cursor.items with
    | [] => noRow { cursor with done := true } slots []
    | .error failure :: items => failedFetch { cursor with items, done := true } slots failure
    | .ok row :: items => deliver { cursor with items } slots row []

/-- Ends the feed. -/
def close (cursor : Feed) : Outcome Unit × Feed :=
  (.ok (), { cursor with done := true })

instance : Cursor Feed where
  columns := columns
  hint := hint
  fetch := fetch
  close := close
  release cursor := cursor
  columns_fetch cursor slots := by
    unfold fetch
    split
    · rfl
    · split <;> simp

instance : FiniteCursor Feed where
  remaining cursor := cursor.items.length
  remaining_fetch cursor slots h := by
    simp only [Cursor.fetch] at h ⊢
    unfold fetch at h ⊢
    split at h
    · simp at h
    · next hdone =>
      rw [if_neg hdone]
      split at h
      · simp at h
      · simp at h
      · next hitems => simp [hitems]

end Feed

end RowBind
