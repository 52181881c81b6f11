import RowBind.Column.Type

/-!
# Columns behind layers

A column of a type may be made optional or put behind a pointer, and that any number of
times.  The layers add the word for no content to what is read, and null to what is
converted; all else goes through them to the type itself.

Main statements: `read_wrap_eq`, what is read through layers is read by the type behind them
unless it is the word for no content; and `ofValue_wrap_eq`, so is what is converted unless it
is null.
-/

namespace RowBind

open Text

/-- A layer around a column type. -/
inductive Layer where
  | optional
  | pointer (kind : PointerKind)
deriving DecidableEq, Repr

/-- The text starts with the word for no content. -/
def startsWithNull (text : List Char) : Bool :=
  sameWord (text.takeWhile isWordChar) "null"

namespace ColumnType

variable {ι : Type} [ColumnFamily ι]

/-- The column type behind the layers, the outermost first. -/
def wrap (i : ι) : List Layer → ColumnType ι
  | [] => base i
  | .optional :: layers => optional (wrap i layers)
  | .pointer kind :: layers => pointer kind (wrap i layers)

variable {i : ι} {layers : List Layer} {text left : List Char} {value : Value}

/-- What a column holds behind the layers if it does not hold nothing. -/
def present : (layers : List Layer) → ColumnFamily.Content i → (wrap i layers).Content
  | [], content => content
  | .optional :: layers, content => some (present layers content)
  | .pointer _ :: layers, content => present layers content

/-- **What is read through layers is read by the type behind them**, unless it is the word for
no content. -/
theorem read_wrap_eq (hnull : .optional ∈ layers → startsWithNull text = false) :
    (wrap i layers).read text =
      (ColumnFamily.read i text).map fun (inner, left) => (present layers inner, left) := by
  induction layers with
  | nil =>
      change ColumnFamily.read i text = _
      cases ColumnFamily.read i text <;> rfl
  | cons layer layers ih =>
      have hinner := ih fun hmem => hnull (List.mem_cons_of_mem layer hmem)
      cases layer with
      | optional =>
          have hword := hnull List.mem_cons_self
          simp only [startsWithNull] at hword
          simp only [wrap, read, hword, hinner]
          cases ColumnFamily.read i text <;> rfl
      | pointer kind => exact hinner

/-- Where there may be no content, the word for it is read. -/
theorem exists_read_wrap_null (hmem : .optional ∈ layers) (hnull : startsWithNull text = true) :
    ∃ content, (wrap i layers).read text = .ok (content, text.dropWhile isWordChar) := by
  induction layers with
  | nil => cases hmem
  | cons layer layers ih =>
      cases layer with
      | optional =>
          simp only [startsWithNull] at hnull
          exact ⟨none, by simp [wrap, read, hnull]⟩
      | pointer kind => exact ih ((List.mem_cons.mp hmem).resolve_left nofun)

/-- What is read through layers is the word for no content, or it is read by the type behind
them. -/
theorem read_wrap {content : (wrap i layers).Content}
    (h : (wrap i layers).read text = .ok (content, left)) :
    (.optional ∈ layers ∧ startsWithNull text = true ∧ left = text.dropWhile isWordChar) ∨
      ∃ inner, ColumnFamily.read i text = .ok (inner, left) := by
  by_cases hnull : .optional ∈ layers ∧ startsWithNull text = true
  · obtain ⟨nothing, hnothing⟩ := exists_read_wrap_null (i := i) hnull.1 hnull.2
    rw [hnothing] at h
    cases h
    exact .inl ⟨hnull.1, hnull.2, rfl⟩
  · rw [read_wrap_eq fun hmem => by simpa [hmem] using hnull] at h
    cases hread : ColumnFamily.read i text with
    | error failure => simp [hread, Except.map] at h
    | ok found =>
        rw [hread] at h
        cases h
        exact .inr ⟨found.1, rfl⟩

/-- What the type reads is read through layers, unless it starts with the word for no
content. -/
theorem exists_read_wrap {inner : ColumnFamily.Content i} (layers : List Layer)
    (hnull : startsWithNull text = false) (h : ColumnFamily.read i text = .ok (inner, left)) :
    ∃ content, (wrap i layers).read text = .ok (content, left) := by
  rw [read_wrap_eq fun _ => hnull, h]
  exact ⟨present layers inner, rfl⟩

/-- **A value that is not null is converted through layers by the type behind them.** -/
theorem ofValue_wrap_eq (hvalue : value.isNull = false) :
    (wrap i layers).ofValue value = (ColumnFamily.ofValue i value).map (present layers) := by
  induction layers with
  | nil =>
      change ColumnFamily.ofValue i value = _
      cases ColumnFamily.ofValue i value <;> rfl
  | cons layer layers ih =>
      cases layer with
      | optional =>
          simp only [wrap, ofValue, hvalue, ih]
          cases ColumnFamily.ofValue i value <;> rfl
      | pointer kind =>
          simp only [wrap, ofValue]
          exact ih

end ColumnType

end RowBind
