import RowBind.Cursor.Any
import RowBind.Cursor.Recorded

/-!
# Cursors at the end of their result

A fetch that finds no row has nothing to write, so it leaves every slot as it was.  Rows
read through such a cursor leave their destination alone at the end of the result.  What is
said of readers elsewhere asks this of their cursors; here it is met by those of the library.

Main statements: `silentAtEnd_any`, the cursors of the library are silent at the end; and
`silentAtEnd_recorded`, so are cursors that are watched.
-/

namespace RowBind

/-- A fetch that finds the end of the result writes nothing. -/
def Cursor.SilentAtEnd (σ τ : Type) [Cursor σ] [ColumnFamily τ] : Prop :=
  ∀ (cursor : σ) (slots : List (Slot τ)), (Cursor.fetch cursor slots).outcome = .ok false →
    (Cursor.fetch cursor slots).slots = slots

variable {τ : Type} [ColumnFamily τ]

/-- A row that is at hand is no end of the result. -/
theorem deliver_outcome_ne_end {σ : Type} (cursor : σ) (slots : List (Slot τ)) (row : Row)
    (log : Log) : (deliver cursor slots row log).outcome ≠ .ok false := by
  unfold deliver
  split <;> simp

theorem silentAtEnd_paged : Cursor.SilentAtEnd Paged τ := by
  intro cursor slots h
  simp only [Cursor.fetch, Paged.fetch] at h ⊢
  split
  · rfl
  · next hopen =>
    rw [if_neg hopen] at h
    split
    · rfl
    · next hfail =>
      rw [if_neg hfail] at h
      split
      · rfl
      · next row rest hrows =>
        rw [hrows] at h
        exact absurd h (deliver_outcome_ne_end _ slots row _)

theorem silentAtEnd_feed : Cursor.SilentAtEnd Feed τ := by
  intro cursor slots h
  simp only [Cursor.fetch, Feed.fetch] at h ⊢
  split
  · rfl
  · next hopen =>
    rw [if_neg hopen] at h
    split
    · rfl
    · rfl
    · next row items hitems =>
      rw [hitems] at h
      exact absurd h (deliver_outcome_ne_end _ slots row _)

theorem silentAtEnd_channel : Cursor.SilentAtEnd Channel τ := by
  intro cursor slots h
  simp only [Cursor.fetch, Channel.fetch] at h ⊢
  split
  · rfl
  · next hopen =>
    rw [if_neg hopen] at h
    split
    · rfl
    · next hready =>
      rw [if_neg hready] at h
      split
      · rfl
      · rfl
      · next row queue hqueue =>
        rw [hqueue] at h
        exact absurd h (deliver_outcome_ne_end _ slots row _)

/-- The cursors of the library are silent at the end. -/
theorem silentAtEnd_any : Cursor.SilentAtEnd AnyCursor τ := by
  intro cursor slots h
  cases cursor with
  | paged cursor => exact silentAtEnd_paged cursor slots h
  | feed cursor => exact silentAtEnd_feed cursor slots h
  | channel cursor => exact silentAtEnd_channel cursor slots h

/-- Watching a cursor does not make it write. -/
theorem silentAtEnd_recorded {σ : Type} [Cursor σ] (h : Cursor.SilentAtEnd σ τ) :
    Cursor.SilentAtEnd (Recorded σ) τ :=
  fun recorded slots hend => h recorded.cursor slots hend

end RowBind
