import RowBind.Uuid.Form
import Mathlib.Data.Nat.Digits.Defs

/-!
# What is said of a text that is no identifier

A fault is told with a character of the text at most, and with numbers: a position in the text,
how many groups there are, or how long one of them is.  None of these is greater than the text
is long, but for the hyphen that has a group on either side.  As the text has no more than 36
characters the numbers are short, and so is what is said.

Main statement: `message_length_le`, what is said has no more than 60 characters.
-/

namespace RowBind

theorem length_append_le {first rest : String} {m n : Nat} (hfirst : first.length ≤ m)
    (hrest : rest.length ≤ n) : (first ++ rest).length ≤ m + n := by
  rw [String.length_append]
  exact Nat.add_le_add hfirst hrest

namespace Uuid

/-- A number below a hundred takes two digits. -/
theorem toString_length_le {n : Nat} (h : n < 100) : (toString n).length ≤ 2 :=
  Nat.repr_length n 2 (by decide) h

/-- A character that cannot stand in an identifier stands in the text. -/
theorem lt_of_stranger? {start position : Nat} {text : List Char} {c : Char}
    (h : stranger? start text = some (c, position)) : position < start + text.length := by
  induction text generalizing start with
  | nil => cases h
  | cons d text ih =>
      rw [stranger?] at h
      rw [List.length_cons]
      split at h
      · have hlater := ih h
        omega
      · cases h
        omega

/-- A text has one group more than it has hyphens. -/
theorem length_lengthsFrom_le (current : Nat) (text : List Char) :
    (lengthsFrom current text).length ≤ text.length + 1 := by
  induction text generalizing current with
  | nil => exact Nat.le_refl _
  | cons c text ih =>
      rw [lengthsFrom]
      split
      · exact Nat.succ_le_succ (ih 0)
      · exact (ih (current + 1)).trans (Nat.le_succ _)

/-- A group is no longer than the text. -/
theorem le_of_mem_lengthsFrom {current length : Nat} {text : List Char}
    (h : length ∈ lengthsFrom current text) : length ≤ current + text.length := by
  induction text generalizing current with
  | nil => exact Nat.le_of_eq (List.mem_singleton.mp h)
  | cons c text ih =>
      rw [lengthsFrom] at h
      rw [List.length_cons]
      split at h
      · obtain rfl | hlater := List.mem_cons.mp h
        · omega
        · have := ih hlater
          omega
      · have := ih h
        omega

/-- A group of the wrong length is one of those that there should be. -/
theorem exists_of_wrongGroup? {start : Nat} {found should : List Nat} {fault : Fault}
    (h : wrongGroup? start found should = some fault) :
    ∃ group expected length, fault = .groupLength group expected length ∧
      group < start + should.length ∧ expected ∈ should ∧ length ∈ found := by
  induction found generalizing start should with
  | nil => cases h
  | cons n found ih =>
      cases should with
      | nil => cases h
      | cons m should =>
          rw [wrongGroup?] at h
          split at h
          · obtain ⟨group, expected, length, hfault, hgroup, hexpected, hlength⟩ := ih h
            refine ⟨group, expected, length, hfault, ?_, List.mem_cons_of_mem _ hexpected,
              List.mem_cons_of_mem _ hlength⟩
            rw [List.length_cons]
            omega
          · cases h
            exact ⟨start, m, n, rfl, Nat.lt_add_of_pos_right (Nat.succ_pos _),
              List.mem_cons_self, List.mem_cons_self⟩

/-- **What is said of a fault is short.** -/
theorem message_length_le {text : List Char} {fault : Fault} (hlength : text.length ≤ textLength)
    (h : fault? text = some fault) : fault.message.length ≤ 60 := by
  rw [textLength] at hlength
  simp only [fault?] at h
  split at h
  · next c position hstranger =>
    cases h
    -- a bound for each part of the message, as their lengths are not to be computed together
    have hposition := lt_of_stranger? hstranger
    have hfound : "invalid character: found `".length ≤ 26 := by decide
    have hc : (toString c).length ≤ 1 := Nat.le_of_eq String.length_singleton
    have hat : "` at ".length ≤ 5 := by decide
    have hnumber : (toString position).length ≤ 2 := toString_length_le (by omega)
    exact (length_append_le (length_append_le (length_append_le hfound hc) hat) hnumber).trans
      (by decide)
  · split at h
    · next hgroups =>
      obtain ⟨group, expected, length, rfl, hgroup, hexpected, hfound⟩ := exists_of_wrongGroup? h
      have hlong := le_of_mem_lengthsFrom hfound
      have hfew : groupLengths.length = 5 := rfl
      have hdigits : ∀ count ∈ groupLengths, count < 100 := by decide
      have hgroupIn : "invalid group length in group ".length ≤ 30 := by decide
      have hexpects : ": expected ".length ≤ 11 := by decide
      have hfinds : ", found ".length ≤ 8 := by decide
      have hgroupNumber : (toString group).length ≤ 2 := toString_length_le (by omega)
      have hexpectedNumber : (toString expected).length ≤ 2 :=
        toString_length_le (hdigits expected hexpected)
      have hfoundNumber : (toString length).length ≤ 2 := toString_length_le (by omega)
      exact (length_append_le (length_append_le (length_append_le (length_append_le
        (length_append_le hgroupIn hgroupNumber) hexpects) hexpectedNumber) hfinds)
          hfoundNumber).trans (by decide)
    · cases h
      have hmany := length_lengthsFrom_le 0 text
      have hexpects : "invalid group count: expected ".length ≤ 30 := by decide
      have hfive : (toString groupLengths.length).length ≤ 2 := toString_length_le (by decide)
      have hfinds : ", found ".length ≤ 8 := by decide
      have hnumber : (toString (lengthsOf text).length).length ≤ 2 :=
        toString_length_le (Nat.lt_of_le_of_lt hmany (by omega))
      exact (length_append_le (length_append_le (length_append_le hexpects hfive) hfinds)
        hnumber).trans (by decide)

end Uuid

end RowBind
