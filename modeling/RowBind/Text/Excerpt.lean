import RowBind.Text.Blank

/-!
# Excerpts of long texts

A message never quotes more of an input than its first 497 characters.  Blanks at the
end of the quoted part are dropped, and three dots show that something is missing.

Main statements: `excerpt_length_le`, an excerpt has at most 500 characters;
`excerpt_of_short`, a text that is short enough only loses the blanks at its end.
-/

namespace RowBind.Text

/-- The characters of a text that a message quotes. -/
def excerptLength : Nat := 497

/-- The text without the blanks at its end. -/
def trimEnd (text : List Char) : List Char :=
  (text.reverse.dropWhile isBlank).reverse

theorem trimEnd_length_le (text : List Char) : (trimEnd text).length ≤ text.length := by
  have h := (List.dropWhile_suffix isBlank (l := text.reverse)).length_le
  simpa [trimEnd] using h

/-- The beginning of a text as messages quote it. -/
def excerpt (text : List Char) : List Char :=
  trimEnd (text.take excerptLength) ++ (if text.length > excerptLength then ['.', '.', '.'] else [])

theorem excerpt_length_le (text : List Char) : (excerpt text).length ≤ 500 := by
  have hkept : (trimEnd (text.take excerptLength)).length ≤ 497 :=
    Nat.le_trans (trimEnd_length_le _) (List.length_take_le excerptLength text)
  have hdots : (if text.length > excerptLength then ['.', '.', '.'] else []).length ≤ 3 := by
    split <;> decide
  rw [excerpt, List.length_append]
  omega

theorem excerpt_of_short {text : List Char} (h : text.length ≤ excerptLength) :
    excerpt text = trimEnd text := by
  simp [excerpt, List.take_of_length_le h, Nat.not_lt.2 h]

end RowBind.Text
