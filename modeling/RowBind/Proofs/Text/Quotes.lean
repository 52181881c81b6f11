import RowBind.Proofs.Text.Pieces

/-!
# Quotes around a number

A number may stand between two single or two double quotes.  The opening quote decides which
closing quote is looked for; without one, nothing is looked for.

Main statements: `splitQuote_text`, the opening quote is found; `exists_quote_of_splitQuote`,
what is split off a text is its opening quote; and `closeQuote_eq_some_iff`, what is left
stands behind the closing quote.
-/

namespace RowBind.Text

/-- The quotes that a number may stand between. -/
inductive Quote where
  | single | double
deriving DecidableEq, Repr

namespace Quote

/-- The character of a quote. -/
def char : Quote → Char
  | single => '\''
  | double => '"'

/-- The text of a quote that may be missing. -/
def text (quote : Option Quote) : List Char :=
  (quote.map char).toList

theorem isQuote_char (quote : Quote) : isQuote quote.char = true := by
  cases quote <;> rfl

end Quote

/-- Every character that opens a quoted text is one of the two quotes. -/
theorem exists_quote_of_isQuote {c : Char} (h : isQuote c = true) :
    ∃ quote : Quote, c = quote.char := by
  simp only [isQuote, Bool.or_eq_true, beq_iff_eq] at h
  obtain rfl | rfl := h
  · exact ⟨.double, rfl⟩
  · exact ⟨.single, rfl⟩

/-- The opening quote is found; a text that stands in no quotes must not start with one. -/
theorem splitQuote_text (quote : Option Quote) {body : List Char}
    (h : ∀ c ∈ body.head?, isQuote c = false) :
    splitQuote (Quote.text quote ++ body) = (quote.map Quote.char, body) := by
  cases quote with
  | some quote => simp [Quote.text, splitQuote, quote.isQuote_char]
  | none =>
      cases body with
      | nil => rfl
      | cons c body => simp [Quote.text, splitQuote, h c rfl]

/-- What is split off a text is its opening quote, if there is one. -/
theorem exists_quote_of_splitQuote (text : List Char) :
    ∃ quote : Option Quote, (splitQuote text).1 = quote.map Quote.char ∧
      text = Quote.text quote ++ (splitQuote text).2 := by
  cases text with
  | nil => exact ⟨none, rfl, rfl⟩
  | cons c rest =>
      cases hc : isQuote c with
      | false => exact ⟨none, by simp [splitQuote, hc], by simp [splitQuote, hc, Quote.text]⟩
      | true =>
          obtain ⟨quote, rfl⟩ := exists_quote_of_isQuote hc
          exact ⟨some quote, by simp [splitQuote, hc], by simp [splitQuote, hc, Quote.text]⟩

/-- What is left stands behind the closing quote. -/
theorem closeQuote_eq_some_iff {quote : Option Quote} {text left : List Char} :
    closeQuote (quote.map Quote.char) text = some left ↔ text = Quote.text quote ++ left := by
  cases quote with
  | none => simp [closeQuote, Quote.text]
  | some quote =>
      cases text with
      | nil => simp [closeQuote, Quote.text]
      | cons c text =>
          by_cases hc : c = quote.char
          · simp [closeQuote, Quote.text, hc]
          · simp [closeQuote, Quote.text, hc]

end RowBind.Text
