import Mathlib.Data.List.TakeWhile
import RowBind.Proofs.Column.Pieces
import RowBind.Proofs.Text.Quotes

/-!
# Texts in quotes and without them

A text that stands in quotes may hold any characters; the quote itself is written twice.  A
scanner that meets a quote cannot tell by it whether the text ends there: it has to look at
the next character.  So a text ends at the first quote that is not one of a pair, and pairs
are found from the left; what was written is read back, and what is read was written so.

A text without quotes goes on as long as there is neither a blank nor a comma.

Main statements: `quotedBody_eq_some_iff`, what is read between quotes is what was written
there; and `readOff_text_exact`, how texts are read.
-/

namespace RowBind

open Text

variable {text body left : List Char}

/-! ## Between quotes -/

/-- The text starts with the rest of a text in quotes: its characters with the quote doubled,
the closing quote, and behind that no other one. -/
def Text.Closes (quote : Char) (content left text : List Char) : Prop :=
  text = doubleQuotes quote content ++ quote :: left ∧ left.head? ≠ some quote

theorem Text.doubleQuotes_cons_self (quote : Char) (content : List Char) :
    doubleQuotes quote (quote :: content) = quote :: quote :: doubleQuotes quote content := by
  simp [doubleQuotes]

theorem Text.doubleQuotes_cons_of_ne {quote c : Char} (h : c ≠ quote) (content : List Char) :
    doubleQuotes quote (c :: content) = c :: doubleQuotes quote content := by
  simp [doubleQuotes, h]

/-- What is read up to a closing quote was written in front of it.  By induction on the
scanner, which passes one character or a pair of quotes at a time. -/
theorem Text.closes_of_quotedBody {quote : Char} {content : List Char}
    (h : quotedBody quote text = some (content, left)) : Closes quote content left text := by
  fun_induction quotedBody quote text generalizing content with
  | case1 => cases h
  | case2 =>
      cases h
      exact ⟨rfl, by simp⟩
  | case3 c hc => cases h
  | case4 others ih =>
      obtain ⟨⟨inner, behind⟩, hinner, heq⟩ := Option.map_eq_some_iff.mp h
      cases heq
      obtain ⟨hothers, hleft⟩ := ih hinner
      refine ⟨?_, hleft⟩
      rw [hothers, doubleQuotes_cons_self]
      rfl
  | case5 d others hd =>
      cases h
      refine ⟨rfl, ?_⟩
      simpa using hd
  | case6 c d others hc ih =>
      obtain ⟨⟨inner, behind⟩, hinner, heq⟩ := Option.map_eq_some_iff.mp h
      cases heq
      obtain ⟨hothers, hleft⟩ := ih hinner
      refine ⟨?_, hleft⟩
      rw [hothers, doubleQuotes_cons_of_ne hc]
      rfl

/-- **What is read between quotes is what was written there.** -/
theorem Text.quotedBody_eq_some_iff {quote : Char} {content : List Char} :
    quotedBody quote text = some (content, left) ↔ Closes quote content left text := by
  constructor
  · exact closes_of_quotedBody
  · rintro ⟨rfl, hleft⟩
    exact quotedBody_double quote content hleft

/-- What is written in quotes is longer than what is meant. -/
theorem Text.Closes.length_lt {quote : Char} {content : List Char}
    (h : Closes quote content left text) : content.length < text.length := by
  have hdoubled : content.length ≤ (doubleQuotes quote content).length := by
    clear h
    induction content with
    | nil => exact Nat.zero_le _
    | cons c content ih =>
        by_cases hc : c = quote
        · rw [hc, doubleQuotes_cons_self, List.length_cons, List.length_cons, List.length_cons]
          omega
        · rw [doubleQuotes_cons_of_ne hc, List.length_cons, List.length_cons]
          omega
  rw [h.1, List.length_append, List.length_cons]
  omega

/-! ## Without quotes -/

/-- No character of the text is a blank or a comma. -/
def Text.IsBare (text : List Char) : Prop :=
  ∀ c ∈ text, isBlank c = false ∧ c ≠ ','

theorem Text.isBare_iff_all : IsBare text ↔ ∀ c ∈ text, isBare c = true := by
  simp [IsBare, isBare]

/-- The longest start of a text that has neither a blank nor a comma. -/
structure Text.LongestBare (text taken : List Char) : Prop where
  starts : taken <+: text
  bare : IsBare taken
  longest : ∀ {other : List Char}, other <+: text → IsBare other → other <+: taken

/-- It is what is taken as long as there is neither. -/
theorem Text.longestBare_takeWhile (text : List Char) :
    LongestBare text (text.takeWhile isBare) where
  starts := List.takeWhile_prefix isBare
  bare := isBare_iff_all.mpr (List.all_eq_true.mp List.all_takeWhile)
  longest := by
    rintro other ⟨rest, rfl⟩ hbare
    rw [List.takeWhile_append_of_pos (isBare_iff_all.mp hbare)]
    exact List.prefix_append _ _

/-! ## Reading -/

/-- A text behind an opening quote is read as it was written there. -/
theorem readText_quote_eq_ok_iff (quote : Quote) {content : String} :
    readText (quote.char :: body) = .ok (content, left) ↔
      Closes quote.char content.toList left body := by
  have hsplit : splitQuote (quote.char :: body) = (some quote.char, body) := by
    simp [splitQuote, quote.isQuote_char]
  rw [← quotedBody_eq_some_iff]
  cases hbody : quotedBody quote.char body with
  | none => simp [readText, hsplit, hbody, failFor]
  | some found =>
      obtain ⟨inner, behind⟩ := found
      simp only [readText, hsplit, hbody, Except.ok.injEq, Prod.mk.injEq, Option.some.injEq]
      constructor
      · rintro ⟨rfl, rfl⟩
        exact ⟨String.toList_ofList.symm, rfl⟩
      · rintro ⟨rfl, rfl⟩
        exact ⟨String.ofList_toList, rfl⟩

/-- A text that does not start with a quote is read as far as it is bare. -/
theorem readText_bare (h : ∀ quote : Quote, text.head? ≠ some quote.char) :
    readText text =
      .ok (String.ofList (text.takeWhile Text.isBare), text.dropWhile Text.isBare) := by
  have hsplit : splitQuote text = (none, text) := by
    refine splitQuote_text none fun c hc => ?_
    cases hquote : isQuote c with
    | false => rfl
    | true =>
        obtain ⟨quote, rfl⟩ := exists_quote_of_isQuote hquote
        exact absurd hc (h quote)
  simp only [readText, hsplit, bareText]

/-- A text is read as itself exactly if it starts with no quote and is bare: what stands in
quotes is longer than what it means. -/
theorem readText_self_iff (text : String) :
    readText text.toList = .ok (text, []) ↔
      (∀ quote : Quote, text.toList.head? ≠ some quote.char) ∧ IsBare text.toList := by
  by_cases hquoted : ∃ quote : Quote, text.toList.head? = some quote.char
  · obtain ⟨quote, hquote⟩ := hquoted
    obtain ⟨body, htext⟩ := List.head?_eq_some_iff.mp hquote
    constructor
    · intro hread
      rw [htext, readText_quote_eq_ok_iff] at hread
      have hlonger := hread.length_lt
      rw [htext, List.length_cons] at hlonger
      omega
    · rintro ⟨hnone, -⟩
      exact absurd hquote (hnone quote)
  · have hnone : ∀ quote : Quote, text.toList.head? ≠ some quote.char :=
      fun quote hquote => hquoted ⟨quote, hquote⟩
    rw [readText_bare hnone, isBare_iff_all]
    simp only [Except.ok.injEq, Prod.mk.injEq, List.dropWhile_eq_nil_iff]
    constructor
    · rintro ⟨-, hbare⟩
      exact ⟨hnone, hbare⟩
    · rintro ⟨-, hbare⟩
      refine ⟨?_, hbare⟩
      rw [List.takeWhile_eq_self_iff.mpr hbare, String.ofList_toList]

/-- What is to be expected of texts that are read, in quotes or without them. -/
structure ReadsTexts : Prop where
  /-- What is written in quotes, with the quote doubled, is read back whatever follows it that
  is no other quote. -/
  accepted : ∀ (quote : Quote) (content : String) {left : List Char},
    left.head? ≠ some quote.char →
      readOff Scalar.text
          (quote.char :: (doubleQuotes quote.char content.toList ++ quote.char :: left)) =
        (.ok content, left)
  /-- What is read behind a quote was written so. -/
  taken : ∀ (quote : Quote) {body left : List Char} {content : String},
    readOff Scalar.text (quote.char :: body) = (.ok content, left) →
      body = doubleQuotes quote.char content.toList ++ quote.char :: left ∧
        left.head? ≠ some quote.char
  /-- A text behind a quote is refused, and left as it was, exactly if it was not written so:
  there is no closing quote. -/
  refused_iff : ∀ (quote : Quote) (body : List Char),
    (∃ failure, readOff Scalar.text (quote.char :: body) = (.error failure, quote.char :: body)) ↔
      ¬ ∃ content left, body = doubleQuotes quote.char content ++ quote.char :: left ∧
        left.head? ≠ some quote.char
  /-- A text that starts with no quote is read as far as there is neither a blank nor a
  comma. -/
  bare : ∀ {text : List Char}, (∀ quote : Quote, text.head? ≠ some quote.char) →
    ∃ content left, readOff Scalar.text text = (.ok (String.ofList content), left) ∧
      content ++ left = text ∧ LongestBare text content
  /-- A text is read as itself exactly if it starts with no quote and has neither. -/
  itself_iff : ∀ text : String, readAll Scalar.text text.toList = .ok text ↔
    (∀ quote : Quote, text.toList.head? ≠ some quote.char) ∧ IsBare text.toList

/-- **Texts are read exactly**: those in quotes are those that were written there, and those
without go on as far as they may. -/
theorem readOff_text_exact : ReadsTexts where
  accepted quote content left hleft :=
    readOff_eq_ok_iff.mpr ((readText_quote_eq_ok_iff quote).mpr ⟨rfl, hleft⟩)
  taken quote body left content hread :=
    (readText_quote_eq_ok_iff quote).mp (readOff_eq_ok_iff.mp hread)
  refused_iff quote body := by
    constructor
    · rintro ⟨failure, hrefused⟩ ⟨content, left, hcloses⟩
      have hread : readOff Scalar.text (quote.char :: body) = (.ok (String.ofList content), left) := by
        refine readOff_eq_ok_iff.mpr ((readText_quote_eq_ok_iff quote).mpr ?_)
        rwa [String.toList_ofList]
      rw [hread] at hrefused
      cases hrefused
    · intro hnone
      refine exists_readOff_eq_error fun content left hread => hnone ?_
      exact ⟨content.toList, left, (readText_quote_eq_ok_iff quote).mp hread⟩
  bare {text} hnone :=
    ⟨_, _, readOff_eq_ok_iff.mpr (readText_bare hnone), List.takeWhile_append_dropWhile,
      longestBare_takeWhile text⟩
  itself_iff text := readAll_eq_ok_iff.trans (readText_self_iff text)

/-- Of three quotes behind a character the first two are one, and the third one ends the
text. -/
example : readOff Scalar.text "'s''',x".toList = (.ok "s'", ",x".toList) := by
  rfl

end RowBind
