import RowBind.Column.Scalar.Parsed
import RowBind.Proofs.Column.NumberText

/-!
# A number needs a digit, but for a sign

What is read as a number has a digit, with one exception: where signs are read, a sign that
no digit follows is taken for a zero.  For an integer the sign may stand in quotes, for a
decimal a point may stand behind it.  The reason is that a scanner which took a sign took
something, and the readers ask only whether their scanner took nothing.

Through layers the exception stays the same: a sign does not start the word for no content.

Main statement: `needsDigit_iff`, no text is read as a number without a digit, unless it
starts with such a sign.
-/

namespace RowBind

open Number Text

variable {t : NumberType} {layers : List Layer} {text taken left : List Char}

/-! ## A sign by itself -/

/-- Some character of the text is a digit. -/
def HasDigit (text : List Char) : Prop :=
  ∃ c ∈ text, isDigit c = true

instance (text : List Char) : Decidable (HasDigit text) :=
  decidable_of_iff (text.any isDigit = true) List.any_eq_true

theorem hasDigit_append {taken left : List Char} :
    HasDigit (taken ++ left) ↔ HasDigit taken ∨ HasDigit left := by
  simp [HasDigit, or_and_right, exists_or]

/-- The texts that a number type reads although there is only a sign, and what is left
behind them. -/
inductive LoneSign : NumberType → (taken left : List Char) → Prop where
  /-- Where signs are read, a sign in quotes or without them. -/
  | integer {t : IntegerType} (hsigned : t.kind.signed = true) (quote : Option Quote)
      (sign : Sign) {left : List Char} (hleft : EndsDigits (Quote.text quote ++ left)) :
      LoneSign (.integer t) (Quote.text quote ++ [sign.char] ++ Quote.text quote) left
  /-- A sign that neither a digit nor a point follows. -/
  | decimal (sign : Sign) {left : List Char} (hleft : EndsDigits left)
      (hpoint : left.head? ≠ some '.') : LoneSign .decimal [sign.char] left
  /-- A sign and a point that no digit follows. -/
  | pointed (sign : Sign) {left : List Char} (hleft : EndsDigits left) :
      LoneSign .decimal [sign.char, '.'] left

/-- There is no digit in it. -/
theorem LoneSign.not_hasDigit (h : LoneSign t taken left) : ¬ HasDigit taken := by
  cases h with
  | integer hsigned quote sign hleft =>
      obtain _ | _ | _ := quote <;> cases sign <;> decide
  | decimal sign hleft hpoint => cases sign <;> decide
  | pointed sign hleft => cases sign <;> decide

/-- It is not the word for no content. -/
theorem LoneSign.sameWord_null (h : LoneSign t taken left) : sameWord taken "null" = false := by
  cases h with
  | integer hsigned quote sign hleft =>
      obtain _ | _ | _ := quote <;> cases sign <;> rfl
  | decimal sign hleft hpoint => cases sign <;> rfl
  | pointed sign hleft => cases sign <;> rfl

/-- No text that starts with it starts with the word for no content. -/
theorem LoneSign.startsWithNull (h : LoneSign t taken left) :
    startsWithNull (taken ++ left) = false := by
  cases h with
  | integer hsigned quote sign hleft =>
      obtain _ | _ | _ := quote <;> cases sign <;> rfl
  | decimal sign hleft hpoint => cases sign <;> rfl
  | pointed sign hleft => cases sign <;> rfl

/-- A sign without digits. -/
def Number.SignedRun.lone (sign : Sign) : SignedRun where
  sign := some sign
  digits := ⟨[], nofun⟩

/-- It writes a zero. -/
theorem Number.SignedRun.lone_number (sign : Sign) : (lone sign).number = 0 := by
  cases sign <;> rfl

/-- What a scanner takes has a digit, or it is a sign without digits. -/
theorem Number.SignedRun.hasDigit_or_eq_lone {run : SignedRun} (h : run.text ≠ []) :
    HasDigit run.text ∨ ∃ sign, run = lone sign := by
  obtain ⟨sign, ⟨chars, hdigits⟩⟩ := run
  cases chars with
  | cons c chars =>
      have hmem : c ∈ SignedRun.text ⟨sign, ⟨c :: chars, hdigits⟩⟩ :=
        List.mem_append_right _ List.mem_cons_self
      exact .inl ⟨c, hmem, hdigits c List.mem_cons_self⟩
  | nil =>
      cases sign with
      | none => exact absurd rfl h
      | some sign => exact .inr ⟨sign, rfl⟩

/-! ## Reading -/

/-- A sign without digits is read as a decimal, with digits behind a point or without. -/
theorem exists_readDecimalText_lone (sign : Sign) (places : Option DigitRun)
    (hnone : PointedRun.fraction ⟨.lone sign, places⟩ = [])
    (hleft : PointedRun.EndsBefore ⟨.lone sign, places⟩ left) :
    ∃ d, readDecimalText (PointedRun.text ⟨.lone sign, places⟩ ++ left) = .ok (d, left) := by
  have hscale : PointedRun.scale ⟨.lone sign, places⟩ = 0 := by
    rw [PointedRun.scale, hnone]
    rfl
  have hzero : PointedRun.coefficient ⟨.lone sign, places⟩ = 0 := by
    rw [PointedRun.coefficient, hnone]
    exact SignedRun.lone_number sign
  have hfits : PointedRun.Fits ⟨.lone sign, places⟩ := by
    rw [PointedRun.Fits, hscale, hzero]
    decide
  have hplaces : PointedRun.scale ⟨.lone sign, places⟩ < 2 ^ (32 : Nat) := by
    rw [hscale]
    decide
  obtain ⟨d, hread, -⟩ := exists_readDecimalText ⟨.lone sign, places⟩ (List.cons_ne_nil _ _)
    hplaces hleft hfits
  exact ⟨d, hread⟩

/-- A sign by itself is read. -/
theorem LoneSign.exists_read (h : LoneSign t taken left) :
    ∃ content, ColumnFamily.read t.scalar (taken ++ left) = .ok (content, left) := by
  cases h with
  | @integer t hsigned quote sign left hleft =>
      obtain ⟨content, hzero⟩ := (t.exists_number_iff 0).mpr t.kind.holds_zero
      refine ⟨content, t.read_eq_ok_iff.mpr ?_⟩
      rw [List.append_assoc, List.append_assoc]
      exact (readInteger_text quote (.lone sign) (.inl hsigned) (List.cons_ne_nil _ _) hleft).mpr
        ⟨hzero.trans (SignedRun.lone_number sign).symm, rfl⟩
  | decimal sign hleft hpoint =>
      exact exists_readDecimalText_lone sign none rfl ⟨hleft, fun _ => hpoint⟩
  | pointed sign hleft =>
      exact exists_readDecimalText_lone sign (some ⟨[], nofun⟩) rfl ⟨hleft, nofun⟩

/-- What is read as an integer has a digit, or it is a sign by itself. -/
theorem exists_taken_of_readInteger {t : IntegerType} {type : String} {i : Integer t.kind}
    (h : readInteger t.kind type text = .ok (i, left)) :
    ∃ taken, taken ++ left = text ∧ (HasDigit taken ∨ LoneSign (.integer t) taken left) := by
  obtain ⟨hconsumed, number, -, -, hclose⟩ := readInteger_eq_ok_iff.mp h
  obtain ⟨quote, hquote, htext⟩ := exists_quote_of_splitQuote text
  obtain ⟨run, hsuits, htaken, hends⟩ :=
    exists_signedRun_of_scan t.kind.signed (splitQuote text).2
  have hbody := scan_consumed_append_rest t.kind.signed (splitQuote text).2
  rw [hquote, closeQuote_eq_some_iff] at hclose
  rw [htaken] at hconsumed hbody
  rw [hclose] at hbody hends
  refine ⟨Quote.text quote ++ run.text ++ Quote.text quote, ?_, ?_⟩
  · rw [List.append_assoc, List.append_assoc, hbody]
    exact htext.symm
  · obtain hdigit | ⟨sign, rfl⟩ := SignedRun.hasDigit_or_eq_lone hconsumed
    · exact .inl (hasDigit_append.mpr (.inl (hasDigit_append.mpr (.inr hdigit))))
    · obtain hsigned | hnone := hsuits
      · exact .inr (.integer hsigned quote sign hends)
      · cases hnone

/-- What is read as a decimal has a digit, or it is a sign by itself. -/
theorem exists_taken_of_readDecimal {d : Decimal} (h : readDecimal text = some (d, left)) :
    ∃ taken, taken ++ left = text ∧ (HasDigit taken ∨ LoneSign .decimal taken left) := by
  obtain ⟨⟨whole, places⟩, hne, hends, htext⟩ := exists_pointedRun_of_readDecimal h
  refine ⟨_, htext, ?_⟩
  obtain hdigit | ⟨sign, rfl⟩ := SignedRun.hasDigit_or_eq_lone hne
  · exact .inl (hasDigit_append.mpr (.inl hdigit))
  · obtain _ | ⟨_ | ⟨c, others⟩, hdigits⟩ := places
    · exact .inr (.decimal sign hends.1 (hends.2 rfl))
    · exact .inr (.pointed sign hends.1)
    · refine .inl ⟨c, ?_, hdigits c List.mem_cons_self⟩
      simp [PointedRun.text, PointedRun.pointed]

/-- **What is read as a number has a digit**, or it is a sign by itself. -/
theorem exists_taken_of_read {content : Scalar.Content t.scalar}
    (h : ColumnFamily.read t.scalar text = .ok (content, left)) :
    ∃ taken, taken ++ left = text ∧ (HasDigit taken ∨ LoneSign t taken left) := by
  cases t with
  | integer t => exact exists_taken_of_readInteger (t.read_eq_ok_iff.mp h)
  | decimal =>
      have hread : readDecimalText text = .ok (content, left) := h
      unfold readDecimalText at hread
      split at hread
      · next found hfound =>
        cases hread
        exact exists_taken_of_readDecimal hfound
      · cases hread

/-! ## Behind layers -/

/-- What is to be expected of a text if a number needs a digit. -/
structure NeedsDigit (layers : List Layer) (t : NumberType) (text : List Char) : Prop where
  /-- What is taken for a content has a digit, or it is the word for no content. -/
  read : ∀ {content : Content (ColumnType.wrap t.scalar layers)} {left : List Char},
    readOff (ColumnType.wrap t.scalar layers) text = (.ok content, left) →
      ∃ taken, taken ++ left = text ∧
        (HasDigit taken ∨ (Layer.optional ∈ layers ∧ sameWord taken "null" = true))
  /-- So it is if the whole text is read. -/
  parsed : ∀ {content : Content (ColumnType.wrap t.scalar layers)},
    readAll (ColumnType.wrap t.scalar layers) text = .ok content →
      HasDigit text ∨ (Layer.optional ∈ layers ∧ sameWord text "null" = true)
  /-- The text as a value of a type not known yet is converted only if it has a digit. -/
  converted : ∀ {content : Content (ColumnType.wrap t.scalar layers)},
    ofValue (ColumnType.wrap t.scalar layers) (.untyped (some (String.ofList text))) = .ok content →
      HasDigit text

/-- A sign by itself is read off the front of a text, behind any layers. -/
theorem LoneSign.exists_readOff (h : LoneSign t taken left) (layers : List Layer) :
    ∃ content, readOff (ColumnType.wrap t.scalar layers) (taken ++ left) = (.ok content, left) := by
  obtain ⟨inner, hinner⟩ := h.exists_read
  obtain ⟨content, hcontent⟩ := ColumnType.exists_read_wrap layers h.startsWithNull hinner
  exact ⟨content, readOff_eq_ok_iff.mpr hcontent⟩

/-- What is read behind layers is the word for no content, it has a digit, or it is a sign by
itself. -/
theorem exists_taken_of_readOff {content : Content (ColumnType.wrap t.scalar layers)}
    (h : readOff (ColumnType.wrap t.scalar layers) text = (.ok content, left)) :
    ∃ taken, taken ++ left = text ∧
      ((Layer.optional ∈ layers ∧ sameWord taken "null" = true) ∨
        HasDigit taken ∨ LoneSign t taken left) := by
  obtain ⟨hmem, hnull, rfl⟩ | ⟨inner, hinner⟩ :=
    ColumnType.read_wrap (readOff_eq_ok_iff.mp h)
  · exact ⟨_, List.takeWhile_append_dropWhile, .inl ⟨hmem, hnull⟩⟩
  · obtain ⟨taken, htext, htaken⟩ := exists_taken_of_read hinner
    exact ⟨taken, htext, .inr htaken⟩

/-- What is converted from a text not known yet was read from it as a whole. -/
theorem exists_read_of_ofValue_untyped {content : Content (ColumnType.wrap t.scalar layers)}
    (h : ofValue (ColumnType.wrap t.scalar layers) (.untyped (some (String.ofList text))) =
      .ok content) :
    ∃ inner, ColumnFamily.read t.scalar text = .ok (inner, []) := by
  obtain ⟨inner, hinner, -⟩ := (ParsedType.number t).ofValue_wrap_untyped.mp h
  exact ⟨inner, hinner⟩

/-- **A number needs a digit, but for a sign**: a text is read as a number without a digit
exactly if it starts with a sign by itself. -/
theorem needsDigit_iff (layers : List Layer) (t : NumberType) (text : List Char) :
    NeedsDigit layers t text ↔ ¬ ∃ taken left, LoneSign t taken left ∧ taken ++ left = text := by
  constructor
  · rintro h ⟨taken, left, hlone, rfl⟩
    obtain ⟨content, hcontent⟩ := hlone.exists_readOff layers
    obtain ⟨same, hsame, hdigit | ⟨-, hnull⟩⟩ := h.read hcontent <;>
      cases List.append_cancel_right hsame
    · exact hlone.not_hasDigit hdigit
    · rw [hlone.sameWord_null] at hnull
      cases hnull
  · intro hnone
    have hread {left : List Char} {content : Content (ColumnType.wrap t.scalar layers)}
        (h : readOff (ColumnType.wrap t.scalar layers) text = (.ok content, left)) :
        ∃ taken, taken ++ left = text ∧
          (HasDigit taken ∨ (Layer.optional ∈ layers ∧ sameWord taken "null" = true)) := by
      obtain ⟨taken, htext, hnull | hdigit | hlone⟩ := exists_taken_of_readOff h
      · exact ⟨taken, htext, .inr hnull⟩
      · exact ⟨taken, htext, .inl hdigit⟩
      · exact absurd ⟨taken, left, hlone, htext⟩ hnone
    refine ⟨hread, fun {content} hcontent => ?_, fun {content} hcontent => ?_⟩
    · obtain ⟨taken, htext, htaken⟩ := hread (readOff_eq_ok_iff.mpr (readAll_eq_ok_iff.mp hcontent))
      rw [List.append_nil] at htext
      exact htext ▸ htaken
    · obtain ⟨inner, hinner⟩ := exists_read_of_ofValue_untyped hcontent
      obtain ⟨taken, htext, hdigit | hlone⟩ := exists_taken_of_read hinner
      · rw [List.append_nil] at htext
        exact htext ▸ hdigit
      · exact absurd ⟨taken, [], hlone, htext⟩ hnone

/-- A minus by itself is read as the integer zero. -/
theorem not_needsDigit_minus :
    readAll (ColumnType.base (Scalar.int ⟨true, .w32⟩)) ['-'] = .ok (Integer.zero _) ∧
      ¬ NeedsDigit [] (.integer (.sized ⟨true, .w32⟩)) ['-'] := by
  have hread : readAll (ColumnType.base (Scalar.int ⟨true, .w32⟩)) ['-'] = .ok (Integer.zero _) := by
    rfl
  refine ⟨hread, fun h => ?_⟩
  obtain hdigit | ⟨hmem, -⟩ := h.parsed hread
  · exact absurd hdigit (by decide)
  · cases hmem

end RowBind
