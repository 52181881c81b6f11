import RowBind.Column.Scalar.Numbers
import RowBind.Proofs.Column.Pieces
import RowBind.Proofs.Number.DecimalNumeral
import RowBind.Proofs.Text.Quotes

/-!
# The texts of numbers

Integers and decimals are read from the texts that write them, and exactly so.  An integer
type takes a numeral if its number lies in the range of the type, however many digits that
takes, and if the quote in front of the numeral is closed behind it.  The decimals take a
numeral if its coefficient has 96 bits at most and its scale is 28 at most.  What is not taken
is left as it is.  In particular a type reads back what it prints.

Main statements: `readOff_integer_exact` and `readOff_decimal_exact`.
-/

namespace RowBind

open Number Text

attribute [local instance (high)] instPowNat

variable {rest left : List Char}

/-! ## Integers -/

/-- The wide range has all numbers of the range. -/
theorem Number.IntKind.Holds.wide {kind : IntKind} {n : Int} (h : kind.Holds n) :
    (wideKind kind.signed).Holds n := by
  have hleast : (wideKind kind.signed).least ≤ kind.least := by
    rcases kind with ⟨signed, width⟩
    cases signed <;> cases width <;> decide
  have hgreatest : kind.greatest ≤ (wideKind kind.signed).greatest := by
    rcases kind with ⟨signed, width⟩
    cases signed <;> cases width <;> decide
  exact ⟨Int.le_trans hleast h.1, Int.le_trans h.2 hgreatest⟩

/-- What writes a number does not start with a quote. -/
theorem isQuote_head?_text {run : SignedRun} (hne : run.text ≠ []) (rest : List Char) :
    ∀ c ∈ (run.text ++ rest).head?, isQuote c = false := by
  obtain ⟨c, others, htext, hc⟩ := SignedRun.exists_text_eq_cons hne
  rw [htext]
  rintro _ ⟨⟩
  obtain ⟨sign, -, rfl⟩ | ⟨-, hdigit⟩ := hc
  · cases sign <;> rfl
  · cases hquote : isQuote c with
    | false => rfl
    | true =>
        obtain ⟨quote, rfl⟩ := exists_quote_of_isQuote hquote
        cases quote <;> cases hdigit

/-- **An integer is read from its text** exactly if it lies in the range and the quote is
closed. -/
theorem readInteger_text {kind : IntKind} {type : String} {i : Integer kind}
    (quote : Option Quote) (run : SignedRun) (hsuits : run.Suits kind.signed)
    (hne : run.text ≠ []) (hrest : EndsDigits rest) :
    readInteger kind type (Quote.text quote ++ (run.text ++ rest)) = .ok (i, left) ↔
      i.val = run.number ∧ rest = Quote.text quote ++ left := by
  rw [readInteger_eq_ok_iff, splitQuote_text quote (isQuote_head?_text hne rest),
    scanNumber_text run kind.signed hsuits (fun _ => hne) hrest]
  simp only [narrow_eq_ok_iff, closeQuote_eq_some_iff]
  constructor
  · rintro ⟨-, number, hnumber, hval, hclosed⟩
    obtain ⟨wide, hwide, rfl⟩ := Option.map_eq_some_iff.mp hnumber
    exact ⟨hval.trans (Integer.ofInt?_eq_some_iff.mp hwide), hclosed⟩
  · rintro ⟨hval, hclosed⟩
    have hwide : (wideKind kind.signed).Holds run.number := hval ▸ i.holds.wide
    exact ⟨hne, run.number, by rw [Integer.ofInt?_of_holds hwide]; rfl, hval, hclosed⟩

/-- Where signs are not read, nothing is that starts with one. -/
theorem readInteger_unsuited {kind : IntKind} {type : String} (quote : Option Quote)
    {run : SignedRun} (hsuits : ¬ run.Suits kind.signed) (rest : List Char)
    (found : Integer kind × List Char) :
    readInteger kind type (Quote.text quote ++ (run.text ++ rest)) ≠ .ok found := by
  intro hread
  obtain ⟨sign, digits⟩ := run
  simp only [SignedRun.Suits, not_or, Bool.not_eq_true] at hsuits
  obtain ⟨hsigned, hsign⟩ := hsuits
  obtain ⟨sign, rfl⟩ := Option.ne_none_iff_exists'.mp hsign
  have hne : SignedRun.text ⟨some sign, digits⟩ ≠ [] := List.cons_ne_nil _ _
  obtain ⟨hconsumed, -⟩ := readInteger_eq_ok_iff.mp hread
  rw [splitQuote_text quote (isQuote_head?_text hne rest), hsigned] at hconsumed
  simp [scanNumber, SignedRun.text, Sign.text, sign.isDigit_char] at hconsumed

theorem endsDigits_quote (quote : Option Quote) : EndsDigits (Quote.text quote) := by
  cases quote with
  | none => exact endsDigits_nil
  | some quote => cases quote <;> decide

/-- A number of the range is printed with a sign only if signs are read. -/
theorem Number.IntKind.Holds.suits {kind : IntKind} {n : Int} (h : kind.Holds n) :
    (Numeral.ofInt n).Suits kind.signed := by
  cases hsigned : kind.signed with
  | true => exact .inl rfl
  | false =>
      have hleast : kind.least = 0 := by simp [IntKind.least, hsigned]
      have hneg : ¬ n < 0 := by
        have hle := h.1
        omega
      exact .inr (if_neg hneg)

/-- What is printed is read as a whole exactly if it is of the range. -/
theorem readInteger_printed {kind : IntKind} {type : String} {i : Integer kind}
    (quote : Option Quote) (n : Int) :
    readInteger kind type (Quote.text quote ++ (toString n).toList ++ Quote.text quote) =
      .ok (i, []) ↔ i.val = n := by
  have hread (hsuits : (Numeral.ofInt n).Suits kind.signed) :
      readInteger kind type (Quote.text quote ++ ((Numeral.ofInt n).text ++ Quote.text quote)) =
        .ok (i, []) ↔ i.val = (Numeral.ofInt n).number ∧ Quote.text quote = Quote.text quote ++ [] :=
    readInteger_text quote (Numeral.ofInt n).toSignedRun hsuits (Numeral.ofInt n).text_ne_nil
      (endsDigits_quote quote)
  rw [List.append_assoc, ← Numeral.ofInt_text]
  constructor
  · intro h
    by_cases hsuits : (Numeral.ofInt n).Suits kind.signed
    · exact ((hread hsuits).mp h).1.trans (Numeral.ofInt_number n)
    · exact absurd h (readInteger_unsuited quote hsuits (Quote.text quote) (i, []))
  · rintro rfl
    exact (hread i.holds.suits).mpr ⟨(Numeral.ofInt_number _).symm, (List.append_nil _).symm⟩

/-- What is to be expected of an integer type that reads numerals. -/
structure ReadsNumerals (t : IntegerType) : Prop where
  /-- A numeral of the range is read if its quote is closed, and the text behind it is left. -/
  accepted : ∀ (quote : Option Quote) (n : Numeral) {left : List Char},
    n.Suits t.kind.signed → EndsDigits (Quote.text quote ++ left) → t.kind.Holds n.number →
      ∃ content, t.number content = n.number ∧
        readOff t.scalar (Quote.text quote ++ n.text ++ (Quote.text quote ++ left)) =
          (.ok content, left)
  /-- Any other numeral is refused, and its text is left as it was. -/
  refused : ∀ (quote : Option Quote) (n : Numeral) {rest : List Char},
    n.Suits t.kind.signed → EndsDigits rest →
      ¬ (t.kind.Holds n.number ∧ Quote.text quote <+: rest) →
        ∃ failure, readOff t.scalar (Quote.text quote ++ n.text ++ rest) =
          (.error failure, Quote.text quote ++ n.text ++ rest)
  /-- What is printed is read back, bare or in quotes. -/
  printed : ∀ (quote : Option Quote) {n : Int}, t.kind.Holds n →
    ∃ content, t.number content = n ∧
      readAll t.scalar (Quote.text quote ++ (toString n).toList ++ Quote.text quote) = .ok content
  /-- No number beyond the range is. -/
  beyond : ∀ (quote : Option Quote) {n : Int}, ¬ t.kind.Holds n →
    ∃ failure, readAll t.scalar (Quote.text quote ++ (toString n).toList ++ Quote.text quote) =
      .error failure

/-- **Integers are read exactly.** -/
theorem readOff_integer_exact (t : IntegerType) : ReadsNumerals t where
  accepted quote n left hsuits hends hholds := by
    obtain ⟨content, hnumber⟩ := (t.exists_number_iff n.number).mpr hholds
    refine ⟨content, hnumber, readOff_eq_ok_iff.mpr (t.read_eq_ok_iff.mpr ?_)⟩
    rw [List.append_assoc, readInteger_text quote _ hsuits n.text_ne_nil hends]
    exact ⟨hnumber, rfl⟩
  refused quote n rest hsuits hends hnot := by
    refine exists_readOff_eq_error fun content left hread => hnot ?_
    rw [t.read_eq_ok_iff, List.append_assoc,
      readInteger_text quote _ hsuits n.text_ne_nil hends] at hread
    obtain ⟨hnumber, hclosed⟩ := hread
    exact ⟨hnumber ▸ (t.integer content).holds, ⟨left, hclosed.symm⟩⟩
  printed quote n hholds := by
    obtain ⟨content, hnumber⟩ := (t.exists_number_iff n).mpr hholds
    refine ⟨content, hnumber, readAll_eq_ok_iff.mpr (t.read_eq_ok_iff.mpr ?_)⟩
    exact (readInteger_printed quote n).mpr hnumber
  beyond quote n hnot := by
    cases hread : readAll t.scalar (Quote.text quote ++ (toString n).toList ++ Quote.text quote) with
    | error failure => exact ⟨failure, rfl⟩
    | ok content =>
        rw [readAll_eq_ok_iff, t.read_eq_ok_iff, readInteger_printed] at hread
        exact absurd (hread ▸ (t.integer content).holds) hnot

/-! ## Decimals -/

/-- What is to be expected of decimals that are read from numerals. -/
structure ReadsDecimals : Prop where
  /-- A numeral within the limits is read with its coefficient and its scale, and the text
  behind it is left. -/
  accepted : ∀ (n : DecimalNumeral) {rest : List Char}, n.scale < 2 ^ (32 : Nat) →
    n.EndsBefore rest → n.Fits →
      ∃ d : Decimal, readOff Scalar.decimal (n.text ++ rest) = (.ok d, rest) ∧
        d.coefficient = n.coefficient ∧ d.scale = n.scale
  /-- Any other numeral is refused, and its text is left as it was. -/
  refused : ∀ (n : DecimalNumeral) {rest : List Char}, n.scale < 2 ^ (32 : Nat) →
    n.EndsBefore rest → ¬ n.Fits →
      readOff Scalar.decimal (n.text ++ rest) =
        (failFor (.noDecimal (String.ofList (n.text ++ rest))), n.text ++ rest)
  /-- What is printed is read back, up to the sign of a zero. -/
  printed : ∀ d : Decimal, ∃ found : Decimal, readAll Scalar.decimal d.text = .ok found ∧
    found.coefficient = d.coefficient ∧ found.scale = d.scale

/-- What is read of the text of a decimal, as a whole. -/
theorem readDecimalText_run (run : PointedRun) (hne : run.whole.text ≠ [])
    (hplaces : run.scale < 2 ^ (32 : Nat)) (hrest : run.EndsBefore rest) :
    readDecimalText (run.text ++ rest) =
      match Decimal.ofScaled? run.coefficient run.scale with
      | some d => .ok (d, rest)
      | none => failFor (.noDecimal (String.ofList (run.text ++ rest))) := by
  rw [readDecimalText, readDecimal_text run hne hplaces hrest]
  cases Decimal.ofScaled? run.coefficient run.scale <;> rfl

/-- Within the limits it is read. -/
theorem exists_readDecimalText (run : PointedRun) (hne : run.whole.text ≠ [])
    (hplaces : run.scale < 2 ^ (32 : Nat)) (hrest : run.EndsBefore rest) (hfits : run.Fits) :
    ∃ d : Decimal, readDecimalText (run.text ++ rest) = .ok (d, rest) ∧
      d.coefficient = run.coefficient ∧ d.scale = run.scale := by
  rw [readDecimalText_run run hne hplaces hrest]
  cases hfound : Decimal.ofScaled? run.coefficient run.scale with
  | none => exact absurd hfits (Decimal.ofScaled?_eq_none_iff.mp hfound)
  | some d => exact ⟨d, rfl, Decimal.ofScaled?_eq_some hfound⟩

/-- **Decimals are read exactly.** -/
theorem readOff_decimal_exact : ReadsDecimals where
  accepted n rest hplaces hrest hfits := by
    obtain ⟨d, hread, hsame⟩ :=
      exists_readDecimalText n.toPointedRun n.whole_text_ne_nil hplaces hrest hfits
    exact ⟨d, readOff_eq_ok_iff.mpr hread, hsame⟩
  refused n rest hplaces hrest hnot := by
    have hread := readDecimalText_run n.toPointedRun n.whole_text_ne_nil hplaces hrest
    rw [Decimal.ofScaled?_eq_none_iff.mpr hnot] at hread
    have hnone : read Scalar.decimal (n.text ++ rest) =
        failFor (.noDecimal (String.ofList (n.text ++ rest))) := hread
    rw [readOff, hnone]
    rfl
  printed d := by
    have hscale := DecimalNumeral.ofDecimal_scale d
    have hplaces : (DecimalNumeral.ofDecimal d).scale < 2 ^ (32 : Nat) := by
      have hle := d.scale_le
      omega
    obtain ⟨found, hread, hcoefficient, hsame⟩ := exists_readDecimalText
      (DecimalNumeral.ofDecimal d).toPointedRun (DecimalNumeral.ofDecimal d).whole_text_ne_nil
      hplaces (PointedRun.endsBefore_nil _) (DecimalNumeral.ofDecimal_fits d)
    rw [List.append_nil, DecimalNumeral.ofDecimal_text] at hread
    exact ⟨found, readAll_eq_ok_iff.mpr hread,
      hcoefficient.trans (DecimalNumeral.ofDecimal_coefficient d), hsame.trans hscale⟩

/-- The sign in front of the whole part counts for the digits behind the point. -/
example : (readAll Scalar.decimal "-0.05".toList).map (fun d => (d.coefficient, d.scale)) =
    .ok (-5, 2) := by
  rfl

end RowBind
