import RowBind.Number.BinaryText
import RowBind.Number.Decimal
import RowBind.Proofs.Text.Pieces

/-!
# Numbers among the pieces of a text

A number is read from the start of a text and leaves the text behind it.  Where the text is
one piece among several, the pieces that follow make no difference: a comma or a blank is no
sign, no digit, no point and no mark of an exponent, and it starts none of the words for
what is not finite.  So the number is read as if the piece were the whole text, and the
other pieces stay behind what it leaves.

Main statements: `scanNumber_followed`, for whole numbers; `readDecimal_followed`, for
decimals; and `readBinary_followed`, for floating point numbers.
-/

namespace RowBind.Number

open Text

variable {text left rest : List Char}

theorem sparesEnds_isDigit : SparesEnds isDigit := by
  decide

/-! ## Whole numbers -/

/-- The sign of a piece is found whatever follows the piece. -/
theorem splitSign_followed (h : EndsPiece rest) (text : List Char) :
    splitSign (text ++ rest) = ((splitSign text).1, (splitSign text).2 ++ rest) := by
  cases text with
  | nil =>
      cases rest with
      | nil => rfl
      | cons c others =>
          have hminus : c ≠ '-' := h.head_ne (by decide)
          have hplus : c ≠ '+' := h.head_ne (by decide)
          simp [splitSign, hminus, hplus]
  | cons c text =>
      by_cases hminus : c = '-'
      · simp [splitSign, hminus]
      · by_cases hplus : c = '+' <;> simp [splitSign, hminus, hplus]

theorem splitSign_suffix (text : List Char) : (splitSign text).2 <:+ text :=
  ⟨_, splitSign_append text⟩

/-- **A whole number is read whatever follows it.** -/
theorem scanNumber_followed (h : EndsPiece rest) (signed : Bool) (text : List Char) :
    scanNumber signed (text ++ rest) =
      { scanNumber signed text with rest := (scanNumber signed text).rest ++ rest } := by
  cases signed with
  | false =>
      simp [scanNumber, h.takeWhile_append sparesEnds_isDigit,
        h.dropWhile_append sparesEnds_isDigit]
  | true =>
      simp [scanNumber, splitSign_followed h, h.takeWhile_append sparesEnds_isDigit,
        h.dropWhile_append sparesEnds_isDigit]

theorem scanNumber_suffix (signed : Bool) (text : List Char) :
    (scanNumber signed text).rest <:+ text :=
  ⟨_, scan_consumed_append_rest signed text⟩

/-! ## Decimals -/

/-- What comes of a decimal with the given whole part, by the text behind that: the digits
behind a point count, if there is one. -/
def decimalBehind (negative : Bool) (number : Int) : List Char → Option (Decimal × List Char)
  | [] => (Decimal.ofScaled? number 0).map (·, [])
  | c :: behind =>
    if c = '.' then
      (joinFraction? negative number (scanNumber false behind)).map
        (·, (scanNumber false behind).rest)
    else (Decimal.ofScaled? number 0).map (·, c :: behind)

/-- A decimal is read in two parts. -/
theorem readDecimal_eq (text : List Char) :
    readDecimal text =
      if (scanNumber true text).consumed.isEmpty then none
      else (scanNumber true text).number.bind fun number =>
        decimalBehind (text.head? == some '-') number (scanNumber true text).rest := by
  by_cases hnone : (scanNumber true text).consumed.isEmpty = true
  · simp [readDecimal, hnone]
  · cases hnumber : (scanNumber true text).number with
    | none => simp [readDecimal, hnone, hnumber]
    | some number =>
        cases hrest : (scanNumber true text).rest with
        | nil => simp [readDecimal, hnone, hnumber, hrest, decimalBehind]
        | cons c behind =>
            by_cases hpoint : c = '.'
            · subst hpoint
              cases hjoin : joinFraction? (text.head? == some '-') number
                  (scanNumber false behind) <;>
                simp [readDecimal, hnone, hnumber, hrest, hjoin, decimalBehind]
            · simp [readDecimal, hnone, hnumber, hrest, hpoint, decimalBehind]

/-- What stands behind a fraction makes no difference to it. -/
theorem joinFraction?_rest (negative : Bool) (whole : Int) (fraction : Scan)
    (rest : List Char) :
    joinFraction? negative whole { fraction with rest } = joinFraction? negative whole fraction :=
  rfl

theorem decimalBehind_followed (h : EndsPiece rest) {negative : Bool} {number : Int}
    {decimal : Decimal} (hread : decimalBehind negative number text = some (decimal, left)) :
    decimalBehind negative number (text ++ rest) = some (decimal, left ++ rest) := by
  cases text with
  | nil =>
      obtain ⟨found, hfound, heq⟩ := Option.map_eq_some_iff.mp hread
      cases heq
      cases rest with
      | nil => simp [decimalBehind, hfound]
      | cons c others =>
          have hpoint : c ≠ '.' := h.head_ne (by decide)
          simp [decimalBehind, hfound, hpoint]
  | cons c behind =>
      rw [decimalBehind] at hread
      split at hread
      · next hpoint =>
        obtain ⟨found, hfound, heq⟩ := Option.map_eq_some_iff.mp hread
        cases heq
        simp [decimalBehind, hpoint, scanNumber_followed h, joinFraction?_rest, hfound]
      · next hpoint =>
        obtain ⟨found, hfound, heq⟩ := Option.map_eq_some_iff.mp hread
        cases heq
        simp [decimalBehind, hfound, hpoint]

theorem decimalBehind_suffix {negative : Bool} {number : Int} {decimal : Decimal}
    (hread : decimalBehind negative number text = some (decimal, left)) : left <:+ text := by
  cases text with
  | nil =>
      obtain ⟨found, -, heq⟩ := Option.map_eq_some_iff.mp hread
      cases heq
      exact List.suffix_refl _
  | cons c behind =>
      rw [decimalBehind] at hread
      split at hread
      · obtain ⟨found, -, heq⟩ := Option.map_eq_some_iff.mp hread
        cases heq
        exact (scanNumber_suffix false behind).trans (List.suffix_cons c behind)
      · obtain ⟨found, -, heq⟩ := Option.map_eq_some_iff.mp hread
        cases heq
        exact List.suffix_refl _

/-- A decimal that is read has a whole part, and something behind it. -/
theorem readDecimal_eq_some_iff {decimal : Decimal} :
    readDecimal text = some (decimal, left) ↔
      (scanNumber true text).consumed ≠ [] ∧ ∃ number, (scanNumber true text).number = some number ∧
        decimalBehind (text.head? == some '-') number (scanNumber true text).rest =
          some (decimal, left) := by
  rw [readDecimal_eq]
  by_cases hnone : (scanNumber true text).consumed = []
  · simp [hnone]
  · simp [hnone, Option.bind_eq_some_iff]

/-- **A decimal is read whatever follows it.** -/
theorem readDecimal_followed (h : EndsPiece rest) {decimal : Decimal}
    (hread : readDecimal text = some (decimal, left)) :
    readDecimal (text ++ rest) = some (decimal, left ++ rest) := by
  obtain ⟨hconsumed, number, hnumber, hbehind⟩ := readDecimal_eq_some_iff.mp hread
  have hhead : (text ++ rest).head? = text.head? := by
    cases text with
    | nil => exact absurd rfl hconsumed
    | cons c text => rfl
  rw [readDecimal_eq_some_iff, scanNumber_followed h, hhead]
  exact ⟨hconsumed, number, hnumber, decimalBehind_followed h hbehind⟩

theorem readDecimal_suffix {decimal : Decimal}
    (hread : readDecimal text = some (decimal, left)) : left <:+ text := by
  obtain ⟨-, number, -, hbehind⟩ := readDecimal_eq_some_iff.mp hread
  exact (decimalBehind_suffix hbehind).trans (scanNumber_suffix true text)

/-! ## Floating point numbers -/

/-- The word has letters only, none of which ends a piece. -/
def IsWord (word : List Char) : Prop :=
  ∀ w ∈ word, SparesEnds (·.toLower == w)

instance (word : List Char) : Decidable (IsWord word) :=
  List.decidableBAll (fun w => SparesEnds (·.toLower == w)) word

/-- A word is found in a piece, or not, whatever follows the piece. -/
theorem dropWord_followed (h : EndsPiece rest) {word : List Char} (hword : IsWord word)
    (text : List Char) : dropWord word (text ++ rest) = (dropWord word text).map (· ++ rest) := by
  induction word generalizing text with
  | nil => rfl
  | cons w word ih =>
      have hrest : IsWord word := fun v hv => hword v (List.mem_cons_of_mem w hv)
      cases text with
      | nil =>
          cases rest with
          | nil => rfl
          | cons c others =>
              have hne : (c.toLower == w) = false := h.head_eq_false (hword w List.mem_cons_self)
              have hne' : c.toLower ≠ w := by simpa using hne
              simp [dropWord, hne']
      | cons c text => by_cases hc : c.toLower = w <;> simp [dropWord, hc, ih hrest]

theorem dropWord_suffix {word : List Char} (h : dropWord word text = some left) :
    left <:+ text := by
  induction word generalizing text with
  | nil =>
      cases h
      exact List.suffix_refl _
  | cons w word ih =>
      cases text with
      | nil => cases h
      | cons c text =>
          rw [dropWord] at h
          split at h
          · exact (ih h).trans (List.suffix_cons c text)
          · cases h

/-- The words for what is not finite. -/
theorem isWord_special :
    IsWord "infinity".toList ∧ IsWord "inf".toList ∧ IsWord "nan".toList := by
  decide

theorem readSpecial_followed (h : EndsPiece rest) (p : Precision) (negative : Bool)
    (text : List Char) :
    readSpecial p negative (text ++ rest) =
      (readSpecial p negative text).map (followedBy rest) := by
  obtain ⟨hinfinity, hinf, hnan⟩ := isWord_special
  simp only [readSpecial, dropWord_followed h hinfinity, dropWord_followed h hinf,
    dropWord_followed h hnan]
  cases dropWord "infinity".toList text with
  | some left => rfl
  | none =>
      cases dropWord "inf".toList text with
      | some left => rfl
      | none => cases dropWord "nan".toList text <;> rfl

theorem readSpecial_suffix {p : Precision} {negative : Bool} {x : Binary p}
    (h : readSpecial p negative text = some (x, left)) : left <:+ text := by
  unfold readSpecial at h
  split at h
  · next hword =>
    cases h
    exact dropWord_suffix hword
  · split at h
    · next hword =>
      cases h
      exact dropWord_suffix hword
    · obtain ⟨found, hword, heq⟩ := Option.map_eq_some_iff.mp h
      cases heq
      exact dropWord_suffix hword

/-- The digits around a point are found whatever follows them. -/
theorem splitPoint_followed (h : EndsPiece rest) (text : List Char) :
    splitPoint (text ++ rest) =
      ((splitPoint text).1, (splitPoint text).2.1, (splitPoint text).2.2 ++ rest) := by
  have hwhole := h.takeWhile_append sparesEnds_isDigit text
  have hbehind := h.dropWhile_append sparesEnds_isDigit text
  cases htext : text.dropWhile isDigit with
  | nil =>
      rw [htext, List.nil_append] at hbehind
      cases rest with
      | nil => simp [splitPoint, htext]
      | cons c others =>
          have hpoint : c ≠ '.' := h.head_ne (by decide)
          simp [splitPoint, htext, hwhole, hbehind, hpoint]
  | cons c behind =>
      rw [htext] at hbehind
      by_cases hpoint : c = '.'
      · simp [splitPoint, htext, hwhole, hbehind, hpoint, h.takeWhile_append sparesEnds_isDigit,
          h.dropWhile_append sparesEnds_isDigit]
      · simp [splitPoint, htext, hwhole, hbehind, hpoint]

theorem splitPoint_suffix (text : List Char) : (splitPoint text).2.2 <:+ text := by
  have hbehind := List.dropWhile_suffix isDigit (l := text)
  unfold splitPoint
  split
  · next rest hpoint =>
    rw [hpoint] at hbehind
    exact ((List.dropWhile_suffix isDigit).trans (List.suffix_cons _ _)).trans hbehind
  · exact hbehind

theorem readExponentDigits_followed (h : EndsPiece rest) (text : List Char) :
    readExponentDigits (text ++ rest) = (readExponentDigits text).map (followedBy rest) := by
  unfold readExponentDigits
  rw [h.takeWhile_append sparesEnds_isDigit, h.dropWhile_append sparesEnds_isDigit]
  cases text.takeWhile isDigit <;> rfl

theorem readExponentDigits_suffix {n : Nat} (h : readExponentDigits text = some (n, left)) :
    left <:+ text := by
  unfold readExponentDigits at h
  split at h
  · cases h
  · cases h
    exact List.dropWhile_suffix isDigit

/-- An exponent is found, or none, whatever follows the number. -/
theorem readExponent_followed (h : EndsPiece rest) (text : List Char) :
    readExponent (text ++ rest) = ((readExponent text).1, (readExponent text).2 ++ rest) := by
  cases text with
  | nil =>
      cases rest with
      | nil => rfl
      | cons c others =>
          have hsmall : c ≠ 'e' := h.head_ne (by decide)
          have hcapital : c ≠ 'E' := h.head_ne (by decide)
          simp [readExponent, hsmall, hcapital]
  | cons c text =>
      by_cases hmark : (c = 'e' || c = 'E') = true
      · simp only [readExponent, List.cons_append, hmark, if_true, splitSign_followed h,
          readExponentDigits_followed h]
        cases readExponentDigits (splitSign text).2 <;> rfl
      · simp [readExponent, hmark]

theorem readExponent_suffix (text : List Char) : (readExponent text).2 <:+ text := by
  cases text with
  | nil => exact List.suffix_refl _
  | cons c text =>
      by_cases hmark : (c = 'e' || c = 'E') = true
      · simp only [readExponent, hmark, if_true]
        cases hdigits : readExponentDigits (splitSign text).2 with
        | none => exact List.suffix_refl _
        | some found =>
            exact ((readExponentDigits_suffix hdigits).trans (splitSign_suffix text)).trans
              (List.suffix_cons c text)
      · simp [readExponent, hmark]

/-- **A floating point number is read, or none, whatever follows it.** -/
theorem readBinary_followed (h : EndsPiece rest) (p : Precision) (text : List Char) :
    readBinary p (text ++ rest) = (readBinary p text).map (followedBy rest) := by
  simp only [readBinary, splitSign_followed h, splitPoint_followed h, readSpecial_followed h,
    readExponent_followed h]
  split <;> rfl

theorem readBinary_suffix {p : Precision} {x : Binary p}
    (h : readBinary p text = some (x, left)) : left <:+ text := by
  simp only [readBinary] at h
  split at h
  · exact (readSpecial_suffix h).trans (splitSign_suffix text)
  · cases h
    exact ((readExponent_suffix _).trans (splitPoint_suffix _)).trans (splitSign_suffix text)

end RowBind.Number
