import RowBind.Calendar.Pattern
import RowBind.Proofs.Number.Pieces

/-!
# Dates and times among the pieces of a text

A field of a pattern is matched in a piece, or not, whatever follows the piece, since a comma
or a blank is no digit and no sign.  So is a fixed character, unless it is itself one that
ends a piece: the space between a date and a time may be missing at the end of a piece and
then be found behind it.

For this reason a pattern that fails on a piece may match the piece with what follows it, and
it does no harm only if another pattern comes later that matches the piece.  That one begins
with the same elements up to and including the space, and what is left of the earlier
pattern holds no such character.

Main statements: `read_followed`, how an element is matched in a piece;
`readFrom_followed_of_some`, a pattern that matches a piece matches it whatever follows; and
`readFrom_followed_of_none`, a pattern that fails in front of a later one that matches fails
whatever follows.
-/

namespace RowBind.Calendar

open RowBind.Number Text

variable {text left rest : List Char}

/-! ## Fields -/

/-- Digits are read, or not, whatever follows the piece. -/
theorem readDigits_followed (h : EndsPiece rest) (count : Nat) (text : List Char) :
    readDigits count (text ++ rest) = (readDigits count text).map (followedBy rest) := by
  by_cases hlong : count ≤ text.length
  · simp only [readDigits, List.take_append_of_le_length hlong,
      List.drop_append_of_le_length hlong]
    split <;> rfl
  · have hshort : (text.take count).length ≠ count := by
      rw [List.length_take]
      omega
    have hfew : ¬ (((text ++ rest).take count).length = count ∧
        ((text ++ rest).take count).all isDigit) := by
      rintro ⟨hlength, hall⟩
      obtain rfl | ⟨c, others, rfl, -⟩ := id h
      · exact hshort (by simpa using hlength)
      · have hmem : c ∈ (text ++ c :: others).take count := by
          obtain ⟨more, hmore⟩ : ∃ more, count = text.length + (more + 1) :=
            ⟨count - text.length - 1, by omega⟩
          rw [hmore, List.take_length_add_append]
          simp
        have hdigit := List.all_eq_true.mp hall c hmem
        rw [h.head_eq_false sparesEnds_isDigit] at hdigit
        cases hdigit
    simp only [readDigits, if_neg hfew, hshort, false_and, if_false, Option.map_none]

theorem readField_followed (h : EndsPiece rest) (count least greatest : Nat)
    (text : List Char) :
    readField count least greatest (text ++ rest) =
      (readField count least greatest text).map (followedBy rest) := by
  simp only [readField, readDigits_followed h]
  cases readDigits count text with
  | none => rfl
  | some found =>
      obtain ⟨n, left⟩ := found
      simp only [Option.map_some, followedBy]
      split <;> rfl

theorem readYear_followed (h : EndsPiece rest) (text : List Char) :
    readYear (text ++ rest) = (readYear text).map (followedBy rest) := by
  simp only [readYear, splitSign_followed h, readDigits_followed h, Option.map_map]
  rfl

theorem readOffsetHour_followed (h : EndsPiece rest) (text : List Char) :
    readOffsetHour (text ++ rest) = (readOffsetHour text).map (followedBy rest) := by
  simp only [readOffsetHour, splitSign_followed h]
  cases hsign : splitSign text with
  | mk sign body =>
      cases sign with
      | none => rfl
      | some sign =>
          simp only [readField_followed h, Option.map_map]
          rfl

/-- The digits of a fraction are found, or none, whatever follows the piece. -/
theorem fractionDigits_followed (h : EndsPiece rest) (text : List Char) :
    ((text ++ rest).take 32).takeWhile isDigit = (text.take 32).takeWhile isDigit := by
  rw [List.take_append]
  exact (h.take _).takeWhile_append sparesEnds_isDigit _

theorem fractionDigits_length_le (text : List Char) :
    ((text.take 32).takeWhile isDigit).length ≤ text.length :=
  Nat.le_trans (List.takeWhile_prefix isDigit).length_le (List.length_take_le' 32 text)

/-! ## What is left of a text -/

theorem readDigits_suffix {count n : Nat} (h : readDigits count text = some (n, left)) :
    left <:+ text := by
  simp only [readDigits] at h
  split at h
  · cases h
    exact List.drop_suffix count text
  · cases h

theorem readField_suffix {count least greatest n : Nat}
    (h : readField count least greatest text = some (n, left)) : left <:+ text := by
  unfold readField at h
  split at h
  · next hdigits =>
    split at h
    · cases h
      exact readDigits_suffix hdigits
    · cases h
  · cases h

theorem readYear_suffix {n : Int} (h : readYear text = some (n, left)) : left <:+ text := by
  obtain ⟨found, hdigits, heq⟩ := Option.map_eq_some_iff.mp h
  cases heq
  exact (readDigits_suffix hdigits).trans (splitSign_suffix text)

theorem readOffsetHour_suffix {found : Bool × Nat} (h : readOffsetHour text = some (found, left)) :
    left <:+ text := by
  have hsign := splitSign_suffix text
  unfold readOffsetHour at h
  split at h
  · next sign body heq =>
    rw [heq] at hsign
    obtain ⟨hour, hfield, hhour⟩ := Option.map_eq_some_iff.mp h
    cases hhour
    exact (readField_suffix hfield).trans hsign
  · cases h

/-! ## Elements -/

namespace PatternItem

/-- The element is not a character that ends a piece. -/
def isFirm : PatternItem → Bool
  | literal c => !isPieceEnd c
  | _ => true

/-- **How an element is matched in a piece.**  It matches or fails whatever follows the
piece; a character that ends a piece may be found behind one, but where it is found in the
piece it is found again. -/
theorem read_followed (h : EndsPiece rest) (item : PatternItem) (fields : Fields)
    (text : List Char) (hfirm : item.isFirm = true ∨ (item.read fields text).isSome = true) :
    item.read fields (text ++ rest) = (item.read fields text).map (followedBy rest) := by
  cases item with
  | year =>
      simp only [read, readYear_followed h, Option.map_map]
      rfl
  | month | day | hour | minute | second | offsetMinute =>
      simp only [read, readField_followed h, Option.map_map]
      rfl
  | fraction =>
      have hlength := fractionDigits_length_le text
      simp only [read, fractionDigits_followed h]
      cases hdigits : (text.take 32).takeWhile isDigit with
      | nil => rfl
      | cons c digits =>
          rw [hdigits] at hlength
          simp only [Option.map_some, followedBy, List.drop_append_of_le_length hlength]
  | offsetHour =>
      simp only [read, readOffsetHour_followed h, Option.map_map]
      rfl
  | literal c =>
      cases text with
      | nil =>
          have hfirm : isPieceEnd c = false := by simpa [isFirm, read] using hfirm
          cases rest with
          | nil => rfl
          | cons d others =>
              have hne : d ≠ c := h.head_ne hfirm
              simp [read, hne]
      | cons d text => by_cases hc : d = c <;> simp [read, hc, followedBy]

theorem read_suffix {item : PatternItem} {fields found : Fields}
    (h : item.read fields text = some (found, left)) : left <:+ text := by
  cases item with
  | year =>
      obtain ⟨⟨n, behind⟩, hyear, heq⟩ := Option.map_eq_some_iff.mp h
      cases heq
      exact readYear_suffix hyear
  | month | day | hour | minute | second | offsetMinute =>
      obtain ⟨⟨n, behind⟩, hfield, heq⟩ := Option.map_eq_some_iff.mp h
      cases heq
      exact readField_suffix hfield
  | offsetHour =>
      obtain ⟨⟨hour, behind⟩, hhour, heq⟩ := Option.map_eq_some_iff.mp h
      cases heq
      exact readOffsetHour_suffix hhour
  | fraction =>
      rw [read] at h
      split at h
      · cases h
      · cases h
        exact List.drop_suffix _ text
  | literal c =>
      cases text with
      | nil => cases h
      | cons d text =>
          rw [read] at h
          split at h
          · cases h
            exact List.suffix_cons d _
          · cases h

end PatternItem

/-! ## Patterns -/

namespace Pattern

/-- A pattern of firm elements matches a piece, or fails, whatever follows. -/
theorem readFrom_followed (h : EndsPiece rest) {items : List PatternItem}
    (hfirm : items.all PatternItem.isFirm = true) (fields : Fields) (text : List Char) :
    readFrom items fields (text ++ rest) = (readFrom items fields text).map (followedBy rest) := by
  induction items generalizing fields text with
  | nil => rfl
  | cons item items ih =>
      rw [List.all_cons, Bool.and_eq_true] at hfirm
      rw [readFrom, readFrom, item.read_followed h fields text (Or.inl hfirm.1)]
      cases item.read fields text with
      | none => rfl
      | some found => exact ih hfirm.2 found.1 found.2

/-- A pattern that matches a piece matches it whatever follows. -/
theorem readFrom_followed_of_some (h : EndsPiece rest) {items : List PatternItem}
    {fields found : Fields} (hread : readFrom items fields text = some (found, left)) :
    readFrom items fields (text ++ rest) = some (found, left ++ rest) := by
  induction items generalizing fields text with
  | nil =>
      cases hread
      rfl
  | cons item items ih =>
      rw [readFrom] at hread ⊢
      cases hitem : item.read fields text with
      | none => simp [hitem] at hread
      | some first =>
          rw [hitem] at hread
          rw [item.read_followed h fields text (Or.inr (by rw [hitem]; rfl)), hitem]
          exact ih hread

theorem readFrom_suffix {items : List PatternItem} {fields found : Fields}
    (hread : readFrom items fields text = some (found, left)) : left <:+ text := by
  induction items generalizing fields text with
  | nil =>
      cases hread
      exact List.suffix_refl _
  | cons item items ih =>
      rw [readFrom] at hread
      split at hread
      · next hitem => exact (ih hread).trans (PatternItem.read_suffix hitem)
      · cases hread

/-- What is left of the first pattern behind the elements with which both begin. -/
def behindCommon : (first second : List PatternItem) → List PatternItem
  | item :: first, other :: second =>
    if item = other then behindCommon first second else item :: first
  | first, _ => first

/-- **A pattern that fails in front of a later one that matches fails whatever follows**, if
what it does not share with the later one is firm. -/
theorem readFrom_followed_of_none (h : EndsPiece rest) {first second : List PatternItem}
    (hfirm : (behindCommon first second).all PatternItem.isFirm = true) {fields : Fields}
    (hfirst : readFrom first fields text = none)
    (hsecond : (readFrom second fields text).isSome = true) :
    readFrom first fields (text ++ rest) = none := by
  fun_induction behindCommon first second generalizing fields text with
  | case1 first item second ih =>
      rw [readFrom] at hfirst hsecond ⊢
      cases hitem : item.read fields text with
      | none => simp [hitem] at hsecond
      | some found =>
          rw [hitem] at hfirst hsecond
          rw [item.read_followed h fields text (Or.inr (by rw [hitem]; rfl)), hitem]
          exact ih hfirm hfirst hsecond
  | case2 item first other second hne =>
      rw [readFrom_followed h hfirm, hfirst]
      rfl
  | case3 first second hnot =>
      rw [readFrom_followed h hfirm, hfirst]
      rfl

/-- No pattern of the list stands in the way of a later one: what a pattern does not share
with those behind it is firm. -/
def KeepApart (patterns : List Pattern) : Prop :=
  patterns.Pairwise fun first second =>
    (behindCommon first second).all PatternItem.isFirm = true

instance (patterns : List Pattern) : Decidable (KeepApart patterns) :=
  List.instDecidablePairwise patterns

theorem keepApart_datePatterns : KeepApart datePatterns := by
  decide

theorem keepApart_timePatterns : KeepApart timePatterns := by
  decide

theorem keepApart_timestampPatterns : KeepApart timestampPatterns := by
  decide

theorem keepApart_zonedPatterns : KeepApart zonedPatterns := by
  decide

end Pattern

end RowBind.Calendar
