import RowBind.Calendar.Pattern
import RowBind.Proofs.Number.Numeral

/-!
# The texts that a pattern spells

A text is spelled by a pattern if it falls into pieces, one for each element: a number in the
width of its field and in its range, a fraction of a second, or a fixed character.  This says
nothing of a scanner, which goes through a text from the left and takes as many digits for a
fraction as it finds.

The two agree on whole texts, since no digit may stand behind a fraction.

Main statements: `PatternItem.read_eq_some_iff`, an element takes what it spells; and
`Pattern.readFrom_eq_some_nil_iff`, a pattern matches all of a text exactly if it spells it.
-/

namespace RowBind.Calendar

open RowBind.Number

variable {text taken left : List Char} {fields found : Fields}

/-! ## Numbers of a width -/

/-- The text is a number of so many digits from `least` to `greatest`. -/
def SpellsNumber (count least greatest : Nat) (taken : List Char) (n : Nat) : Prop :=
  ∃ run : DigitRun, run.chars = taken ∧ taken.length = count ∧ run.number = n ∧
    least ≤ n ∧ n ≤ greatest

theorem readDigits_eq_some_iff {count n : Nat} :
    readDigits count text = some (n, left) ↔
      ∃ run : DigitRun, text = run.chars ++ left ∧ run.chars.length = count ∧ run.number = n := by
  constructor
  · intro h
    simp only [readDigits] at h
    split at h
    · next hdigits =>
      obtain ⟨hlength, hall⟩ := hdigits
      cases h
      exact ⟨⟨text.take count, List.all_eq_true.mp hall⟩, (List.take_append_drop count text).symm,
        hlength, rfl⟩
    · cases h
  · rintro ⟨run, rfl, rfl, rfl⟩
    exact readDigits_append (List.all_eq_true.mpr run.isDigit) left

theorem readField_eq_some_iff {count least greatest n : Nat} :
    readField count least greatest text = some (n, left) ↔
      ∃ taken, text = taken ++ left ∧ SpellsNumber count least greatest taken n := by
  unfold readField
  constructor
  · intro h
    split at h
    · next number behind hdigits =>
      split at h
      · next hrange =>
        cases h
        obtain ⟨run, htext, hlength, hnumber⟩ := readDigits_eq_some_iff.mp hdigits
        exact ⟨run.chars, htext, run, rfl, hlength, hnumber, hrange⟩
      · cases h
    · cases h
  · rintro ⟨taken, rfl, run, rfl, hlength, rfl, hrange⟩
    rw [readDigits_eq_some_iff.mpr ⟨run, rfl, hlength, rfl⟩]
    exact if_pos hrange

/-- A number that is spelled has a digit at its start. -/
theorem SpellsNumber.exists_cons {count least greatest n : Nat}
    (h : SpellsNumber (count + 1) least greatest taken n) :
    ∃ c others, taken = c :: others ∧ isDigit c = true := by
  obtain ⟨run, rfl, hlength, -⟩ := h
  obtain ⟨c, others, hchars⟩ := List.exists_cons_of_length_eq_add_one hlength
  exact ⟨c, others, hchars, run.isDigit c (hchars ▸ List.mem_cons_self)⟩

/-- A number with a sign is read as what is written behind the sign, and the sign is split
off. -/
theorem readYear_eq_some_iff {year : Int} :
    readYear text = some (year, left) ↔
      ∃ (sign : Option Sign) (run : DigitRun), text = Sign.text sign ++ run.chars ++ left ∧
        run.chars.length = 4 ∧ year = Sign.apply sign run.number := by
  simp only [readYear, Option.map_eq_some_iff, Prod.exists, readDigits_eq_some_iff,
    Prod.mk.injEq]
  constructor
  · rintro ⟨n, behind, ⟨run, hbody, hlength, rfl⟩, hyear, rfl⟩
    obtain ⟨sign, hsign⟩ := exists_sign_of_splitSign text
    refine ⟨sign, run, ?_, hlength, ?_⟩
    · rw [List.append_assoc, ← hbody]
      conv => lhs; rw [← splitSign_append text]
      rw [hsign]
      rfl
    · rw [← hyear, hsign]
      cases sign with
      | none => rfl
      | some sign => cases sign <;> rfl
  · rintro ⟨sign, run, rfl, hlength, rfl⟩
    have hne : SignedRun.text ⟨sign, run⟩ ≠ [] :=
      SignedRun.text_ne_nil_of_digits (List.ne_nil_of_length_eq_add_one hlength)
    have hsplit : splitSign (Sign.text sign ++ run.chars ++ left) =
        (sign.map Sign.char, run.chars ++ left) := SignedRun.splitSign_text hne left
    rw [hsplit]
    refine ⟨run.number, left, ⟨run, rfl, hlength, rfl⟩, ?_, rfl⟩
    cases sign with
    | none => rfl
    | some sign => cases sign <;> rfl

theorem readOffsetHour_eq_some_iff {negative : Bool} {n : Nat} :
    readOffsetHour text = some ((negative, n), left) ↔
      ∃ (sign : Sign) (taken : List Char), text = sign.char :: taken ++ left ∧
        SpellsNumber 2 0 25 taken n ∧ negative = decide (sign = .minus) := by
  constructor
  · intro h
    unfold readOffsetHour at h
    split at h
    · next c body hsplit =>
      obtain ⟨sign, hsign⟩ := exists_sign_of_splitSign text
      have htext := splitSign_append text
      rw [hsplit] at hsign htext
      obtain ⟨found, rfl, rfl⟩ := Option.map_eq_some_iff.mp hsign.symm
      obtain ⟨⟨hour, behind⟩, hfield, heq⟩ := Option.map_eq_some_iff.mp h
      cases heq
      obtain ⟨taken, hbody, hspells⟩ := readField_eq_some_iff.mp hfield
      refine ⟨found, taken, ?_, hspells, ?_⟩
      · rw [← htext, hbody]
        rfl
      · cases found <;> rfl
    · cases h
  · rintro ⟨sign, taken, rfl, hspells, rfl⟩
    simp only [readOffsetHour, List.cons_append, splitSign_char,
      readField_eq_some_iff.mpr ⟨taken, rfl, hspells⟩]
    cases sign <;> rfl

/-! ## Elements -/

namespace PatternItem

/-- The text is spelled by the element; with it the fields found so far become those given. -/
inductive Spells : PatternItem → (taken : List Char) → (fields found : Fields) → Prop where
  | year {fields : Fields} (sign : Option Sign) {run : DigitRun} (hlength : run.chars.length = 4) :
      Spells year (Sign.text sign ++ run.chars) fields
        { fields with year := Sign.apply sign run.number }
  | month {taken : List Char} {fields : Fields} {n : Nat} (h : SpellsNumber 2 1 12 taken n) :
      Spells month taken fields { fields with month := n }
  | day {taken : List Char} {fields : Fields} {n : Nat} (h : SpellsNumber 2 1 31 taken n) :
      Spells day taken fields { fields with day := n }
  | hour {taken : List Char} {fields : Fields} {n : Nat} (h : SpellsNumber 2 0 23 taken n) :
      Spells hour taken fields { fields with hour := n }
  | minute {taken : List Char} {fields : Fields} {n : Nat} (h : SpellsNumber 2 0 59 taken n) :
      Spells minute taken fields { fields with minute := n }
  | second {taken : List Char} {fields : Fields} {n : Nat} (h : SpellsNumber 2 0 60 taken n) :
      Spells second taken fields { fields with second := n }
  /-- Of the digits of a fraction nine count. -/
  | fraction {fields : Fields} {run : DigitRun} (hne : run.chars ≠ [])
      (hlength : run.chars.length ≤ 32) :
      Spells fraction run.chars fields { fields with nanosecond := nanosecondsOf run.chars }
  | offsetHour {taken : List Char} {fields : Fields} {n : Nat} (sign : Sign)
      (h : SpellsNumber 2 0 25 taken n) :
      Spells offsetHour (sign.char :: taken) fields
        { fields with offsetNegative := decide (sign = .minus), offsetHour := n }
  | offsetMinute {taken : List Char} {fields : Fields} {n : Nat} (h : SpellsNumber 2 0 59 taken n) :
      Spells offsetMinute taken fields { fields with offsetMinute := n }
  | literal {fields : Fields} (c : Char) : Spells (literal c) [c] fields fields

/-- What stands behind the first digits among 32 characters is no further digit, unless all of
them are digits. -/
theorem endsDigits_drop_fraction (text : List Char) :
    ((text.take 32).takeWhile isDigit).length = 32 ∨
      EndsDigits (text.drop ((text.take 32).takeWhile isDigit).length) := by
  have hsplit : (text.take 32).takeWhile isDigit ++
      ((text.take 32).dropWhile isDigit ++ text.drop 32) = text := by
    rw [← List.append_assoc, List.takeWhile_append_dropWhile, List.take_append_drop]
  have hdrop : text.drop ((text.take 32).takeWhile isDigit).length =
      (text.take 32).dropWhile isDigit ++ text.drop 32 := by
    have hleft : ((text.take 32).takeWhile isDigit ++
        ((text.take 32).dropWhile isDigit ++ text.drop 32)).drop
          ((text.take 32).takeWhile isDigit).length =
        (text.take 32).dropWhile isDigit ++ text.drop 32 := List.drop_left
    rwa [hsplit] at hleft
  rw [hdrop]
  cases hbehind : (text.take 32).dropWhile isDigit with
  | cons c others =>
      have hends := endsDigits_dropWhile (text.take 32)
      rw [hbehind] at hends
      exact .inr hends
  | nil =>
      have hall : (text.take 32).takeWhile isDigit = text.take 32 := by
        have happend := List.takeWhile_append_dropWhile (p := isDigit) (l := text.take 32)
        rwa [hbehind, List.append_nil] at happend
      by_cases hlong : 32 ≤ text.length
      · exact .inl (by rw [hall, List.length_take_of_le hlong])
      · refine .inr ?_
        rw [List.drop_of_length_le (by omega)]
        exact endsDigits_nil

/-- The digits of a fraction are all that there are, or 32 of them. -/
theorem read_fraction_eq_some_iff :
    fraction.read fields text = some (found, left) ↔
      ∃ run : DigitRun, text = run.chars ++ left ∧ run.chars ≠ [] ∧ run.chars.length ≤ 32 ∧
        found = { fields with nanosecond := nanosecondsOf run.chars } ∧
        (run.chars.length = 32 ∨ EndsDigits left) := by
  constructor
  · intro h
    have hends := endsDigits_drop_fraction text
    have hprefix : (text.take 32).takeWhile isDigit <+: text :=
      (List.takeWhile_prefix isDigit).trans (List.take_prefix 32 text)
    rw [read] at h
    split at h
    · cases h
    · next hne =>
      cases h
      refine ⟨.leading (text.take 32), ?_, hne, ?_, rfl, hends⟩
      · exact (List.prefix_iff_eq_append.mp hprefix).symm
      · exact Nat.le_trans (List.takeWhile_prefix isDigit).length_le (List.length_take_le 32 text)
  · rintro ⟨run, rfl, hne, hlength, rfl, hends⟩
    have hdigits : ((run.chars ++ left).take 32).takeWhile isDigit = run.chars := by
      rw [List.take_append, List.take_of_length_le hlength]
      refine run.takeWhile_append ?_
      obtain hfull | hends := hends
      · rw [hfull]
        exact endsDigits_nil
      · intro c hc
        rw [List.head?_take] at hc
        split at hc
        · cases hc
        · exact hends c hc
    simp only [read, hdigits, List.drop_left]

/-- **An element takes what it spells**, a fraction all the digits there are, or 32 of them. -/
theorem read_eq_some_iff {item : PatternItem} :
    item.read fields text = some (found, left) ↔
      ∃ taken, text = taken ++ left ∧ item.Spells taken fields found ∧
        (item = fraction → taken.length = 32 ∨ EndsDigits left) := by
  cases item with
  | year =>
      simp only [read, Option.map_eq_some_iff, Prod.exists, readYear_eq_some_iff, Prod.mk.injEq]
      constructor
      · rintro ⟨n, behind, ⟨sign, run, htext, hlength, rfl⟩, rfl, rfl⟩
        exact ⟨_, htext, .year sign hlength, by simp⟩
      · rintro ⟨taken, rfl, hspells, -⟩
        cases hspells with
        | year sign hlength => exact ⟨_, left, ⟨sign, _, rfl, hlength, rfl⟩, rfl, rfl⟩
  | month | day | hour | minute | second | offsetMinute =>
      simp only [read, Option.map_eq_some_iff, Prod.exists, readField_eq_some_iff, Prod.mk.injEq]
      constructor
      · rintro ⟨n, behind, ⟨taken, htext, hspells⟩, rfl, rfl⟩
        exact ⟨taken, htext, by constructor; exact hspells, by simp⟩
      · rintro ⟨taken, rfl, hspells, -⟩
        cases hspells
        next n hnumber => exact ⟨n, left, ⟨taken, rfl, hnumber⟩, rfl, rfl⟩
  | fraction =>
      rw [read_fraction_eq_some_iff]
      constructor
      · rintro ⟨run, htext, hne, hlength, rfl, hends⟩
        exact ⟨run.chars, htext, .fraction hne hlength, fun _ => hends⟩
      · rintro ⟨taken, rfl, hspells, hends⟩
        cases hspells with
        | fraction hne hlength => exact ⟨_, rfl, hne, hlength, rfl, hends rfl⟩
  | offsetHour =>
      simp only [read, Option.map_eq_some_iff, Prod.exists, readOffsetHour_eq_some_iff,
        Prod.mk.injEq]
      constructor
      · rintro ⟨negative, n, behind, ⟨sign, taken, htext, hspells, rfl⟩, rfl, rfl⟩
        exact ⟨_, htext, .offsetHour sign hspells, by simp⟩
      · rintro ⟨taken, rfl, hspells, -⟩
        cases hspells with
        | offsetHour sign hnumber => exact ⟨_, _, left, ⟨sign, _, rfl, hnumber, rfl⟩, rfl, rfl⟩
  | literal c =>
      constructor
      · intro h
        cases text with
        | nil => cases h
        | cons d rest =>
            rw [read] at h
            split at h
            · next heq =>
              cases h
              exact ⟨[d], rfl, heq ▸ .literal d, by simp⟩
            · cases h
      · rintro ⟨taken, rfl, hspells, -⟩
        cases hspells
        exact literal_read c fields left

/-- The characters that a text can start with if the element spells it. -/
def canStart : PatternItem → Char → Bool
  | year, c => isDigit c || c == '-' || c == '+'
  | offsetHour, c => c == '-' || c == '+'
  | literal d, c => c == d
  | _, c => isDigit c

/-- No element spells the empty text. -/
theorem Spells.exists_cons {item : PatternItem} (h : item.Spells taken fields found) :
    ∃ c others, taken = c :: others ∧ item.canStart c = true := by
  cases h with
  | @year _ sign run hlength =>
      have hne : SignedRun.text ⟨sign, run⟩ ≠ [] :=
        SignedRun.text_ne_nil_of_digits (List.ne_nil_of_length_eq_add_one hlength)
      obtain ⟨c, others, htext, ⟨sign, -, rfl⟩ | ⟨-, hdigit⟩⟩ :=
        SignedRun.exists_text_eq_cons hne
      · exact ⟨sign.char, others, htext, by cases sign <;> rfl⟩
      · exact ⟨c, others, htext, by simp [canStart, hdigit]⟩
  | month h | day h | hour h | minute h | second h | offsetMinute h => exact h.exists_cons
  | @fraction _ run hne hlength =>
      obtain ⟨c, others, hchars⟩ := List.exists_cons_of_ne_nil hne
      exact ⟨c, others, hchars, run.isDigit c (hchars ▸ List.mem_cons_self)⟩
  | offsetHour sign h => exact ⟨sign.char, _, rfl, by cases sign <;> rfl⟩
  | literal c => exact ⟨c, [], rfl, beq_self_eq_true c⟩

/-- An element matches no text that cannot start with what it spells. -/
theorem exists_cons_of_read {item : PatternItem}
    (h : item.read fields text = some (found, left)) :
    ∃ c others, text = c :: others ∧ item.canStart c = true := by
  obtain ⟨taken, rfl, hspells, -⟩ := read_eq_some_iff.mp h
  obtain ⟨c, others, rfl, hstart⟩ := hspells.exists_cons
  exact ⟨c, others ++ left, rfl, hstart⟩

/-- No digit stands at the start of what the element spells. -/
def isDigitless : PatternItem → Bool
  | offsetHour => true
  | literal c => !isDigit c
  | _ => false

theorem isDigit_of_canStart {item : PatternItem} {c : Char} (h : item.isDigitless = true)
    (hstart : item.canStart c = true) : isDigit c = false := by
  cases item with
  | offsetHour =>
      simp only [canStart, Bool.or_eq_true, beq_iff_eq] at hstart
      obtain rfl | rfl := hstart <;> rfl
  | literal d =>
      rw [beq_iff_eq.mp hstart]
      simpa [isDigitless] using h
  | year | month | day | hour | minute | second | fraction | offsetMinute => cases h

end PatternItem

/-! ## Patterns -/

namespace Pattern

/-- The text falls into pieces that the elements spell one after the other; with them the
fields found so far become those given. -/
inductive Spells : Pattern → (text : List Char) → (fields found : Fields) → Prop where
  | nil {fields : Fields} : Spells [] [] fields fields
  | cons {item : PatternItem} {items : Pattern} {taken left : List Char}
      {fields between found : Fields} (head : item.Spells taken fields between)
      (tail : Spells items left between found) :
      Spells (item :: items) (taken ++ left) fields found

/-- No digit can follow a fraction. -/
def fractionsEnd : Pattern → Bool
  | .fraction :: item :: items => item.isDigitless && fractionsEnd (item :: items)
  | _ :: items => fractionsEnd items
  | [] => true

theorem fractionsEnd_tail {item : PatternItem} {items : Pattern}
    (h : fractionsEnd (item :: items) = true) : fractionsEnd items = true := by
  cases item <;> cases items <;> simp_all [fractionsEnd]

/-- What is spelled behind a fraction does not start with a digit. -/
theorem Spells.endsDigits {items : Pattern} (h : Spells items left fields found)
    (hends : fractionsEnd (.fraction :: items) = true) : EndsDigits left := by
  cases h with
  | nil => exact endsDigits_nil
  | cons head tail =>
      obtain ⟨c, others, rfl, hstart⟩ := head.exists_cons
      simp only [fractionsEnd, Bool.and_eq_true] at hends
      exact endsDigits_cons (PatternItem.isDigit_of_canStart hends.1 hstart) _

/-- **A pattern matches all of a text exactly if it spells it.** -/
theorem readFrom_eq_some_nil_iff {items : Pattern} (hends : fractionsEnd items = true) :
    readFrom items fields text = some (found, []) ↔ Spells items text fields found := by
  induction items generalizing fields text with
  | nil =>
      constructor
      · intro h
        cases h
        exact .nil
      · rintro ⟨⟩
        rfl
  | cons item items ih =>
      have hbehind := fractionsEnd_tail hends
      constructor
      · intro h
        rw [readFrom] at h
        split at h
        · next between left hitem =>
          obtain ⟨taken, rfl, hspells, -⟩ := PatternItem.read_eq_some_iff.mp hitem
          exact .cons hspells ((ih hbehind).mp h)
        · cases h
      · rintro (_ | ⟨head, tail⟩)
        next taken left between =>
        have hitem : item.read fields (taken ++ left) = some (between, left) :=
          PatternItem.read_eq_some_iff.mpr ⟨taken, rfl, head, by
            rintro rfl
            exact .inr (tail.endsDigits hends)⟩
        rw [readFrom, hitem]
        exact (ih hbehind).mpr tail

/-- A pattern matches no text that its first element cannot start. -/
theorem readFrom_eq_none {item : PatternItem} {items : Pattern} {c : Char}
    (h : item.canStart c = false) : readFrom (item :: items) fields (c :: text) = none := by
  rw [readFrom]
  cases hitem : item.read fields (c :: text) with
  | none => rfl
  | some between =>
      obtain ⟨d, others, heq, hstart⟩ := PatternItem.exists_cons_of_read hitem
      cases heq
      rw [h] at hstart
      cases hstart

/-! ## The order of patterns -/

/-- Where the first pattern parts from the second, it wants more text than there is, or a
character that the second does not have there. -/
def partsFrom : (first second : Pattern) → Bool
  | item :: first, other :: second =>
    if item = other then partsFrom first second
    else match item with
      | .literal c => !other.canStart c
      | _ => false
  | first, [] => !first.isEmpty
  | [], _ :: _ => false

/-- A pattern that parts from another one matches no start of a text that the other one
matches. -/
theorem readFrom_eq_none_of_partsFrom {first second : Pattern}
    (hparts : partsFrom first second = true)
    (hsecond : readFrom second fields text = some (found, [])) :
    readFrom first fields text = none := by
  fun_induction partsFrom first second generalizing fields text with
  | case1 first item behind ih =>
      rw [readFrom] at hsecond ⊢
      cases hitem : item.read fields text with
      | none => simp [hitem] at hsecond
      | some between =>
          rw [hitem] at hsecond
          exact ih hparts hsecond
  | case2 first other behind c hne =>
      -- The second pattern has another character here.
      rw [readFrom] at hsecond
      cases hother : other.read fields text with
      | none => simp [hother] at hsecond
      | some between =>
          obtain ⟨d, others, rfl, hstart⟩ := PatternItem.exists_cons_of_read hother
          refine readFrom_eq_none (beq_eq_false_iff_ne.mpr ?_)
          rintro rfl
          simp [hstart] at hparts
  | case3 => cases hparts
  | case4 first =>
      -- The second pattern is at the end of the text.
      cases hsecond
      cases first with
      | nil => cases hparts
      | cons item first =>
          rw [readFrom]
          cases hitem : item.read found [] with
          | none => rfl
          | some between =>
              obtain ⟨c, others, htext, -⟩ := PatternItem.exists_cons_of_read hitem
              cases htext
  | case5 => cases hparts

/-- The patterns can be tried in this order: each one parts from those behind it. -/
structure InOrder (patterns : List Pattern) : Prop where
  fractionsEnd : ∀ pattern ∈ patterns, fractionsEnd pattern = true
  partsFrom : patterns.Pairwise fun first second => partsFrom first second = true

instance (patterns : List Pattern) : Decidable (InOrder patterns) :=
  decidable_of_iff
    ((∀ pattern ∈ patterns, Pattern.fractionsEnd pattern = true) ∧
      patterns.Pairwise fun first second => Pattern.partsFrom first second = true)
    ⟨fun h => ⟨h.1, h.2⟩, fun h => ⟨h.fractionsEnd, h.partsFrom⟩⟩

theorem inOrder_datePatterns : InOrder datePatterns := by
  decide

theorem inOrder_timePatterns : InOrder timePatterns := by
  decide

theorem inOrder_timestampPatterns : InOrder timestampPatterns := by
  decide

theorem inOrder_zonedPatterns : InOrder zonedPatterns := by
  decide

end Pattern

end RowBind.Calendar
