import RowBind.Proofs.Number.Pieces

/-!
# Numerals

A number is written by a sign, or none, and a run of digits.  The text of a numeral and the
number that it writes are two views of it: a scanner that meets the text finds the number, as
long as what follows does not start with a digit.  The other way around, whatever a scanner
takes from a text is a sign, or none, and a run of digits; but the run may be empty.

Main statements: `scanNumber_text`, a scanner finds what is written;
`exists_signedRun_of_scan`, and it takes nothing else; `natOfDigits_lt`, a run of digits writes
a number below the power of ten with as many zeros; and `Numeral.ofInt_number`, the text of
an integer writes that integer.
-/

namespace RowBind.Number

attribute [local instance (high)] instPowNat

variable {rest : List Char}

/-! ## Runs of digits -/

theorem isDigit_eq (c : Char) : isDigit c = c.isDigit := by
  simp only [isDigit, Char.isDigit, Bool.and_comm]
  rfl

/-- The text does not start with a digit. -/
def EndsDigits (text : List Char) : Prop :=
  ∀ c ∈ text.head?, isDigit c = false

instance (text : List Char) : Decidable (EndsDigits text) :=
  decidable_of_iff (text.head?.all (!isDigit ·) = true) (by
    simp [EndsDigits, Option.all_eq_true])

theorem endsDigits_nil : EndsDigits [] := by
  simp [EndsDigits]

theorem endsDigits_cons {c : Char} (h : isDigit c = false) (rest : List Char) :
    EndsDigits (c :: rest) := by
  simpa [EndsDigits] using h

/-- What is left behind a run of digits does not start with another one. -/
theorem endsDigits_dropWhile (text : List Char) : EndsDigits (text.dropWhile isDigit) := by
  intro c hc
  have hhead := List.head?_dropWhile_not isDigit text
  rw [Option.mem_def.mp hc] at hhead
  simpa using hhead

theorem digitValue_lt {c : Char} (h : isDigit c = true) : digitValue c < 10 := by
  simp only [isDigit, Bool.and_eq_true, decide_eq_true_eq, Char.le_def, UInt32.le_iff_toNat_le]
    at h
  have hzero : '0'.val.toNat = 48 := rfl
  have hnine : '9'.val.toNat = 57 := rfl
  simp only [digitValue, Char.toNat]
  omega

/-- Digits write a number below the power of ten with as many zeros. -/
theorem natOfDigits_lt {digits : List Char} (h : ∀ c ∈ digits, isDigit c = true) :
    natOfDigits digits < 10 ^ digits.length := by
  induction digits with
  | nil => decide
  | cons c digits ih =>
      have hhead : digitValue c < 10 := digitValue_lt (h c List.mem_cons_self)
      have htail := ih fun d hd => h d (List.mem_cons_of_mem c hd)
      have hsplit : natOfDigits (c :: digits) =
          digitValue c * 10 ^ digits.length + natOfDigits digits := by
        simpa [natOfDigits] using natOfDigits_append [c] digits
      have hle : digitValue c * 10 ^ digits.length ≤ 9 * 10 ^ digits.length :=
        Nat.mul_le_mul_right _ (by omega)
      rw [hsplit, List.length_cons, Nat.pow_succ]
      omega

/-- The digits in which a number is printed write it. -/
theorem natOfDigits_toDigits (n : Nat) : natOfDigits (Nat.toDigits 10 n) = n :=
  Nat.ofDigitChars_eq_foldl.symm.trans Nat.ofDigitChars_ten_toDigits

theorem natOfDigits_zeros (count : Nat) : natOfDigits (List.replicate count '0') = 0 := by
  have hzeros : Nat.ofDigitChars 10 (List.replicate count '0') 0 = 10 ^ count * 0 :=
    Nat.ofDigitChars_replicate_zero
  rwa [Nat.ofDigitChars_eq_foldl, Nat.mul_zero] at hzeros

/-- A run of ASCII digits. -/
structure DigitRun where
  chars : List Char
  isDigit : ∀ c ∈ chars, isDigit c = true

namespace DigitRun

/-- The number that the digits write. -/
def number (run : DigitRun) : Nat :=
  natOfDigits run.chars

/-- The digits in which a number is printed. -/
def ofNat (n : Nat) : DigitRun where
  chars := Nat.toDigits 10 n
  isDigit c hc := by
    rw [isDigit_eq]
    exact Nat.isDigit_of_mem_toDigits (by decide) (by decide) hc

/-- The digits at the start of a text. -/
def leading (text : List Char) : DigitRun where
  chars := text.takeWhile Number.isDigit
  isDigit := List.all_eq_true.mp List.all_takeWhile

theorem takeWhile_append (run : DigitRun) (h : EndsDigits rest) :
    (run.chars ++ rest).takeWhile Number.isDigit = run.chars := by
  rw [List.takeWhile_append_of_pos run.isDigit]
  cases rest with
  | nil => simp
  | cons c rest => simp [h c rfl]

theorem dropWhile_append (run : DigitRun) (h : EndsDigits rest) :
    (run.chars ++ rest).dropWhile Number.isDigit = rest := by
  rw [List.dropWhile_append_of_pos run.isDigit]
  cases rest with
  | nil => rfl
  | cons c rest => simp [h c rfl]

end DigitRun

/-! ## Signs -/

/-- The sign in front of a number. -/
inductive Sign where
  | plus | minus
deriving DecidableEq, Repr

namespace Sign

/-- The character of a sign. -/
def char : Sign → Char
  | plus => '+'
  | minus => '-'

/-- The text of a sign that may be missing. -/
def text (sign : Option Sign) : List Char :=
  (sign.map char).toList

/-- The number with the sign in front of it. -/
def apply (sign : Option Sign) (n : Nat) : Int :=
  if sign = some minus then -n else n

theorem isDigit_char (sign : Sign) : isDigit sign.char = false := by
  cases sign <;> rfl

theorem char_eq_minus_iff (sign : Sign) : sign.char = '-' ↔ sign = minus := by
  cases sign <;> decide

theorem natAbs_apply (sign : Option Sign) (n : Nat) : (apply sign n).natAbs = n := by
  unfold apply
  split <;> omega

/-- A number is its absolute value with its sign. -/
theorem apply_natAbs (n : Int) : apply (if n < 0 then some minus else none) n.natAbs = n := by
  by_cases hneg : n < 0
  · simp only [hneg, if_true, apply]
    omega
  · simp only [hneg, if_false, apply]
    simp
    omega

end Sign

/-- The sign in front of a text is split off. -/
theorem splitSign_char (sign : Sign) (body : List Char) :
    splitSign (sign.char :: body) = (some sign.char, body) := by
  cases sign <;> rfl

/-- No sign is split off digits. -/
theorem splitSign_of_isDigit {c : Char} (h : isDigit c = true) (body : List Char) :
    splitSign (c :: body) = (none, c :: body) := by
  unfold splitSign
  split
  · next heq =>
    cases heq
    cases h
  · next heq =>
    cases heq
    cases h
  · rfl

/-- What is split off is a sign. -/
theorem exists_sign_of_splitSign (text : List Char) :
    ∃ sign : Option Sign, (splitSign text).1 = sign.map Sign.char := by
  unfold splitSign
  split
  · exact ⟨some .minus, rfl⟩
  · exact ⟨some .plus, rfl⟩
  · exact ⟨none, rfl⟩

/-! ## What a scanner takes -/

/-- A sign, or none, and a run of digits, or none. -/
structure SignedRun where
  sign : Option Sign
  digits : DigitRun

namespace SignedRun

/-- The sign and the digits. -/
def text (run : SignedRun) : List Char :=
  Sign.text run.sign ++ run.digits.chars

/-- The number that is written; without digits it is zero. -/
def number (run : SignedRun) : Int :=
  Sign.apply run.sign run.digits.number

/-- Where signs are not read, there is none. -/
def Suits (run : SignedRun) (signed : Bool) : Prop :=
  signed = true ∨ run.sign = none

instance (run : SignedRun) (signed : Bool) : Decidable (run.Suits signed) :=
  inferInstanceAs (Decidable (_ ∨ _))

theorem text_ne_nil_of_digits {run : SignedRun} (h : run.digits.chars ≠ []) : run.text ≠ [] := by
  intro hnil
  exact h (List.append_eq_nil_iff.mp hnil).2

/-- The text starts with its sign, or else with a digit. -/
theorem exists_text_eq_cons {run : SignedRun} (h : run.text ≠ []) :
    ∃ c others, run.text = c :: others ∧
      ((∃ sign, run.sign = some sign ∧ c = sign.char) ∨
        (run.sign = none ∧ isDigit c = true)) := by
  obtain ⟨sign, digits⟩ := run
  cases sign with
  | some sign => exact ⟨sign.char, digits.chars, rfl, .inl ⟨sign, rfl, rfl⟩⟩
  | none =>
      cases hchars : digits.chars with
      | nil => exact absurd hchars h
      | cons c others =>
          have hdigit : isDigit c = true := digits.isDigit c (hchars ▸ List.mem_cons_self)
          exact ⟨c, others, hchars, .inr ⟨rfl, hdigit⟩⟩

/-- Its sign is split off. -/
theorem splitSign_text {run : SignedRun} (h : run.text ≠ []) (rest : List Char) :
    splitSign (run.text ++ rest) = (run.sign.map Sign.char, run.digits.chars ++ rest) := by
  obtain ⟨sign, digits⟩ := run
  obtain ⟨c, others, htext, ⟨found, hsign, rfl⟩ | ⟨hsign, hdigit⟩⟩ := exists_text_eq_cons h
  · cases hsign
    exact splitSign_char found (digits.chars ++ rest)
  · cases hsign
    have hchars : digits.chars = c :: others := htext
    simp [text, Sign.text, hchars, splitSign_of_isDigit hdigit]

/-- The number is negative, or a zero with a minus, exactly if the text starts with a minus. -/
theorem head?_text_append {run : SignedRun} (h : run.text ≠ []) (rest : List Char) :
    ((run.text ++ rest).head? == some '-') = (run.sign == some .minus) := by
  obtain ⟨c, others, htext, ⟨sign, hsign, rfl⟩ | ⟨hsign, hdigit⟩⟩ := exists_text_eq_cons h
  · rw [htext, hsign]
    cases sign <;> rfl
  · have hminus : c ≠ '-' := by
      rintro rfl
      cases hdigit
    simp [htext, hsign, hminus]

end SignedRun

/-- **What is written is scanned**, whatever follows that does not start with a digit.  A text
without sign and digits would be scanned with what follows if signs are read. -/
theorem scanNumber_text (run : SignedRun) (signed : Bool) (hsuits : run.Suits signed)
    (hne : signed = true → run.text ≠ []) (h : EndsDigits rest) :
    scanNumber signed (run.text ++ rest) =
      { number := (Integer.ofInt? (wideKind signed) run.number).map (·.val)
        consumed := run.text
        rest := rest } := by
  obtain ⟨sign, digits⟩ := run
  cases signed with
  | false =>
      obtain hsigned | rfl := hsuits
      · cases hsigned
      · simp [scanNumber, SignedRun.text, SignedRun.number, Sign.text, Sign.apply,
          digits.takeWhile_append h, digits.dropWhile_append h, DigitRun.number]
  | true =>
      have hsplit : splitSign (Sign.text sign ++ digits.chars ++ rest) =
          (sign.map Sign.char, digits.chars ++ rest) := SignedRun.splitSign_text (hne rfl) rest
      have hminus : sign.map Sign.char = some '-' ↔ sign = some .minus := by
        cases sign <;> simp [Sign.char_eq_minus_iff]
      simp only [scanNumber, SignedRun.text, SignedRun.number, if_true, hsplit, hminus,
        digits.takeWhile_append h, digits.dropWhile_append h]
      rfl

/-- **Nothing else is scanned**: what is taken is a sign, or none, and a run of digits, and
what is left does not start with a digit. -/
theorem exists_signedRun_of_scan (signed : Bool) (text : List Char) :
    ∃ run : SignedRun, run.Suits signed ∧ (scanNumber signed text).consumed = run.text ∧
      EndsDigits (scanNumber signed text).rest := by
  cases signed with
  | false => exact ⟨⟨none, .leading text⟩, .inr rfl, rfl, endsDigits_dropWhile text⟩
  | true =>
      obtain ⟨sign, hsign⟩ := exists_sign_of_splitSign text
      refine ⟨⟨sign, .leading (splitSign text).2⟩, .inl rfl, ?_, endsDigits_dropWhile _⟩
      simp [scanNumber, hsign, SignedRun.text, Sign.text, DigitRun.leading]

/-- A whole number as it is written: a sign, or none, and a digit at least. -/
structure Numeral extends SignedRun where
  ne_nil : digits.chars ≠ []

namespace Numeral

theorem text_ne_nil (n : Numeral) : n.text ≠ [] :=
  SignedRun.text_ne_nil_of_digits n.ne_nil

/-- The numeral in which an integer is printed. -/
def ofInt (n : Int) : Numeral where
  sign := if n < 0 then some .minus else none
  digits := .ofNat n.natAbs
  ne_nil := Nat.toDigits_ne_nil

/-- The text of an integer writes that integer. -/
theorem ofInt_number (n : Int) : (ofInt n).number = n := by
  have hdigits : (DigitRun.ofNat n.natAbs).number = n.natAbs := natOfDigits_toDigits n.natAbs
  rw [SignedRun.number, ofInt, hdigits, Sign.apply_natAbs]

theorem ofInt_text (n : Int) : (ofInt n).text = (toString n).toList := by
  rw [Int.toString_eq_repr, Int.repr_eq_if]
  by_cases hneg : n < 0
  · have hle : ¬ 0 ≤ n := by omega
    have habs : n.natAbs = (-n).toNat := by omega
    simp [SignedRun.text, ofInt, DigitRun.ofNat, hneg, hle, habs, Sign.text, Sign.char]
  · have hle : 0 ≤ n := by omega
    have habs : n.natAbs = n.toNat := by omega
    simp [SignedRun.text, ofInt, DigitRun.ofNat, hneg, hle, habs, Sign.text]

end Numeral

end RowBind.Number
