import RowBind.Proofs.Number.Numeral

/-!
# Decimals as they are written

A decimal is written by a whole number and, maybe, a point with digits behind it.  The digits
of both parts make up the coefficient, and those behind the point are counted by the scale.
Reading gathers the coefficient step by step, and each step has a limit of its own: the whole
part, the digits behind the point, the power of ten, the product and the sum.  None of these
limits decides anything.  Where a step fails, the coefficient or the scale is out of bounds
anyway; and where one would go around, another one fails.

Main statements: `joinFraction?_eq_some_iff`, for the two parts; `readDecimal_text`, a decimal
is read from its text exactly if coefficient and scale are within the limits of decimals;
`exists_pointedRun_of_readDecimal`, nothing else is read; and
`DecimalNumeral.ofDecimal_text` with `DecimalNumeral.ofDecimal_coefficient`, the text of a
decimal writes that decimal.
-/

namespace RowBind.Number

attribute [local instance (high)] instPowNat

variable {rest left : List Char} {d : Decimal}

/-! ## The two parts -/

theorem wideKind_holds_iff (n : Int) :
    (wideKind true).Holds n ↔ -(2 ^ (127 : Nat)) ≤ n ∧ n ≤ 2 ^ (127 : Nat) - 1 :=
  Iff.rfl

/-- A number of at most 96 bits is in the wide range. -/
theorem wideKind_holds_of_natAbs_lt {n : Int} (h : n.natAbs < mantissaLimit) :
    (wideKind true).Holds n := by
  rw [wideKind_holds_iff]
  simp only [mantissaLimit] at h
  omega

/-- The number of the digits of both parts, with a sign in front. -/
theorem Sign.apply_append (sign : Option Sign) (digits more : List Char) :
    Sign.apply sign (natOfDigits (digits ++ more)) =
      Sign.apply sign (natOfDigits digits) * 10 ^ more.length +
        if sign == some .minus then -(natOfDigits more : Int) else natOfDigits more := by
  rw [natOfDigits_append]
  by_cases hminus : sign = some .minus
  · simp only [Sign.apply, hminus, if_true, beq_self_eq_true, Int.natCast_add, Int.natCast_mul,
      Int.natCast_pow, Int.neg_add, Int.neg_mul]
    rfl
  · simp [Sign.apply, hminus]

/-- Digits that are fewer than the zeros of a power of ten in the range stay as they are. -/
theorem DigitRun.bmod_number (run : DigitRun)
    (hpower : (wideKind true).Holds (10 ^ run.chars.length)) :
    (run.number : Int).bmod (2 ^ (128 : Nat)) = run.number := by
  have hlt : (run.number : Int) < 10 ^ run.chars.length := by
    exact_mod_cast natOfDigits_lt run.isDigit
  rw [wideKind_holds_iff] at hpower
  exact Int.bmod_eq_of_le (by omega) (by omega)

/-- What is gathered is what is written, if the digits of the fraction can be counted: where
the power of ten is in range, they did not go around when they were taken for a number with a
sign. -/
theorem ofScaled?_of_joinFraction? {sign : Option Sign} {digits run : DigitRun}
    (hplaces : run.chars.length < 2 ^ (32 : Nat))
    (h : joinFraction? (sign == some .minus) (Sign.apply sign digits.number)
      { number := (Integer.ofInt? (wideKind false) run.number).map (·.val)
        consumed := run.chars
        rest := rest } = some d) :
    Decimal.ofScaled? (Sign.apply sign (natOfDigits (digits.chars ++ run.chars)))
      run.chars.length = some d := by
  simp only [joinFraction?, Nat.mod_eq_of_lt hplaces, Option.bind_eq_bind,
    Option.bind_eq_some_iff, Option.map_eq_some_iff, Integer.ofInt?_eq_some_iff] at h
  obtain ⟨number, ⟨wide, hwide, rfl⟩, power, hpower, product, hproduct, sum, hsum, hd⟩ := h
  have hstays : wide.val.bmod (2 ^ (128 : Nat)) = run.number := by
    rw [hwide]
    exact run.bmod_number (hpower ▸ power.holds)
  rw [Sign.apply_append, ← hpower]
  rw [hsum, hproduct, hstays] at hd
  exact hd

/-- What is written is gathered: the limits of decimals are the narrowest of all. -/
theorem joinFraction?_of_ofScaled? {sign : Option Sign} {digits run : DigitRun}
    (h : Decimal.ofScaled? (Sign.apply sign (natOfDigits (digits.chars ++ run.chars)))
      run.chars.length = some d) :
    joinFraction? (sign == some .minus) (Sign.apply sign digits.number)
      { number := (Integer.ofInt? (wideKind false) run.number).map (·.val)
        consumed := run.chars
        rest := rest } = some d := by
  obtain ⟨hcoefficient, hscale⟩ := Decimal.ofScaled?_eq_some h
  have hplaces : run.chars.length ≤ 28 := hscale ▸ d.scale_le
  have hcounted : run.chars.length % 2 ^ (32 : Nat) = run.chars.length :=
    Nat.mod_eq_of_lt (by omega)
  have hwritten : (Sign.apply sign (natOfDigits (digits.chars ++ run.chars))).natAbs <
      mantissaLimit := by
    rw [← hcoefficient, Decimal.natAbs_coefficient]
    exact d.mantissa_lt
  have hlimit : natOfDigits digits.chars * 10 ^ run.chars.length + run.number < mantissaLimit := by
    rwa [Sign.natAbs_apply, natOfDigits_append] at hwritten
  have hpower : (wideKind true).Holds (10 ^ run.chars.length) := by
    have hle : (10 : Nat) ^ run.chars.length ≤ 10 ^ (28 : Nat) :=
      Nat.pow_le_pow_right (by decide) hplaces
    refine wideKind_holds_of_natAbs_lt ?_
    rw [Int.natAbs_pow]
    exact Nat.lt_of_le_of_lt hle (by decide)
  have hnumber : (wideKind false).Holds run.number := by
    have hwide : run.number < 2 ^ (128 : Nat) :=
      Nat.lt_of_le_of_lt (Nat.le_add_left _ _) (Nat.lt_trans hlimit (by decide))
    exact ⟨Int.natCast_nonneg _, Int.le_sub_one_of_lt (by exact_mod_cast hwide)⟩
  have hproduct : (wideKind true).Holds (Sign.apply sign digits.number * 10 ^ run.chars.length) := by
    refine wideKind_holds_of_natAbs_lt ?_
    rw [Int.natAbs_mul, Sign.natAbs_apply, Int.natAbs_pow]
    exact Nat.lt_of_le_of_lt (Nat.le_add_right _ _) hlimit
  have hsum : (wideKind true).Holds (Sign.apply sign digits.number * 10 ^ run.chars.length +
      if sign == some .minus then -(run.number : Int) else run.number) := by
    have hwhole := wideKind_holds_of_natAbs_lt hwritten
    rwa [Sign.apply_append] at hwhole
  rw [Sign.apply_append] at h
  simp only [joinFraction?, hcounted, Integer.ofInt?_of_holds hnumber, Option.map_some,
    Option.bind_eq_bind, Option.bind_some, run.bmod_number hpower,
    Integer.ofInt?_of_holds hpower, Integer.ofInt?_of_holds hproduct,
    Integer.ofInt?_of_holds hsum]
  exact h

/-- **No step decides**: the two parts are joined exactly if the number of their digits is
within the limits of decimals. -/
theorem joinFraction?_eq_some_iff {sign : Option Sign} {digits run : DigitRun}
    (hplaces : run.chars.length < 2 ^ (32 : Nat)) :
    joinFraction? (sign == some .minus) (Sign.apply sign digits.number)
        { number := (Integer.ofInt? (wideKind false) run.number).map (·.val)
          consumed := run.chars
          rest := rest } = some d ↔
      Decimal.ofScaled? (Sign.apply sign (natOfDigits (digits.chars ++ run.chars)))
        run.chars.length = some d :=
  ⟨ofScaled?_of_joinFraction? hplaces, joinFraction?_of_ofScaled?⟩

/-! ## Texts of decimals -/

/-- A sign, or none, and a run of digits, or none, and maybe a point with digits behind it. -/
structure PointedRun where
  whole : SignedRun
  places : Option DigitRun

namespace PointedRun

/-- The digits behind the point. -/
def fraction (run : PointedRun) : List Char :=
  match run.places with
  | none => []
  | some digits => digits.chars

/-- The point and the digits behind it. -/
def pointed (run : PointedRun) : List Char :=
  match run.places with
  | none => []
  | some digits => '.' :: digits.chars

/-- The whole number, and what stands behind it. -/
def text (run : PointedRun) : List Char :=
  run.whole.text ++ run.pointed

/-- How many digits stand behind the point. -/
def scale (run : PointedRun) : Nat :=
  run.fraction.length

/-- The number that the digits of both parts write, with the sign in front. -/
def coefficient (run : PointedRun) : Int :=
  Sign.apply run.whole.sign (natOfDigits (run.whole.digits.chars ++ run.fraction))

/-- Coefficient and scale are within the limits of decimals. -/
def Fits (run : PointedRun) : Prop :=
  run.coefficient.natAbs < mantissaLimit ∧ run.scale ≤ 28

instance (run : PointedRun) : Decidable run.Fits :=
  inferInstanceAs (Decidable (_ ∧ _))

/-- The text does not go on with what could belong to the number: a digit, or a point if
there was none. -/
def EndsBefore (run : PointedRun) (rest : List Char) : Prop :=
  EndsDigits rest ∧ (run.places = none → rest.head? ≠ some '.')

instance (run : PointedRun) (rest : List Char) : Decidable (run.EndsBefore rest) :=
  inferInstanceAs (Decidable (_ ∧ _))

/-- The text may end behind the number. -/
theorem endsBefore_nil (run : PointedRun) : run.EndsBefore [] := by
  simp [EndsBefore, EndsDigits]

/-- The digits behind the whole part end it. -/
theorem EndsBefore.endsDigits {run : PointedRun} (h : run.EndsBefore rest) :
    EndsDigits (run.pointed ++ rest) := by
  unfold pointed
  cases run.places with
  | none => exact h.1
  | some digits => exact endsDigits_cons rfl _

/-- The whole part has no more digits than both parts. -/
theorem natAbs_whole_le (run : PointedRun) :
    run.whole.number.natAbs ≤ run.coefficient.natAbs := by
  rw [SignedRun.number, coefficient, Sign.natAbs_apply, Sign.natAbs_apply, natOfDigits_append]
  exact Nat.le_trans (Nat.le_mul_of_pos_right _ (Nat.pow_pos (by decide))) (Nat.le_add_right _ _)

end PointedRun

/-- Without a point the whole part is all. -/
theorem decimalBehind_of_no_point {negative : Bool} {number : Int}
    (h : rest.head? ≠ some '.') :
    decimalBehind negative number rest = (Decimal.ofScaled? number 0).map (·, rest) := by
  cases rest with
  | nil => rfl
  | cons c rest =>
      have hpoint : c ≠ '.' := by simpa using h
      simp [decimalBehind, hpoint]

/-- Behind a point the digits are scanned without a sign. -/
theorem decimalBehind_of_point {negative : Bool} {number : Int} (digits : DigitRun)
    (h : EndsDigits rest) :
    decimalBehind negative number ('.' :: digits.chars ++ rest) =
      (joinFraction? negative number
        { number := (Integer.ofInt? (wideKind false) digits.number).map (·.val)
          consumed := digits.chars
          rest := rest }).map (·, rest) := by
  have hscan := scanNumber_text ⟨none, digits⟩ false (.inr rfl) nofun h
  have hbehind : scanNumber false (digits.chars ++ rest) =
      { number := (Integer.ofInt? (wideKind false) digits.number).map (·.val)
        consumed := digits.chars
        rest := rest } := hscan
  rw [List.cons_append, decimalBehind, if_pos rfl, hbehind]

/-- What stands behind the whole part is read. -/
theorem decimalBehind_pointed {run : PointedRun} (hplaces : run.scale < 2 ^ (32 : Nat))
    (hrest : run.EndsBefore rest) :
    decimalBehind (run.whole.sign == some .minus) run.whole.number (run.pointed ++ rest) =
      (Decimal.ofScaled? run.coefficient run.scale).map (·, rest) := by
  obtain ⟨whole, places⟩ := run
  cases places with
  | none =>
      have hpoint : rest.head? ≠ some '.' := hrest.2 rfl
      simp [PointedRun.pointed, PointedRun.coefficient, PointedRun.scale, PointedRun.fraction,
        decimalBehind_of_no_point hpoint, SignedRun.number, DigitRun.number]
  | some digits =>
      refine (decimalBehind_of_point digits hrest.1).trans (congrArg _ ?_)
      exact Option.ext fun d => joinFraction?_eq_some_iff hplaces

/-- **A decimal is read from its text** exactly if its coefficient and its scale are within
the limits of decimals. -/
theorem readDecimal_text (run : PointedRun) (hne : run.whole.text ≠ [])
    (hplaces : run.scale < 2 ^ (32 : Nat)) (hrest : run.EndsBefore rest) :
    readDecimal (run.text ++ rest) =
      (Decimal.ofScaled? run.coefficient run.scale).map (·, rest) := by
  have hscan := scanNumber_text run.whole true (.inl rfl) (fun _ => hne) hrest.endsDigits
  have hconsumed : run.whole.text.isEmpty = false := by simpa using hne
  rw [readDecimal_eq, PointedRun.text, List.append_assoc, hscan,
    SignedRun.head?_text_append hne]
  simp only [hconsumed, Bool.false_eq_true, if_false]
  by_cases hwide : (wideKind true).Holds run.whole.number
  · rw [Integer.ofInt?_of_holds hwide]
    exact decimalBehind_pointed hplaces hrest
  · -- a whole part beyond the wide range is beyond the limits of decimals, too
    have hnone : Decimal.ofScaled? run.coefficient run.scale = none := by
      refine Decimal.ofScaled?_eq_none_iff.mpr fun hlimits => hwide ?_
      exact wideKind_holds_of_natAbs_lt (Nat.lt_of_le_of_lt run.natAbs_whole_le hlimits.1)
    rw [Integer.ofInt?_eq_none_iff.mpr hwide, hnone]
    rfl

/-- What is taken behind a whole part is a point with digits, or nothing. -/
theorem exists_places_of_decimalBehind {negative : Bool} {number : Int} {text : List Char}
    (hends : EndsDigits text) (h : decimalBehind negative number text = some (d, left)) :
    ∃ places : Option DigitRun, ∀ whole : SignedRun,
      (PointedRun.mk whole places).pointed ++ left = text ∧
        (PointedRun.mk whole places).EndsBefore left := by
  cases text with
  | nil =>
      obtain ⟨found, -, heq⟩ := Option.map_eq_some_iff.mp h
      cases heq
      exact ⟨none, fun whole => ⟨rfl, PointedRun.endsBefore_nil _⟩⟩
  | cons c behind =>
      rw [decimalBehind] at h
      split at h
      · next hpoint =>
        obtain ⟨found, -, heq⟩ := Option.map_eq_some_iff.mp h
        cases heq
        obtain ⟨⟨sign, digits⟩, hsuits, hconsumed, hleft⟩ := exists_signedRun_of_scan false behind
        obtain hsigned | rfl := hsuits
        · cases hsigned
        · have hmade := scan_consumed_append_rest false behind
          rw [hconsumed] at hmade
          refine ⟨some digits, fun whole => ⟨?_, hleft, by simp⟩⟩
          rw [hpoint]
          exact congrArg ('.' :: ·) hmade
      · next hpoint =>
        obtain ⟨found, -, heq⟩ := Option.map_eq_some_iff.mp h
        cases heq
        exact ⟨none, fun whole => ⟨rfl, hends, fun _ hhead => hpoint (by simpa using hhead)⟩⟩

/-- **Nothing else is read**: what is taken is a sign, or none, and digits, or none, and maybe
a point with digits behind it. -/
theorem exists_pointedRun_of_readDecimal {text : List Char}
    (h : readDecimal text = some (d, left)) :
    ∃ run : PointedRun, run.whole.text ≠ [] ∧ run.EndsBefore left ∧ run.text ++ left = text := by
  obtain ⟨hconsumed, number, -, hbehind⟩ := readDecimal_eq_some_iff.mp h
  obtain ⟨whole, -, htaken, hends⟩ := exists_signedRun_of_scan true text
  obtain ⟨places, hplaces⟩ := exists_places_of_decimalBehind hends hbehind
  obtain ⟨hpointed, hleft⟩ := hplaces whole
  refine ⟨⟨whole, places⟩, htaken ▸ hconsumed, hleft, ?_⟩
  calc PointedRun.text ⟨whole, places⟩ ++ left
      = whole.text ++ (PointedRun.pointed ⟨whole, places⟩ ++ left) := List.append_assoc ..
    _ = (scanNumber true text).consumed ++ (scanNumber true text).rest := by
        rw [hpointed, htaken]
    _ = text := scan_consumed_append_rest true text

/-! ## How decimals are printed -/

/-- The digits of a decimal, with as many zeros in front as it takes for one of them to stand
in front of the point. -/
def DigitRun.ofDecimal (d : Decimal) : DigitRun where
  chars :=
    let digits := Nat.toDigits 10 d.mantissa
    List.replicate (d.scale + 1 - digits.length) '0' ++ digits
  isDigit c hc := by
    obtain hzero | hdigit := List.mem_append.mp hc
    · rw [List.eq_of_mem_replicate hzero]
      rfl
    · exact (DigitRun.ofNat d.mantissa).isDigit c hdigit

theorem DigitRun.ofDecimal_number (d : Decimal) : (ofDecimal d).number = d.mantissa := by
  simp only [number, ofDecimal]
  rw [natOfDigits_append, natOfDigits_zeros, natOfDigits_toDigits, Nat.zero_mul, Nat.zero_add]

theorem DigitRun.scale_lt_length_ofDecimal (d : Decimal) :
    d.scale < (ofDecimal d).chars.length := by
  simp only [ofDecimal, List.length_append, List.length_replicate]
  omega

/-- A decimal as it is written: a digit at least stands in front of the point. -/
structure DecimalNumeral extends PointedRun where
  ne_nil : whole.digits.chars ≠ []

namespace DecimalNumeral

theorem whole_text_ne_nil (n : DecimalNumeral) : n.whole.text ≠ [] :=
  SignedRun.text_ne_nil_of_digits n.ne_nil

/-- The text in which a decimal is printed. -/
def ofDecimal (d : Decimal) : DecimalNumeral :=
  let digits := DigitRun.ofDecimal d
  let point := digits.chars.length - d.scale
  { whole :=
      { sign := if d.negative then some .minus else none
        digits := ⟨digits.chars.take point, fun c hc => digits.isDigit c (List.mem_of_mem_take hc)⟩ }
    places :=
      if d.scale = 0 then none
      else some ⟨digits.chars.drop point, fun c hc => digits.isDigit c (List.mem_of_mem_drop hc)⟩
    ne_nil := by
      have hlt := DigitRun.scale_lt_length_ofDecimal d
      refine List.ne_nil_of_length_pos ?_
      simp only [digits, point, List.length_take]
      omega }

/-- A decimal is printed as it is written. -/
theorem ofDecimal_text (d : Decimal) : (ofDecimal d).text = d.text := by
  have hsign : Sign.text (if d.negative then some .minus else none) =
      if d.negative then ['-'] else [] := by
    cases d.negative <;> rfl
  by_cases hscale : d.scale = 0
  · simp [PointedRun.text, PointedRun.pointed, ofDecimal, SignedRun.text, hsign, hscale,
      DigitRun.ofDecimal, Decimal.text]
  · simp [PointedRun.text, PointedRun.pointed, ofDecimal, SignedRun.text, hsign, hscale,
      DigitRun.ofDecimal, Decimal.text]

/-- The digits behind the point are the last ones. -/
theorem ofDecimal_fraction (d : Decimal) :
    (ofDecimal d).fraction =
      (DigitRun.ofDecimal d).chars.drop ((DigitRun.ofDecimal d).chars.length - d.scale) := by
  by_cases hscale : d.scale = 0
  · simp [PointedRun.fraction, ofDecimal, hscale]
  · simp [PointedRun.fraction, ofDecimal, hscale]

theorem ofDecimal_scale (d : Decimal) : (ofDecimal d).scale = d.scale := by
  have hlt := DigitRun.scale_lt_length_ofDecimal d
  rw [PointedRun.scale, ofDecimal_fraction, List.length_drop]
  omega

theorem ofDecimal_coefficient (d : Decimal) : (ofDecimal d).coefficient = d.coefficient := by
  have hdigits : (ofDecimal d).whole.digits.chars ++ (ofDecimal d).fraction =
      (DigitRun.ofDecimal d).chars := by
    rw [ofDecimal_fraction]
    exact List.take_append_drop _ _
  have hnumber : natOfDigits (DigitRun.ofDecimal d).chars = d.mantissa :=
    DigitRun.ofDecimal_number d
  rw [PointedRun.coefficient, hdigits, hnumber]
  cases hneg : d.negative <;> simp [ofDecimal, hneg, Sign.apply, Decimal.coefficient]

theorem ofDecimal_fits (d : Decimal) : (ofDecimal d).Fits := by
  rw [PointedRun.Fits, ofDecimal_coefficient, ofDecimal_scale, Decimal.natAbs_coefficient]
  exact ⟨d.mantissa_lt, d.scale_le⟩

end DecimalNumeral

end RowBind.Number
