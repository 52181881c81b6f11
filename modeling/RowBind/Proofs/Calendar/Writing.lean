import RowBind.Calendar.Written
import RowBind.Proofs.Calendar.Spelling

/-!
# A pattern spells what it writes

What a pattern writes of some fields it spells, if they are in their ranges; and it finds in
it the fields that it has elements for, of a fraction the places that are written.

A date, a time of day or a timestamp comes back from its fields, and so does a zoned timestamp
with an offset of whole minutes.

Main statements: `Pattern.spells_text`, a pattern spells what it writes; and
`Pattern.copy_clock`, the pattern of a clock finds all of a time of day that it has room for.
-/

namespace RowBind.Calendar

open RowBind.Number

attribute [local instance (high)] instPowNat

variable {places : Nat} {written : Fields}

/-! ## Padded numbers -/

/-- The digits of a padded number. -/
def paddedRun (width n : Nat) : DigitRun where
  chars := padded width n
  isDigit c hc := by
    obtain hzero | hdigit := List.mem_append.mp hc
    · rw [List.eq_of_mem_replicate hzero]
      rfl
    · exact (DigitRun.ofNat n).isDigit c hdigit

theorem paddedRun_number (width n : Nat) : (paddedRun width n).number = n := by
  simp [DigitRun.number, paddedRun, padded, natOfDigits_append, natOfDigits_zeros,
    natOfDigits_toDigits]

theorem padded_length_eq {width n : Nat} (hwidth : 0 < width) (h : n < 10 ^ width) :
    (padded width n).length = width := by
  have hdigits : (Nat.toDigits 10 n).length ≤ width :=
    (Nat.length_toDigits_le_iff (by decide) hwidth).mpr h
  simp only [padded, List.length_append, List.length_replicate]
  omega

theorem spellsNumber_padded {width least greatest n : Nat} (hwidth : 0 < width)
    (hgreatest : greatest < 10 ^ width) (hrange : least ≤ n ∧ n ≤ greatest) :
    SpellsNumber width least greatest (padded width n) n :=
  ⟨paddedRun width n, rfl, padded_length_eq hwidth (Nat.lt_of_le_of_lt hrange.2 hgreatest),
    paddedRun_number width n, hrange⟩

/-- Zeros are added behind a fraction up to nine places. -/
theorem nanosecondsOf_padded {n : Nat} (hpos : 0 < places) (hle : places ≤ 9)
    (h : n < 10 ^ places) : nanosecondsOf (padded places n) = n * 10 ^ (9 - places) := by
  have hlength := padded_length_eq hpos h
  have hnumber : natOfDigits (padded places n) = n := paddedRun_number places n
  rw [nanosecondsOf, List.take_append, List.take_of_length_le (by omega), hlength,
    List.take_replicate, natOfDigits_append, natOfDigits_zeros, hnumber, List.length_replicate,
    Nat.min_eq_left (Nat.sub_le 9 places), Nat.add_zero]

theorem placesOf_lt {nanosecond : Nat} (hle : places ≤ 9)
    (h : nanosecond < nanosecondsPerSecond) : placesOf places nanosecond < 10 ^ places := by
  rw [placesOf, Nat.div_lt_iff_lt_mul (Nat.pow_pos (by decide)), ← Nat.pow_add,
    Nat.add_sub_cancel' hle]
  exact h

/-! ## What is found of the fields that are written -/

/-- Every field is in the range that its element reads. -/
structure Fields.InRange (fields : Fields) : Prop where
  year : fields.year.natAbs ≤ 9999
  month : 1 ≤ fields.month ∧ fields.month ≤ 12
  day : 1 ≤ fields.day ∧ fields.day ≤ 31
  hour : fields.hour ≤ 23
  minute : fields.minute ≤ 59
  second : fields.second ≤ 60
  nanosecond : fields.nanosecond < nanosecondsPerSecond
  offsetHour : fields.offsetHour ≤ 25
  offsetMinute : fields.offsetMinute ≤ 59

theorem Fields.inRange_default : InRange {} := by
  constructor <;> decide

/-- The fields found so far, with what an element writes. -/
def PatternItem.copy (places : Nat) (written fields : Fields) : PatternItem → Fields
  | .year => { fields with year := written.year }
  | .month => { fields with month := written.month }
  | .day => { fields with day := written.day }
  | .hour => { fields with hour := written.hour }
  | .minute => { fields with minute := written.minute }
  | .second => { fields with second := written.second }
  | .fraction =>
    { fields with nanosecond := placesOf places written.nanosecond * 10 ^ (9 - places) }
  | .offsetHour =>
    { fields with offsetNegative := written.offsetNegative, offsetHour := written.offsetHour }
  | .offsetMinute => { fields with offsetMinute := written.offsetMinute }
  | .literal _ => fields

/-- The fields found so far, with what a pattern writes. -/
def Pattern.copy (places : Nat) (written : Fields) (pattern : Pattern) (fields : Fields) : Fields :=
  pattern.foldl (PatternItem.copy places written) fields

/-- **An element spells what it writes.** -/
theorem PatternItem.spells_text (h : written.InRange) (hpos : 0 < places) (hle : places ≤ 9)
    (item : PatternItem) (fields : Fields) :
    item.Spells (item.text places written) fields (item.copy places written fields) := by
  cases item with
  | year =>
      have hlength : (paddedRun 4 written.year.natAbs).chars.length = 4 :=
        padded_length_eq (by decide) (Nat.lt_of_le_of_lt h.year (by decide))
      have hspells : year.Spells _ fields _ :=
        .year (if written.year < 0 then some .minus else none) hlength
      have hvalue : Sign.apply (if written.year < 0 then some .minus else none)
          (paddedRun 4 written.year.natAbs).number = written.year := by
        rw [paddedRun_number, Sign.apply_natAbs]
      have hsign : Sign.text (if written.year < 0 then some .minus else none) =
          if written.year < 0 then ['-'] else [] := by
        split <;> rfl
      rwa [hvalue, hsign] at hspells
  | month => exact .month (spellsNumber_padded (by decide) (by decide) h.month)
  | day => exact .day (spellsNumber_padded (by decide) (by decide) h.day)
  | hour => exact .hour (spellsNumber_padded (by decide) (by decide) ⟨Nat.zero_le _, h.hour⟩)
  | minute => exact .minute (spellsNumber_padded (by decide) (by decide) ⟨Nat.zero_le _, h.minute⟩)
  | second => exact .second (spellsNumber_padded (by decide) (by decide) ⟨Nat.zero_le _, h.second⟩)
  | fraction =>
      have hlt := placesOf_lt hle h.nanosecond
      have hlength : (paddedRun places (placesOf places written.nanosecond)).chars.length =
          places := padded_length_eq hpos hlt
      have hne := List.ne_nil_of_length_pos (Nat.lt_of_lt_of_eq hpos hlength.symm)
      have hspells : fraction.Spells _ fields _ := .fraction hne (by omega)
      rw [copy, ← nanosecondsOf_padded hpos hle hlt]
      exact hspells
  | offsetHour =>
      have hnumber : SpellsNumber 2 0 25 (padded 2 written.offsetHour) written.offsetHour :=
        spellsNumber_padded (by decide) (by decide) ⟨Nat.zero_le _, h.offsetHour⟩
      have hspells : offsetHour.Spells _ fields _ :=
        .offsetHour (if written.offsetNegative then .minus else .plus) hnumber
      rw [text, copy]
      cases hneg : written.offsetNegative <;> rw [hneg] at hspells <;> exact hspells
  | offsetMinute =>
      exact .offsetMinute
        (spellsNumber_padded (by decide) (by decide) ⟨Nat.zero_le _, h.offsetMinute⟩)
  | literal c => exact .literal c

namespace Pattern

/-- **A pattern spells what it writes.** -/
theorem spells_text (h : written.InRange) (hpos : 0 < places) (hle : places ≤ 9)
    (pattern : Pattern) (fields : Fields) :
    pattern.Spells (pattern.text places written) fields (pattern.copy places written fields) := by
  induction pattern generalizing fields with
  | nil => exact .nil
  | cons item pattern ih => exact .cons (item.spells_text h hpos hle fields) (ih _)

theorem copy_append (first second : Pattern) (fields : Fields) :
    copy places written (first ++ second) fields =
      copy places written second (copy places written first fields) :=
  List.foldl_append

theorem HasRoom.of_mem {pattern other : Pattern} (h : pattern.HasRoom places written)
    (hsecond : .second ∈ pattern → .second ∈ other)
    (hfraction : .fraction ∈ pattern → .fraction ∈ other) : other.HasRoom places written :=
  ⟨h.second.imp_left hsecond, h.fraction.imp_left fun hdivides =>
    ⟨hfraction hdivides.1, hdivides.2⟩⟩

/-- **The pattern of a clock finds all of a time of day that it has room for.** -/
theorem copy_clock {clock : Pattern} (hclock : clock ∈ timePatterns)
    (hroom : clock.HasRoom places written) {fields : Fields} (hsecond : fields.second = 0)
    (hnanosecond : fields.nanosecond = 0) :
    copy places written clock fields =
      { fields with hour := written.hour, minute := written.minute, second := written.second,
                    nanosecond := written.nanosecond } := by
  obtain rfl | rfl | rfl : clock = fractionItems ∨ clock = secondItems ∨ clock = minuteItems := by
    simpa [timePatterns] using hclock
  · have hplaces : placesOf places written.nanosecond * 10 ^ (9 - places) =
        written.nanosecond := by
      obtain ⟨-, hdivides⟩ | hzero := hroom.fraction
      · exact Nat.div_mul_cancel hdivides
      · rw [hzero, placesOf, Nat.zero_div, Nat.zero_mul]
    rw [← hplaces]
    rfl
  · have hkept : written.nanosecond = fields.nanosecond :=
      (hroom.fraction.resolve_left fun h => absurd h.1 (by decide)).trans hnanosecond.symm
    rw [hkept]
    rfl
  · have hkept : written.nanosecond = fields.nanosecond :=
      (hroom.fraction.resolve_left fun h => absurd h.1 (by decide)).trans hnanosecond.symm
    have hnone : written.second = fields.second :=
      (hroom.second.resolve_left (by decide)).trans hsecond.symm
    rw [hkept, hnone]
    rfl

end Pattern

/-! ## Values -/

variable {pattern : Pattern}

theorem Date.date?_fields (date : Date) : date.fields.date? = some date :=
  ofFields?_eq_some_iff.mpr ⟨rfl, rfl, rfl⟩

theorem daysIn_le (year : Int) (month : Nat) : daysIn year month ≤ 31 := by
  unfold daysIn
  split
  · split <;> decide
  · split <;> decide

theorem Date.inRange_fields (date : Date) : date.fields.InRange := by
  obtain ⟨⟨hleast, hgreatest⟩, hmonth, hday, hlast⟩ := date.isDay
  have hdays := daysIn_le date.year date.month
  have hyear : date.year.natAbs ≤ 9999 := by omega
  exact { Fields.inRange_default with
    year := hyear
    month := hmonth
    day := ⟨hday, Nat.le_trans hlast hdays⟩ }

theorem Date.copy_fields (date : Date) (h : pattern ∈ datePatterns) :
    pattern.copy places date.fields {} = date.fields := by
  obtain rfl : pattern = dayItems := by simpa [datePatterns] using h
  rfl

theorem TimeOfDay.time?_fields (time : TimeOfDay) : time.fields.time? = some time :=
  ofFields?_eq_some_iff.mpr ⟨rfl, rfl, rfl, rfl⟩

theorem TimeOfDay.inRange_fields (time : TimeOfDay) : time.fields.InRange := by
  obtain ⟨hhour, hminute, hsecond, hnanosecond⟩ := time.isTime
  exact { Fields.inRange_default with
    hour := Nat.le_of_lt_succ hhour
    minute := Nat.le_of_lt_succ hminute
    second := Nat.le_of_lt hsecond
    nanosecond := hnanosecond }

theorem TimeOfDay.copy_fields (time : TimeOfDay) (h : pattern ∈ timePatterns)
    (hroom : pattern.HasRoom places time.fields) :
    pattern.copy places time.fields {} = time.fields :=
  Pattern.copy_clock h hroom rfl rfl

theorem Timestamp.timestamp?_fields (stamp : Timestamp) :
    stamp.fields.timestamp? = some stamp := by
  have hdate : stamp.fields.date? = some stamp.date := stamp.date.date?_fields
  have htime : stamp.fields.time? = some stamp.time := stamp.time.time?_fields
  simp [Fields.timestamp?, hdate, htime]

theorem Timestamp.inRange_fields (stamp : Timestamp) : stamp.fields.InRange :=
  { stamp.time.inRange_fields with
    year := stamp.date.inRange_fields.year
    month := stamp.date.inRange_fields.month
    day := stamp.date.inRange_fields.day }

/-- The patterns of timestamps are those of a date and of a clock with a joint. -/
theorem exists_clock_of_mem_timestampPatterns (h : pattern ∈ timestampPatterns) :
    ∃ joint, ∃ clock ∈ timePatterns, pattern = dayItems ++ .literal joint :: clock := by
  obtain ⟨joint, -, hjoint⟩ := List.mem_flatMap.mp h
  obtain ⟨clock, hclock, rfl⟩ := List.mem_map.mp hjoint
  exact ⟨joint, clock, List.mem_of_mem_take (i := 2) hclock, rfl⟩

/-- The date and the time of day are found behind one another. -/
theorem Pattern.copy_timestamp (h : pattern ∈ timestampPatterns)
    (hroom : pattern.HasRoom places written) :
    pattern.copy places written {} =
      { year := written.year, month := written.month, day := written.day, hour := written.hour,
        minute := written.minute, second := written.second,
        nanosecond := written.nanosecond } := by
  obtain ⟨joint, clock, hclock, rfl⟩ := exists_clock_of_mem_timestampPatterns h
  have hroom : clock.HasRoom places written := by
    refine hroom.of_mem ?_ ?_ <;> simp [dayItems]
  rw [copy_append]
  exact copy_clock hclock hroom rfl rfl

theorem Timestamp.copy_fields (stamp : Timestamp) (h : pattern ∈ timestampPatterns)
    (hroom : pattern.HasRoom places stamp.fields) :
    pattern.copy places stamp.fields {} = stamp.fields :=
  Pattern.copy_timestamp h hroom

theorem ZonedTimestamp.zoned?_fields (stamp : ZonedTimestamp) (h : 60 ∣ stamp.offset.seconds) :
    stamp.fields.zoned? = some stamp := by
  have hstamp : stamp.fields.timestamp? = some stamp.localTime := stamp.localTime.timestamp?_fields
  have hoffset : stamp.fields.offset? = some stamp.offset := by
    refine Offset.ofSeconds?_eq_some_iff.mpr ?_
    simp only [fields, decide_eq_true_eq]
    split <;> omega
  simp [Fields.zoned?, hstamp, hoffset]

theorem ZonedTimestamp.inRange_fields (stamp : ZonedTimestamp) : stamp.fields.InRange := by
  have hoffset : stamp.offset.seconds.natAbs < 26 * 3600 := stamp.offset.isOffset
  refine { stamp.localTime.inRange_fields with offsetHour := ?_, offsetMinute := ?_ }
  · change stamp.offset.seconds.natAbs / 3600 ≤ 25
    omega
  · change stamp.offset.seconds.natAbs / 60 % 60 ≤ 59
    omega

theorem ZonedTimestamp.copy_fields (stamp : ZonedTimestamp) (h : pattern ∈ zonedPatterns)
    (hroom : pattern.HasRoom places stamp.fields) :
    pattern.copy places stamp.fields {} = stamp.fields := by
  obtain ⟨front, hfront, rfl⟩ := List.mem_map.mp h
  have hroom : Pattern.HasRoom places front stamp.fields := by
    refine hroom.of_mem ?_ ?_ <;> simp [offsetItems]
  rw [Pattern.copy_append, Pattern.copy_timestamp hfront hroom]
  rfl

end RowBind.Calendar
