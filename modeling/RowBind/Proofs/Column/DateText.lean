import RowBind.Column.Scalar.Parsed
import RowBind.Proofs.Calendar.Writing

/-!
# Texts of dates and times

The patterns of a type are tried one after the other, and the first one that matches the start
of a text decides: if it leaves something, or if the fields that it finds name no value, the
text is refused and no other pattern gets its turn.  For all that, nothing is lost on whole
texts.  A pattern that stands in front of one which matches the whole text either is the same
or does not match at all, since where the two part it wants a character that is not there.

Main statement: `readsDates`, a text is read as a date or a time exactly if one of the patterns
of the type spells it, with fields that name the value; and whatever a pattern writes is read
again.
-/

namespace RowBind

open Calendar

variable {α : Type} {type : String} {ofFields? : Fields → Option α} {patterns : List Pattern}
  {text : List Char}

/-! ## The first pattern that matches -/

/-- **The first pattern that matches the start of a text is as good as any that matches all of
it**, where the patterns can be tried in their order. -/
theorem readPatterns_eq_ok_nil_iff (horder : Pattern.InOrder patterns) {a : α} :
    readPatterns type ofFields? patterns text = .ok (a, []) ↔
      ∃ pattern ∈ patterns, ∃ fields,
        Pattern.Spells pattern text {} fields ∧ ofFields? fields = some a := by
  obtain ⟨hends, hparts⟩ := horder
  induction patterns with
  | nil =>
      constructor
      · rintro ⟨⟩
      · rintro ⟨pattern, hmem, -⟩
        cases hmem
  | cons first patterns ih =>
      obtain ⟨hfirst, hothers⟩ := List.pairwise_cons.mp hparts
      have hends' : ∀ pattern ∈ patterns, Pattern.fractionsEnd pattern = true :=
        fun pattern hmem => hends pattern (List.mem_cons_of_mem first hmem)
      constructor
      · intro h
        rw [readPatterns] at h
        split at h
        · obtain ⟨pattern, hmem, hspells⟩ := (ih hends' hothers).mp h
          exact ⟨pattern, List.mem_cons_of_mem first hmem, hspells⟩
        · next fields left hread =>
          split at h
          · next value hvalue =>
            cases h
            refine ⟨first, List.mem_cons_self, fields, ?_, hvalue⟩
            exact (Pattern.readFrom_eq_some_nil_iff (hends first List.mem_cons_self)).mp hread
          · cases h
      · rintro ⟨pattern, hmem, fields, hspells, hvalue⟩
        have hread : Pattern.read pattern text = some (fields, []) :=
          (Pattern.readFrom_eq_some_nil_iff (hends pattern hmem)).mpr hspells
        obtain rfl | hmem := List.mem_cons.mp hmem
        · simp [readPatterns, hread, hvalue]
        · have hnone : Pattern.read first text = none :=
            Pattern.readFrom_eq_none_of_partsFrom (hfirst pattern hmem) hread
          rw [readPatterns, hnone]
          exact (ih hends' hothers).mpr ⟨pattern, hmem, fields, hspells, hvalue⟩

/-- Two patterns that spell the same text find the same fields. -/
theorem fields_eq_of_spells (horder : Pattern.InOrder patterns) {first second : Pattern}
    (hfirst : first ∈ patterns) (hsecond : second ∈ patterns) {fields others : Fields}
    (hspells : first.Spells text {} fields) (hothers : second.Spells text {} others) :
    fields = others := by
  have hread : readPatterns "" some patterns text = .ok (fields, []) :=
    (readPatterns_eq_ok_nil_iff horder).mpr ⟨first, hfirst, fields, hspells, rfl⟩
  have hsame : readPatterns "" some patterns text = .ok (others, []) :=
    (readPatterns_eq_ok_nil_iff horder).mpr ⟨second, hsecond, others, hothers, rfl⟩
  rw [hread] at hsame
  cases hsame
  rfl

/-! ## The types of dates and times -/

namespace CalendarType

theorem inOrder_patterns (t : CalendarType) : Pattern.InOrder t.patterns := by
  cases t with
  | date => exact Pattern.inOrder_datePatterns
  | time => exact Pattern.inOrder_timePatterns
  | timestamp => exact Pattern.inOrder_timestampPatterns
  | zoned => exact Pattern.inOrder_zonedPatterns

theorem inRange_fields (t : CalendarType) (content : Content t.scalar) :
    (t.fields content).InRange := by
  cases t with
  | date => exact Date.inRange_fields content
  | time => exact TimeOfDay.inRange_fields content
  | timestamp => exact Timestamp.inRange_fields content
  | zoned => exact ZonedTimestamp.inRange_fields content

theorem ofFields?_fields (t : CalendarType) {content : Content t.scalar}
    (h : t.InMinutes content) : t.ofFields? (t.fields content) = some content := by
  cases t with
  | date => exact Date.date?_fields content
  | time => exact TimeOfDay.time?_fields content
  | timestamp => exact Timestamp.timestamp?_fields content
  | zoned => exact ZonedTimestamp.zoned?_fields content h

theorem copy_fields (t : CalendarType) (content : Content t.scalar) {pattern : Pattern}
    (h : pattern ∈ t.patterns) {places : Nat}
    (hroom : pattern.HasRoom places (t.fields content)) :
    pattern.copy places (t.fields content) {} = t.fields content := by
  cases t with
  | date => exact Date.copy_fields content h
  | time => exact TimeOfDay.copy_fields content h hroom
  | timestamp => exact Timestamp.copy_fields content h hroom
  | zoned => exact ZonedTimestamp.copy_fields content h hroom

end CalendarType

/-- What is to be expected of a type of dates or times. -/
structure ReadsDates (t : CalendarType) : Prop where
  /-- A text is read exactly if a pattern of the type spells it, with fields that name the
  value. -/
  readAll_iff : ∀ (text : List Char) (content : Content t.scalar),
    readAll t.scalar text = .ok content ↔
      ∃ pattern ∈ t.patterns, ∃ fields,
        Pattern.Spells pattern text {} fields ∧ t.ofFields? fields = some content
  /-- All patterns that spell the text find the same fields. -/
  unique : ∀ (text : List Char), ∀ first ∈ t.patterns, ∀ second ∈ t.patterns,
    ∀ fields others : Fields, Pattern.Spells first text {} fields →
      Pattern.Spells second text {} others → fields = others
  /-- Whatever a pattern writes is read again, if it has room for the value: with a fraction of
  as many places as wanted, with any of the joints, and with an offset of minutes. -/
  written : ∀ (content : Content t.scalar), t.InMinutes content →
    ∀ pattern ∈ t.patterns, ∀ places, 1 ≤ places → places ≤ 9 →
      Pattern.HasRoom places pattern (t.fields content) →
        readAll t.scalar (pattern.text places (t.fields content)) = .ok content

/-- **No text of a date or a time is lost** by trying the patterns in their order. -/
theorem readsDates (t : CalendarType) : ReadsDates t := by
  have hiff (text : List Char) (content : Content t.scalar) :
      readAll t.scalar text = .ok content ↔
        ∃ pattern ∈ t.patterns, ∃ fields,
          Pattern.Spells pattern text {} fields ∧ t.ofFields? fields = some content := by
    rw [readAll_eq_ok_iff, t.read_eq]
    exact readPatterns_eq_ok_nil_iff t.inOrder_patterns
  refine ⟨hiff, ?_, ?_⟩
  · intro text first hfirst second hsecond fields others hspells hothers
    exact fields_eq_of_spells t.inOrder_patterns hfirst hsecond hspells hothers
  · intro content hminutes pattern hpattern places hpos hle hroom
    have hspells := pattern.spells_text (t.inRange_fields content) hpos hle {}
    rw [t.copy_fields content hpattern hroom] at hspells
    exact (hiff _ content).mpr ⟨pattern, hpattern, _, hspells, t.ofFields?_fields hminutes⟩

/-- An offset of less than an hour keeps its sign. -/
example : readAll Scalar.zoned "2024-03-01 09:05:00.07-00:30".toList =
    .ok ⟨⟨⟨2024, 3, 1, by decide⟩, ⟨9, 5, 0, 70000000, by decide⟩⟩, ⟨-1800, by decide⟩⟩ := by
  rfl

end RowBind
