import RowBind.Column.Layers
import RowBind.Column.Scalar.Parsed
import RowBind.Proofs.Calendar.Spelling
import RowBind.Proofs.Column.Pieces

/-!
# Text of no known type

A text that comes without a type is converted by reading it as a whole, and behind layers it is
the type behind them that reads it.  An optional column asks only whether the value is null;
but where it reads a text itself, it asks first for the word for no content.  So the two differ
on that word, which is read as no content and is refused as a value.

They differ nowhere else.  A text that only starts with the word is refused both ways: one
leaves what follows the word, and the other has no type that can read a text which starts with
its first two letters.

Main statement: `throughParsing_iff`, a text of no known type is converted as it is read,
unless the column is optional and the text is the word for no content.
-/

namespace RowBind

open Number Calendar Text

variable {layers : List Layer} {t : ParsedType} {text : List Char}

/-! ## The word for no content -/

theorem eq_or_eq_of_toLower {c lower upper : Char} (hcase : lower.val = upper.val + 32)
    (h : c.toLower = lower) : c = lower ∨ c = upper := by
  unfold Char.toLower at h
  split at h
  · refine .inr (Char.ext ?_)
    have hval : c.val + 32 = upper.val + 32 := (congrArg Char.val h).trans hcase
    exact (UInt32.add_left_inj 32).mp hval
  · exact .inl h

/-- A text that starts with the word starts with its first two letters, in either case. -/
theorem exists_cons_of_startsWithNull (h : startsWithNull text = true) :
    ∃ c d others, text = c :: d :: others ∧ (c = 'n' ∨ c = 'N') ∧ (d = 'u' ∨ d = 'U') := by
  have hword : (text.takeWhile isWordChar).map Char.toLower = ['n', 'u', 'l', 'l'] :=
    beq_iff_eq.mp h
  obtain ⟨c, behind, htaken, hc, hbehind⟩ := List.map_eq_cons_iff.mp hword
  obtain ⟨d, others, rfl, hd, -⟩ := List.map_eq_cons_iff.mp hbehind
  have htext := List.takeWhile_append_dropWhile (p := isWordChar) (l := text)
  rw [htaken] at htext
  exact ⟨c, d, _, htext.symm, eq_or_eq_of_toLower rfl hc, eq_or_eq_of_toLower rfl hd⟩

/-- A text is the word for no content if it starts with it and nothing is left. -/
theorem sameWord_null_iff :
    sameWord text "null" = true ↔
      startsWithNull text = true ∧ text.dropWhile isWordChar = [] := by
  constructor
  · intro h
    have hword : text.map Char.toLower = ['n', 'u', 'l', 'l'] := beq_iff_eq.mp h
    have hletter (lower upper : Char) {c : Char} (hcase : lower.val = upper.val + 32)
        (hletters : lower.isAlphanum = true ∧ upper.isAlphanum = true) (hc : c.toLower = lower) :
        isWordChar c = true := by
      have halpha : c.isAlphanum = true := by
        obtain rfl | rfl := eq_or_eq_of_toLower hcase hc
        · exact hletters.1
        · exact hletters.2
      simp [isWordChar, isAlphanumeric_of_isAlphanum halpha]
    have hletters : ∀ c ∈ text, isWordChar c = true := by
      intro c hc
      have hmem : c.toLower ∈ ['n', 'u', 'l', 'l'] := hword ▸ List.mem_map_of_mem hc
      simp only [List.mem_cons, List.not_mem_nil, or_false, or_self] at hmem
      obtain hn | hu | hl := hmem
      · exact hletter 'n' 'N' rfl (by decide) hn
      · exact hletter 'u' 'U' rfl (by decide) hu
      · exact hletter 'l' 'L' rfl (by decide) hl
    have htaken : (text ++ []).takeWhile isWordChar = text ++ [] :=
      List.takeWhile_append_of_pos hletters
    have hleft : (text ++ []).dropWhile isWordChar = [] := List.dropWhile_append_of_pos hletters
    rw [List.append_nil] at htaken hleft
    exact ⟨by rwa [startsWithNull, htaken], hleft⟩
  · rintro ⟨hnull, hleft⟩
    have htext := List.takeWhile_append_dropWhile (p := isWordChar) (l := text)
    rw [hleft, List.append_nil] at htext
    rwa [startsWithNull, htext] at hnull

/-! ## No type reads a text that starts with it -/

theorem readBool_of_startsWithNull (h : startsWithNull text = true) :
    ∃ failure, readBool text = .error failure := by
  have hword : (text.takeWhile isWordChar).map Char.toLower = "null".toList := beq_iff_eq.mp h
  have hother (name : String) (hname : name ≠ "null") :
      sameWord (text.takeWhile isWordChar) name = false := by
    rw [sameWord, hword, beq_eq_false_iff_ne]
    exact fun heq => hname (String.toList_injective heq).symm
  have hdigit (c : Char) : text.takeWhile isWordChar ≠ [c] := by
    intro heq
    rw [heq] at hword
    have hlength : 1 = 4 := congrArg List.length hword
    cases hlength
  have hnone : boolOfWord? (text.takeWhile isWordChar) = none := by
    simp [boolOfWord?, hother, hdigit]
  rw [readBool, hnone]
  exact ⟨_, rfl⟩

/-- No number starts like the word: it has neither a sign nor a digit, and no quote either. -/
theorem readNumber_of_startsWithNull (t : NumberType) (h : startsWithNull text = true) :
    ∃ failure, ColumnFamily.read t.scalar text = .error failure := by
  obtain ⟨c, d, others, rfl, hc, -⟩ := exists_cons_of_startsWithNull h
  cases t with
  | integer t => obtain ⟨_ | _, width⟩ | _ | _ := t <;> obtain rfl | rfl := hc <;> exact ⟨_, rfl⟩
  | decimal => obtain rfl | rfl := hc <;> exact ⟨_, rfl⟩

/-- The word for what is no number starts with its first letter, but not with its second. -/
theorem readFloat_of_startsWithNull (p : Precision) (h : startsWithNull text = true) :
    ∃ failure, readFloat p text = .error failure := by
  obtain ⟨c, d, others, rfl, hc, hd⟩ := exists_cons_of_startsWithNull h
  obtain rfl | rfl := hc <;> obtain rfl | rfl := hd <;> exact ⟨_, rfl⟩

/-- An identifier has no such letter. -/
theorem readUuid_of_startsWithNull (h : startsWithNull text = true) :
    ∃ failure, readUuid text = .error failure := by
  obtain ⟨c, d, others, rfl, hc, -⟩ := exists_cons_of_startsWithNull h
  cases hread : readUuid (c :: d :: others) with
  | error failure => exact ⟨failure, rfl⟩
  | ok found =>
      obtain ⟨taken, behind, hsplit, hid, -⟩ := readUuid_eq_ok_iff.mp hread
      have hstart : (splitQuote (c :: d :: others)).2 = c :: d :: others ∧
          Uuid.isMember c = false := by
        obtain rfl | rfl := hc <;> exact ⟨rfl, rfl⟩
      rw [hstart.1, Uuid.textLength, splitBytes] at hsplit
      split at hsplit
      · obtain ⟨⟨inner, left⟩, -, heq⟩ := Option.map_eq_some_iff.mp hsplit
        cases heq
        have hfault : Uuid.fault? (c :: inner) ≠ none := by
          intro hnone
          have hmember := (Uuid.fault?_eq_none_iff.mp hnone).1 c List.mem_cons_self
          rw [hstart.2] at hmember
          cases hmember
        obtain ⟨fault, hsome⟩ := Option.ne_none_iff_exists'.mp hfault
        rw [Uuid.read_eq_error_iff.mpr hsome] at hid
        cases hid
      · cases hsplit

/-- All patterns start with a number. -/
theorem readPatterns_of_startsWithNull (t : CalendarType) (h : startsWithNull text = true) :
    ∃ failure, ColumnFamily.read t.scalar text = .error failure := by
  obtain ⟨c, d, others, rfl, hc, -⟩ := exists_cons_of_startsWithNull h
  have hfirst : ∀ pattern ∈ t.patterns, ∃ item ∈ pattern.head?, item.canStart c = false := by
    obtain rfl | rfl := hc <;> cases t <;> decide
  rw [t.read_eq, readPatterns_none]
  · exact ⟨_, rfl⟩
  · intro pattern hpattern
    obtain ⟨item, hitem, hcannot⟩ := hfirst pattern hpattern
    obtain ⟨items, rfl⟩ := List.head?_eq_some_iff.mp hitem
    exact Pattern.readFrom_eq_none hcannot

/-- **No type reads a text that starts with the word for no content**, of those that read
untyped text. -/
theorem read_of_startsWithNull (t : ParsedType) (h : startsWithNull text = true) :
    ∃ failure, ColumnFamily.read t.scalar text = .error failure := by
  cases t with
  | bool => exact readBool_of_startsWithNull h
  | number t => exact readNumber_of_startsWithNull t h
  | float p => exact readFloat_of_startsWithNull p h
  | uuid => exact readUuid_of_startsWithNull h
  | calendar t => exact readPatterns_of_startsWithNull t h

/-! ## Behind layers -/

/-- A text of no known type is converted exactly as it is read. -/
def ThroughParsing (layers : List Layer) (t : ParsedType) (text : List Char) : Prop :=
  ∀ content : Content (ColumnType.wrap t.scalar layers),
    ofValue (ColumnType.wrap t.scalar layers) (.untyped (some (String.ofList text))) =
        .ok content ↔
      readAll (ColumnType.wrap t.scalar layers) text = .ok content

/-- The type behind the layers reads the text where it does not start with the word for no
content, or where there is no such word. -/
theorem readAll_wrap_eq_ok_iff (hnull : .optional ∈ layers → startsWithNull text = false)
    {content : Content (ColumnType.wrap t.scalar layers)} :
    readAll (ColumnType.wrap t.scalar layers) text = .ok content ↔
      ∃ inner, ColumnFamily.read t.scalar text = .ok (inner, []) ∧
        ColumnType.present layers inner = content := by
  have heq : ColumnFamily.read (ColumnType.wrap t.scalar layers) text =
      (ColumnFamily.read t.scalar text).map
        fun (inner, left) => (ColumnType.present layers inner, left) :=
    ColumnType.read_wrap_eq hnull
  rw [readAll_eq_ok_iff, heq]
  obtain failure | ⟨inner, left⟩ := ColumnFamily.read t.scalar text
  · simp [Except.map]
  · simp only [Except.map, Except.ok.injEq, Prod.mk.injEq, and_assoc, exists_eq_left']
    exact and_comm

/-- **A text of no known type is converted as it is read**, unless the column is optional and
the text is the word for no content. -/
theorem throughParsing_iff (layers : List Layer) (t : ParsedType) (text : List Char) :
    ThroughParsing layers t text ↔
      ¬ (.optional ∈ layers ∧ sameWord text "null" = true) := by
  have hfails (hnull : startsWithNull text = true)
      (content : Content (ColumnType.wrap t.scalar layers)) :
      ofValue (ColumnType.wrap t.scalar layers) (.untyped (some (String.ofList text))) ≠
        .ok content := by
    intro h
    obtain ⟨inner, hinner, -⟩ := t.ofValue_wrap_untyped.mp h
    obtain ⟨failure, hfailure⟩ := read_of_startsWithNull t hnull
    rw [hfailure] at hinner
    cases hinner
  by_cases hnull : .optional ∈ layers ∧ startsWithNull text = true
  · obtain ⟨nothing, hnothing⟩ :=
      ColumnType.exists_read_wrap_null (i := t.scalar) hnull.1 hnull.2
    have hread : ∀ content, readAll (ColumnType.wrap t.scalar layers) text = .ok content ↔
        content = nothing ∧ text.dropWhile isWordChar = [] := by
      intro content
      rw [readAll_eq_ok_iff]
      change ColumnType.read _ text = _ ↔ _
      rw [hnothing, Except.ok.injEq, Prod.mk.injEq]
      exact and_congr eq_comm Iff.rfl
    rw [sameWord_null_iff]
    constructor
    · rintro h ⟨-, -, hleft⟩
      exact hfails hnull.2 nothing ((h nothing).mpr ((hread nothing).mpr ⟨rfl, hleft⟩))
    · intro hnot content
      -- Something follows the word, so that neither way the whole text is taken.
      have hleft : text.dropWhile isWordChar ≠ [] := fun h => hnot ⟨hnull.1, hnull.2, h⟩
      rw [hread]
      exact iff_of_false (hfails hnull.2 content) fun h => hleft h.2
  · have hnone : .optional ∈ layers → startsWithNull text = false := fun hmem => by
      simpa [hmem] using hnull
    refine iff_of_true (fun content => ?_) fun h =>
      hnull ⟨h.1, (sameWord_null_iff.mp h.2).1⟩
    rw [t.ofValue_wrap_untyped, readAll_wrap_eq_ok_iff hnone]

/-- The word for no content is refused as an optional integer, although it is read as none. -/
theorem not_throughParsing_null :
    readAll (ColumnType.wrap (Scalar.int ⟨true, .w32⟩) [.optional]) "null".toList = .ok none ∧
      ¬ ThroughParsing [.optional] (.number (.integer (.sized ⟨true, .w32⟩))) "null".toList := by
  have hread : readAll (ColumnType.wrap (Scalar.int ⟨true, .w32⟩) [.optional]) "null".toList =
      .ok none := by
    have hword : startsWithNull "null".toList = true := by decide +kernel
    have hleft : "null".toList.dropWhile isWordChar = [] := by decide +kernel
    refine readAll_eq_ok_iff.mpr ?_
    rw [startsWithNull] at hword
    change ColumnType.read _ _ = _
    simp only [ColumnType.wrap, ColumnType.read, hword, hleft]
    rfl
  refine ⟨hread, fun h => ?_⟩
  cases (h none).mpr hread

end RowBind
