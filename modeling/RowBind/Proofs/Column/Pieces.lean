import RowBind.Column.Type
import RowBind.Proofs.Calendar.Pieces

/-!
# Columns among the pieces of a text

The contents of columns may stand one after the other in a text, with a comma or a blank
behind each of them.  A content that is read leaves the end of its text, from a position
between two characters; a content that cannot be read leaves all of it.  And a content that
is read from a text as a whole is read off any text that goes on with a comma or a blank
behind it, and what is left is what goes on.

For the scalars this is a case analysis over their readers; each of them is shown to read
the same whatever follows a piece, also where it does not read the whole piece.  Columns
that are optional or behind a pointer follow by induction on their type.  An amount of money
would be no such content: its currency takes all that is left.

Main statements: `readsPieces_scalar`, for the readers of scalars; `readsPieces_type`, for
those of columns built from them; and `readOff_piecewise`, what is to be expected of reading
piece by piece.
-/

namespace RowBind

open Number Calendar Text

variable {text left rest : List Char}

/-- A reader leaves the end of its text, and it reads the same whatever follows a piece. -/
structure ReadsPieces {α : Type} (read : List Char → Outcome (α × List Char)) : Prop where
  suffix : ∀ {text left : List Char} {content : α}, read text = .ok (content, left) →
    left <:+ text
  followed : ∀ {text left rest : List Char} {content : α}, read text = .ok (content, left) →
    EndsPiece rest → read (text ++ rest) = .ok (content, left ++ rest)

/-- A type without a text form reads nothing. -/
theorem ReadsPieces.of_error {α : Type} {read : List Char → Outcome (α × List Char)}
    (h : ∀ text, ∃ failure, read text = .error failure) : ReadsPieces read := by
  refine ⟨fun {text} _ _ hread => ?_, fun {text} _ _ _ hread => ?_⟩
  all_goals
    obtain ⟨failure, herror⟩ := h text
    rw [herror] at hread
    cases hread

/-! ## Scalars -/

theorem readsPieces_bool : ReadsPieces readBool := by
  constructor
  · intro text left b hread
    unfold readBool at hread
    split at hread
    · cases hread
      exact List.dropWhile_suffix isWordChar
    · cases hread
  · intro text left rest b hread hrest
    unfold readBool at hread ⊢
    rw [hrest.takeWhile_append sparesEnds_isWordChar, hrest.dropWhile_append sparesEnds_isWordChar]
    split at hread
    · cases hread
      rfl
    · cases hread

/-- An integer that is read has digits or a sign, a number of its range, and the quote that
it needs. -/
theorem readInteger_eq_ok_iff {kind : IntKind} {type : String} {i : Integer kind} :
    readInteger kind type text = .ok (i, left) ↔
      (scanNumber kind.signed (splitQuote text).2).consumed ≠ [] ∧
        ∃ number, (scanNumber kind.signed (splitQuote text).2).number = some number ∧
          narrow kind type (wideKind kind.signed).name number = .ok i ∧
            closeQuote (splitQuote text).1 (scanNumber kind.signed (splitQuote text).2).rest =
              some left := by
  simp only [readInteger]
  by_cases hnone : (scanNumber kind.signed (splitQuote text).2).consumed = []
  · simp [hnone, failFor]
  · cases hnumber : (scanNumber kind.signed (splitQuote text).2).number with
    | none => simp [hnone, failFor]
    | some number =>
        cases hnarrow : narrow kind type (wideKind kind.signed).name number with
        | error failure => simp [hnone, hnarrow]
        | ok found =>
            cases hclose : closeQuote (splitQuote text).1
              (scanNumber kind.signed (splitQuote text).2).rest <;>
              simp [hnone, hnarrow, failFor]

theorem readsPieces_integer (kind : IntKind) (type : String) :
    ReadsPieces (readInteger kind type) := by
  constructor
  · intro text left i hread
    obtain ⟨-, number, -, -, hclose⟩ := readInteger_eq_ok_iff.mp hread
    exact ((closeQuote_suffix hclose).trans (scanNumber_suffix _ _)).trans (splitQuote_suffix text)
  · intro text left rest i hread hrest
    obtain ⟨hconsumed, number, hnumber, hnarrow, hclose⟩ := readInteger_eq_ok_iff.mp hread
    rw [readInteger_eq_ok_iff, splitQuote_followed hrest, scanNumber_followed hrest]
    exact ⟨hconsumed, number, hnumber, hnarrow, closeQuote_followed hclose rest⟩

/-- A floating point number that is read stands at the start, and has the quote that it
needs behind it. -/
theorem readFloat_eq_ok_iff {p : Precision} {x : Binary p} :
    readFloat p text = .ok (x, left) ↔
      ∃ behind, readBinary p (splitQuote text).2 = some (x, behind) ∧
        closeQuote (splitQuote text).1 behind = some left := by
  simp only [readFloat]
  cases hnumber : readBinary p (splitQuote text).2 with
  | none => simp
  | some found =>
      obtain ⟨y, behind⟩ := found
      cases hclose : closeQuote (splitQuote text).1 behind <;> simp [failFor, and_assoc, hclose]

theorem readsPieces_float (p : Precision) : ReadsPieces (readFloat p) := by
  constructor
  · intro text left x hread
    obtain ⟨behind, hnumber, hclose⟩ := readFloat_eq_ok_iff.mp hread
    exact ((closeQuote_suffix hclose).trans (readBinary_suffix hnumber)).trans
      (splitQuote_suffix text)
  · intro text left rest x hread hrest
    obtain ⟨behind, hnumber, hclose⟩ := readFloat_eq_ok_iff.mp hread
    rw [readFloat_eq_ok_iff, splitQuote_followed hrest, readBinary_followed hrest, hnumber]
    exact ⟨behind ++ rest, rfl, closeQuote_followed hclose rest⟩

/-- What follows a piece is no closing quote. -/
theorem head?_ne_of_endsPiece {quote : Char} (hquote : isQuote quote = true)
    (hrest : EndsPiece rest) : rest.head? ≠ some quote := by
  cases rest with
  | nil => simp
  | cons c others =>
      rw [List.head?_cons]
      rintro ⟨⟩
      rw [hrest.head_eq_false sparesEnds_isQuote] at hquote
      cases hquote

theorem readsPieces_text : ReadsPieces readText := by
  constructor
  · intro text left content hread
    have hbody := splitQuote_suffix text
    unfold readText at hread
    split at hread
    · next body hsplit =>
      rw [hsplit] at hbody
      cases hread
      exact (List.dropWhile_suffix isBare).trans hbody
    · next quote body hsplit =>
      rw [hsplit] at hbody
      split at hread
      · next hquoted =>
        cases hread
        exact (quotedBody_suffix hquoted).trans hbody
      · cases hread
  · intro text left rest content hread hrest
    have hquote := @isQuote_of_splitQuote text
    unfold readText at hread ⊢
    rw [splitQuote_followed hrest]
    split at hread
    · next body hsplit =>
      cases hread
      simp [hsplit, bareText, hrest.takeWhile_append sparesEnds_isBare,
        hrest.dropWhile_append sparesEnds_isBare]
    · next quote body hsplit =>
      rw [hsplit] at hquote
      split at hread
      · next hquoted =>
        cases hread
        simp only [hsplit]
        rw [quotedBody_followed hquoted (head?_ne_of_endsPiece (hquote rfl) hrest)]
      · cases hread

theorem readsPieces_decimal : ReadsPieces readDecimalText := by
  constructor
  · intro text left decimal hread
    unfold readDecimalText at hread
    split at hread
    · next hfound =>
      cases hread
      exact readDecimal_suffix hfound
    · cases hread
  · intro text left rest decimal hread hrest
    unfold readDecimalText at hread ⊢
    split at hread
    · next hfound =>
      cases hread
      rw [readDecimal_followed hrest hfound]
    · cases hread

/-- A start of a text is found whatever follows the text. -/
theorem splitBytes_append {size : Nat} {taken : List Char}
    (h : splitBytes size text = some (taken, left)) (rest : List Char) :
    splitBytes size (text ++ rest) = some (taken, left ++ rest) := by
  fun_induction splitBytes size text generalizing taken with
  | case1 text =>
      cases h
      rw [splitBytes]
  | case2 => cases h
  | case3 size c others hfits ih =>
      obtain ⟨⟨inner, behind⟩, hinner, heq⟩ := Option.map_eq_some_iff.mp h
      cases heq
      rw [List.cons_append, splitBytes, if_pos hfits, ih hinner]
      rfl
  | case4 => cases h

theorem splitBytes_suffix {size : Nat} {taken : List Char}
    (h : splitBytes size text = some (taken, left)) : left <:+ text := by
  fun_induction splitBytes size text generalizing taken with
  | case1 text =>
      cases h
      exact List.suffix_refl _
  | case2 => cases h
  | case3 size c others hfits ih =>
      obtain ⟨⟨inner, behind⟩, hinner, heq⟩ := Option.map_eq_some_iff.mp h
      cases heq
      exact (ih hinner).trans (List.suffix_cons c others)
  | case4 => cases h

/-- An identifier that is read takes the bytes of its form, and has the quote that it needs
behind it. -/
theorem readUuid_eq_ok_iff {id : Uuid} :
    readUuid text = .ok (id, left) ↔
      ∃ taken behind, splitBytes Uuid.textLength (splitQuote text).2 = some (taken, behind) ∧
        Uuid.read taken = .ok id ∧ closeQuote (splitQuote text).1 behind = some left := by
  simp only [readUuid]
  cases hsplit : splitBytes Uuid.textLength (splitQuote text).2 with
  | none => simp [failFor]
  | some found =>
      obtain ⟨taken, behind⟩ := found
      cases hid : Uuid.read taken with
      | error fault => simp [hid]
      | ok found =>
          cases hclose : closeQuote (splitQuote text).1 behind <;>
            simp [failFor, and_assoc, hid, hclose]

theorem readsPieces_uuid : ReadsPieces readUuid := by
  constructor
  · intro text left id hread
    obtain ⟨taken, behind, hsplit, -, hclose⟩ := readUuid_eq_ok_iff.mp hread
    exact ((closeQuote_suffix hclose).trans (splitBytes_suffix hsplit)).trans
      (splitQuote_suffix text)
  · intro text left rest id hread hrest
    obtain ⟨taken, behind, hsplit, hid, hclose⟩ := readUuid_eq_ok_iff.mp hread
    rw [readUuid_eq_ok_iff, splitQuote_followed hrest]
    exact ⟨taken, behind ++ rest, splitBytes_append hsplit rest, hid,
      closeQuote_followed hclose rest⟩

/-- Where the first pattern matches, it decides. -/
theorem readPatterns_cons_of_some {α : Type} {type : String} {ofFields? : Fields → Option α}
    {pattern : Pattern} {patterns : List Pattern} {fields : Fields} {a : α} {behind : List Char}
    (hmatch : Pattern.read pattern text = some (fields, behind)) :
    readPatterns type ofFields? (pattern :: patterns) text = .ok (a, left) ↔
      ofFields? fields = some a ∧ behind = left := by
  simp only [readPatterns, hmatch]
  cases ofFields? fields <;> simp [failFor]

/-- Where a value is read, one of the patterns matches. -/
theorem exists_pattern_of_readPatterns {α : Type} {type : String} {ofFields? : Fields → Option α}
    {patterns : List Pattern} {found : α × List Char}
    (h : readPatterns type ofFields? patterns text = .ok found) :
    ∃ pattern ∈ patterns, (Pattern.read pattern text).isSome = true := by
  induction patterns with
  | nil => cases h
  | cons pattern patterns ih =>
      cases hmatch : Pattern.read pattern text with
      | some fields => exact ⟨pattern, List.mem_cons_self, by rw [hmatch]; rfl⟩
      | none =>
          rw [readPatterns, hmatch] at h
          obtain ⟨other, hmem, hother⟩ := ih h
          exact ⟨other, List.mem_cons_of_mem _ hmem, hother⟩

/-- Dates and times are read whatever follows, if no pattern stands in the way of another:
the first pattern that matches a piece is the first one again. -/
theorem readsPieces_patterns {α : Type} (type : String) (ofFields? : Fields → Option α)
    {patterns : List Pattern} (hapart : Pattern.KeepApart patterns) :
    ReadsPieces (readPatterns type ofFields? patterns) := by
  induction patterns with
  | nil => exact .of_error fun text => ⟨_, rfl⟩
  | cons pattern patterns ih =>
      obtain ⟨hfirst, hothers⟩ := List.pairwise_cons.mp hapart
      have hlater := ih hothers
      constructor
      · intro text left a hread
        cases hmatch : Pattern.read pattern text with
        | none =>
            rw [readPatterns, hmatch] at hread
            exact hlater.suffix hread
        | some found =>
            obtain ⟨-, rfl⟩ := (readPatterns_cons_of_some hmatch).mp hread
            exact Pattern.readFrom_suffix hmatch
      · intro text left rest a hread hrest
        cases hmatch : Pattern.read pattern text with
        | none =>
            rw [readPatterns, hmatch] at hread
            obtain ⟨other, hmem, hother⟩ := exists_pattern_of_readPatterns hread
            have hagain : Pattern.read pattern (text ++ rest) = none :=
              Pattern.readFrom_followed_of_none hrest (hfirst other hmem) hmatch hother
            rw [readPatterns, hagain]
            exact hlater.followed hread hrest
        | some found =>
            obtain ⟨ha, rfl⟩ := (readPatterns_cons_of_some hmatch).mp hread
            have hagain : Pattern.read pattern (text ++ rest) = some (found.1, found.2 ++ rest) :=
              Pattern.readFrom_followed_of_some hrest hmatch
            exact (readPatterns_cons_of_some hagain).mpr ⟨ha, rfl⟩

/-- **Scalars are read piece by piece**, those without a text form included. -/
theorem readsPieces_scalar (s : Scalar) : ReadsPieces s.read := by
  cases s with
  | bool => exact readsPieces_bool
  | int kind => exact readsPieces_integer kind _
  | word signed => exact readsPieces_integer (Scalar.wordKind signed) _
  | float p => exact readsPieces_float p
  | char => exact .of_error fun _ => ⟨_, rfl⟩
  | text => exact readsPieces_text
  | sharedText => exact readsPieces_text
  | bytes => exact .of_error fun _ => ⟨_, rfl⟩
  | decimal => exact readsPieces_decimal
  | uuid => exact readsPieces_uuid
  | date => exact readsPieces_patterns _ _ Pattern.keepApart_datePatterns
  | time => exact readsPieces_patterns _ _ Pattern.keepApart_timePatterns
  | timestamp => exact readsPieces_patterns _ _ Pattern.keepApart_timestampPatterns
  | zoned => exact readsPieces_patterns _ _ Pattern.keepApart_zonedPatterns

/-! ## Columns built from others -/

namespace ColumnType

variable {ι : Type} [ColumnFamily ι]

/-- Where there may be no content, the word that says so is looked for in the piece only. -/
theorem readsPieces_optional {t : ColumnType ι} (ht : ReadsPieces t.read) :
    ReadsPieces (optional t).read := by
  constructor
  · intro text left content hread
    rw [read] at hread
    split at hread
    · cases hread
      exact List.dropWhile_suffix isWordChar
    · cases hinner : t.read text with
      | error failure => simp [hinner] at hread
      | ok found =>
          rw [hinner] at hread
          cases hread
          exact ht.suffix hinner
  · intro text left rest content hread hrest
    rw [read] at hread ⊢
    rw [hrest.takeWhile_append sparesEnds_isWordChar, hrest.dropWhile_append sparesEnds_isWordChar]
    by_cases hnull : sameWord (text.takeWhile isWordChar) "null" = true
    · rw [if_pos hnull] at hread ⊢
      cases hread
      rfl
    · rw [if_neg hnull] at hread ⊢
      cases hinner : t.read text with
      | error failure => simp [hinner] at hread
      | ok found =>
          rw [hinner] at hread
          cases hread
          rw [ht.followed hinner hrest]

/-- **Columns are read piece by piece** if the types that they are built from are. -/
theorem readsPieces_type (hbase : ∀ i : ι, ReadsPieces (ColumnFamily.read i))
    (t : ColumnType ι) : ReadsPieces t.read := by
  induction t with
  | base i => exact hbase i
  | optional t ih => exact readsPieces_optional ih
  | listOf t => exact .of_error fun _ => ⟨_, rfl⟩
  | pointer kind t ih => exact ih

end ColumnType

/-! ## Reading piece by piece -/

/-- What is to be expected of reading contents of a type off the front of a text. -/
structure ReadsPiecewise {τ : Type} [ColumnFamily τ] (t : τ) : Prop where
  /-- A text that cannot be read stays as it was. -/
  refused : ∀ {text left : List Char} {failure : Failure},
    readOff t text = (.error failure, left) → left = text
  /-- What is left behind a content is the end of the text, from a position between two of
  its characters. -/
  left : ∀ {text left : List Char} {content : Content t}, readOff t text = (.ok content, left) →
    ∃ (position : (String.ofList text).Pos) (taken : String),
      position.Splits taken (String.ofList left)
  /-- A content that fills a text is read off any text that goes on behind it, which is what
  is left. -/
  followed : ∀ {text rest : List Char} {content : Content t}, readAll t text = .ok content →
    EndsPiece rest → readOff t (text ++ rest) = (.ok content, rest)

/-- A reader of pieces is one for any text that goes on behind them. -/
theorem ReadsPieces.readsPiecewise {τ : Type} [ColumnFamily τ] {t : τ}
    (h : ReadsPieces (read t)) : ReadsPiecewise t where
  refused {text left failure} hread := by
    unfold readOff at hread
    split at hread <;> cases hread
    rfl
  left {text left content} hread := by
    unfold readOff at hread
    split at hread
    · cases hread
    · next hcontent =>
      cases hread
      exact exists_splits_of_suffix (h.suffix hcontent)
  followed {text rest content} hread hrest := by
    have hbehind := h.followed (readAll_eq_ok_iff.mp hread) hrest
    rw [readOff, hbehind]
    rfl

/-- **Texts are read piece by piece.**  Whatever a column holds, a text that cannot be read
stays as it was; what is left behind a content is the end of the text, from a position
between two characters; and a content that fills a text is read off any text that goes on
with a comma or a blank, which is left as it is. -/
theorem readOff_piecewise (t : ColumnType Scalar) : ReadsPiecewise t :=
  (ColumnType.readsPieces_type readsPieces_scalar t).readsPiecewise

end RowBind
