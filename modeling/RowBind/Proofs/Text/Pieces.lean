import RowBind.Text.Alphanumeric
import RowBind.Text.Delimited

/-!
# Where the pieces of a text end

A text may hold several pieces, with commas or blanks between them.  A piece ends in front
of such a character, or where the text ends.  None of these characters belongs to a word,
to a number or to a text without quotes, and none of them is a quote; so what is looked for
in a piece is found without regard to what follows it.

Main statements: `EndsPiece.takeWhile_append` and `EndsPiece.dropWhile_append`, a run of
characters that end no piece is the same whatever follows the piece; and
`quotedBody_followed`, so is a quoted text.
-/

namespace RowBind.Text

/-- A code point that is found in a table lies in one of its ranges. -/
theorem CodeRanges.exists_mem_of_contains {ranges : CodeRanges} {c : Char}
    (h : ranges.contains c = true) :
    ∃ range ∈ ranges, range.1 ≤ c.toNat ∧ c.toNat ≤ range.2 := by
  induction ranges with
  | nil => cases h
  | cons range ranges ih =>
      obtain ⟨first, last⟩ := range
      simp only [contains_cons, Bool.and_eq_true, Bool.or_eq_true, decide_eq_true_eq] at h
      obtain ⟨hfirst, hlast | hlater⟩ := h
      · exact ⟨(first, last), List.mem_cons_self, hfirst, hlast⟩
      · obtain ⟨other, hmem, hwithin⟩ := ih hlater
        exact ⟨other, List.mem_cons_of_mem _ hmem, hwithin⟩

/-! ## The end of a piece -/

/-- A piece of a text may end in front of the rest: nothing follows, or a comma, or a
blank. -/
def EndsPiece (rest : List Char) : Prop :=
  rest = [] ∨ ∃ c others, rest = c :: others ∧ (c = ',' ∨ isBlank c = true)

/-- The character ends a piece in front of it. -/
def isPieceEnd (c : Char) : Bool :=
  c == ',' || isBlank c

/-- The characters in front of which a piece ends. -/
def pieceEnds : List Char :=
  ',' :: blankRanges.flatMap fun (first, last) =>
    (List.range' first (last + 1 - first)).map Char.ofNat

theorem mem_pieceEnds {c : Char} (h : c = ',' ∨ isBlank c = true) : c ∈ pieceEnds := by
  rcases h with rfl | hblank
  · exact List.mem_cons_self
  · obtain ⟨range, hmem, hfirst, hlast⟩ := CodeRanges.exists_mem_of_contains hblank
    refine List.mem_cons_of_mem _ (List.mem_flatMap.mpr ⟨range, hmem, ?_⟩)
    refine List.mem_map.mpr ⟨c.toNat, ?_, Char.ofNat_toNat c⟩
    rw [List.mem_range'_1]
    omega

/-- No character that ends a piece is of the kind `p`. -/
def SparesEnds (p : Char → Bool) : Prop :=
  ∀ c ∈ pieceEnds, p c = false

-- named, so that the characters of the list are tried and not all characters there are
instance (p : Char → Bool) : Decidable (SparesEnds p) :=
  List.decidableBAll (fun c => p c = false) pieceEnds

theorem sparesEnds_isWordChar : SparesEnds isWordChar := by
  decide +kernel

theorem sparesEnds_isBare : SparesEnds isBare := by
  decide

theorem sparesEnds_isQuote : SparesEnds isQuote := by
  decide

section

variable {p : Char → Bool} {c : Char} {others rest : List Char}

theorem EndsPiece.head (h : EndsPiece (c :: others)) : c = ',' ∨ isBlank c = true := by
  obtain hnil | ⟨d, tail, heq, hends⟩ := h
  · cases hnil
  · cases heq
    exact hends

/-- What follows a piece does not start with a character of a kind that ends none. -/
theorem EndsPiece.head_eq_false (h : EndsPiece (c :: others)) (hp : SparesEnds p) :
    p c = false :=
  hp c (mem_pieceEnds h.head)

theorem EndsPiece.head_ne (h : EndsPiece (c :: others)) {d : Char}
    (hd : isPieceEnd d = false) : c ≠ d := by
  intro heq
  subst heq
  obtain hcomma | hblank := h.head
  · simp [isPieceEnd, hcomma] at hd
  · simp [isPieceEnd, hblank] at hd

/-- A run of characters that end no piece is the same whatever follows. -/
theorem EndsPiece.takeWhile_append (h : EndsPiece rest) (hp : SparesEnds p)
    (text : List Char) : (text ++ rest).takeWhile p = text.takeWhile p := by
  induction text with
  | nil =>
      cases rest with
      | nil => rfl
      | cons c others => simp [h.head_eq_false hp]
  | cons c text ih => cases hc : p c <;> simp [hc, ih]

/-- What stands behind such a run has the rest behind it. -/
theorem EndsPiece.dropWhile_append (h : EndsPiece rest) (hp : SparesEnds p)
    (text : List Char) : (text ++ rest).dropWhile p = text.dropWhile p ++ rest := by
  induction text with
  | nil =>
      cases rest with
      | nil => rfl
      | cons c others => simp [h.head_eq_false hp]
  | cons c text ih => cases hc : p c <;> simp [hc, ih]

/-- A shorter rest ends a piece as well. -/
theorem EndsPiece.take (h : EndsPiece rest) (count : Nat) : EndsPiece (rest.take count) := by
  cases count with
  | zero => exact Or.inl rfl
  | succ count =>
      obtain rfl | ⟨c, others, rfl, hends⟩ := h
      · exact Or.inl rfl
      · exact Or.inr ⟨c, others.take count, rfl, hends⟩

end

/-- What was found in a piece, and what is left with the rest behind it. -/
def followedBy {α : Type} (rest : List Char) (found : α × List Char) : α × List Char :=
  (found.1, found.2 ++ rest)

/-- The end of a text starts at a position between two of its characters. -/
theorem exists_splits_of_suffix {text rest : List Char} (h : rest <:+ text) :
    ∃ (position : (String.ofList text).Pos) (taken : String),
      position.Splits taken (String.ofList rest) := by
  obtain ⟨taken, rfl⟩ := h
  have hvalid : String.Pos.Raw.IsValid (String.ofList (taken ++ rest))
      (String.ofList taken).rawEndPos :=
    String.Pos.Raw.isValid_iff_exists_append.mpr ⟨_, _, String.ofList_append, rfl⟩
  exact ⟨⟨_, hvalid⟩, String.ofList taken, ⟨String.ofList_append, rfl⟩⟩

/-! ## Quotes -/

section

variable {text left rest : List Char}

/-- The quote that opens a piece is found whatever follows the piece. -/
theorem splitQuote_followed (h : EndsPiece rest) (text : List Char) :
    splitQuote (text ++ rest) = ((splitQuote text).1, (splitQuote text).2 ++ rest) := by
  cases text with
  | nil =>
      cases rest with
      | nil => rfl
      | cons c others => simp [splitQuote, h.head_eq_false sparesEnds_isQuote]
  | cons c text => cases hc : isQuote c <;> simp [splitQuote, hc]

theorem splitQuote_suffix (text : List Char) : (splitQuote text).2 <:+ text := by
  cases text with
  | nil => exact List.suffix_refl _
  | cons c text => cases hc : isQuote c <;> simp [splitQuote, hc]

/-- The opening quote is one. -/
theorem isQuote_of_splitQuote {quote : Char} (h : (splitQuote text).1 = some quote) :
    isQuote quote = true := by
  cases text with
  | nil => cases h
  | cons c text => cases hc : isQuote c <;> simp_all [splitQuote]

/-- The quote that closes a piece is found whatever follows it. -/
theorem closeQuote_followed {quote : Option Char} (h : closeQuote quote text = some left)
    (rest : List Char) : closeQuote quote (text ++ rest) = some (left ++ rest) := by
  cases quote with
  | none => simp_all [closeQuote]
  | some quote =>
      cases text with
      | nil => cases h
      | cons c text =>
          simp only [closeQuote, List.cons_append] at h ⊢
          split at h
          · next hc => simp_all
          · cases h

theorem closeQuote_suffix {quote : Option Char} (h : closeQuote quote text = some left) :
    left <:+ text := by
  cases quote with
  | none => simp_all [closeQuote]
  | some quote =>
      cases text with
      | nil => cases h
      | cons c text =>
          simp only [closeQuote] at h
          split at h
          · cases h
            exact List.suffix_cons _ _
          · cases h

/-- **A quoted text is read whatever follows it**, as long as that is not another quote. -/
theorem quotedBody_followed {quote : Char} {body : List Char}
    (h : quotedBody quote text = some (body, left)) (hrest : rest.head? ≠ some quote) :
    quotedBody quote (text ++ rest) = some (body, left ++ rest) := by
  fun_induction quotedBody quote text generalizing body with
  | case1 => cases h
  | case2 =>
      cases h
      cases rest with
      | nil => simp [quotedBody]
      | cons d others =>
          have hd : d ≠ quote := by simpa using hrest
          simp [quotedBody, hd]
  | case3 c hc => cases h
  | case4 others ih =>
      obtain ⟨⟨inner, behind⟩, hinner, heq⟩ := Option.map_eq_some_iff.mp h
      cases heq
      simp [quotedBody, ih hinner]
  | case5 d others hd =>
      cases h
      simp [quotedBody, hd]
  | case6 c d others hc ih =>
      obtain ⟨⟨inner, behind⟩, hinner, heq⟩ := Option.map_eq_some_iff.mp h
      cases heq
      have hnext := ih hinner
      rw [List.cons_append] at hnext
      simp [quotedBody_cons_ne hc, hnext]

theorem quotedBody_suffix {quote : Char} {body : List Char}
    (h : quotedBody quote text = some (body, left)) : left <:+ text := by
  fun_induction quotedBody quote text generalizing body with
  | case1 => cases h
  | case2 =>
      cases h
      exact List.nil_suffix
  | case3 c hc => cases h
  | case4 others ih =>
      obtain ⟨⟨inner, behind⟩, hinner, heq⟩ := Option.map_eq_some_iff.mp h
      cases heq
      exact (ih hinner).trans ((List.suffix_cons _ _).trans (List.suffix_cons _ _))
  | case5 d others hd =>
      cases h
      exact List.suffix_cons _ _
  | case6 c d others hc ih =>
      obtain ⟨⟨inner, behind⟩, hinner, heq⟩ := Option.map_eq_some_iff.mp h
      cases heq
      exact (ih hinner).trans (List.suffix_cons _ _)

end

end RowBind.Text
