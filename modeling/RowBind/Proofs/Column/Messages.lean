import RowBind.Column.Type
import RowBind.Proofs.Column.Pieces
import RowBind.Proofs.Text.Excerpt
import RowBind.Proofs.Uuid.Faults

/-!
# Messages stay short

A text that is not read may be of any length, but the message about it is not.  It is put
together from a few words, the name of a type, and excerpts; what parsers of other libraries
add does not grow with the text either.

So the readers are looked through for their failures, and every message is taken to pieces: the
excerpts, of the text itself or of what was left of it, and the words between them.  Neither of
them says more than the type allows, and there are only so many.

Main statements: `worded_scalar` and `worded_type`, the messages of scalars and of types built
from them; and `messages_short`, what is to be expected of the messages of a type.
-/

namespace RowBind

open Number Calendar Text

/-! ## What messages are made of -/

/-- The phrases that are the same for all types and texts. -/
inductive Phrase where
  | cannotParse | quotedAs | value | parsedAs | notConsumed | remaining | endRemaining
  | cannotExtract | fromText | endQuote | quotedOutOfRange | number | colon | outOfRange
  | unterminatedQuote | noBool | noFloat | unterminatedString | noDecimal | noUuid | noCalendar

/-- The phrase as it stands in a message. -/
def Phrase.text : Phrase → String
  | cannotParse => "Cannot parse `"
  | quotedAs => "` as "
  | value => "Value `"
  | parsedAs => "` parsed correctly as "
  | notConsumed => " but it did not consume all the input "
  | remaining => "(remaining: `"
  | endRemaining => "`)"
  | cannotExtract => "Cannot extract "
  | fromText => " from `"
  | endQuote => "`"
  | quotedOutOfRange => "` is out of range for "
  | number => "Value "
  | colon => ": "
  | outOfRange => " is out of range for "
  | unterminatedQuote => "Unterminated quote while extracting "
  | noBool => "Cannot parse boolean from `"
  | noFloat => "Cannot extract a floating point value from `"
  | unterminatedString => "Unterminated string `"
  | noDecimal => "Cannot extract Decimal from `"
  | noUuid => "Cannot extract a uuid value from `"
  | noCalendar => "Cannot extract from `"

/-- What parsers of other libraries say of a text that they do not read. -/
inductive ForeignWords : String → Prop
  | float : ForeignWords Cause.malformedFloat.message
  | uuid {text : List Char} {fault : Uuid.Fault} (hlength : text.length ≤ Uuid.textLength)
      (h : Uuid.fault? text = some fault) : ForeignWords (Cause.malformedUuid fault).message
  | time (field : Calendar.Fields.Refused) : ForeignWords (Cause.noSuchTime field).message

/-- What stands between the excerpts of a message about a type of one of the names. -/
inductive MessageWord (names : List String) : String → Prop
  | fixed (phrase : Phrase) : MessageWord names phrase.text
  | name {type : String} (h : type ∈ names) : MessageWord names type
  /-- A number that was read and lies out of the range of the type. -/
  | number (signed : Bool) {n : Int} (h : (wideKind signed).Holds n) :
      MessageWord names (toString n)
  /-- The range in which numbers are read. -/
  | range (signed : Bool) : MessageWord names (wideKind signed).name
  | foreign {words : String} (h : ForeignWords words) : MessageWord names words

/-- The message is put together from so many excerpts, of the text or of its end, and so many
words. -/
inductive Worded (names : List String) (text : List Char) :
    (excerpts words : Nat) → String → Prop
  | excerpt {part quoted : List Char} (h : part <:+ text) (hquoted : IsExcerpt part quoted) :
      Worded names text 1 0 (String.ofList quoted)
  | word {word : String} (h : MessageWord names word) : Worded names text 0 1 word
  | append {excerpts words moreExcerpts moreWords : Nat} {first rest : String}
      (hfirst : Worded names text excerpts words first)
      (hrest : Worded names text moreExcerpts moreWords rest) :
      Worded names text (excerpts + moreExcerpts) (words + moreWords) (first ++ rest)

variable {names : List String} {text : List Char}

namespace Worded

theorem fixed (phrase : Phrase) : Worded names text 0 1 phrase.text :=
  .word (.fixed phrase)

theorem name {type : String} (h : type ∈ names) : Worded names text 0 1 type :=
  .word (.name h)

/-- The excerpts of messages are excerpts. -/
theorem quote {part : List Char} (h : part <:+ text) :
    Worded names text 1 0 (excerptOf (String.ofList part)) := by
  rw [excerptOf, String.toList_ofList]
  exact .excerpt h (isExcerpt_excerpt part)

/-- A text that is quoted behind a phrase. -/
theorem quoting (before : Phrase) :
    Worded names text 1 2 (before.text ++ excerptOf (String.ofList text) ++ "`") :=
  ((fixed before).append (quote (List.suffix_refl text))).append (fixed .endQuote)

/-- A text that is quoted in front of the name of a type. -/
theorem quotingFor (before between : Phrase) {type : String} (hname : type ∈ names) :
    Worded names text 1 3
      (before.text ++ excerptOf (String.ofList text) ++ between.text ++ type) :=
  (((fixed before).append (quote (List.suffix_refl text))).append
    (fixed between)).append (name hname)

/-- A text that is quoted behind the name of a type. -/
theorem naming (before : Phrase) {type : String} (hname : type ∈ names) :
    Worded names text 1 4
      (before.text ++ type ++ " from `" ++ excerptOf (String.ofList text) ++ "`") :=
  ((((fixed before).append (name hname)).append (fixed .fromText)).append
    (quote (List.suffix_refl text))).append (fixed .endQuote)

/-- A number is told in digits of its own, so it is no part of the text. -/
theorem numbering {signed : Bool} {n : Int} {type : String} (hwide : (wideKind signed).Holds n)
    (hname : type ∈ names) :
    Worded names text 0 6 ("Value " ++ toString n ++ ": " ++ (wideKind signed).name ++
      " is out of range for " ++ type) :=
  (((((fixed .number).append (.word (.number signed hwide))).append (fixed .colon)).append
    (.word (.range signed))).append (fixed .outOfRange)).append (name hname)

end Worded

/-- The message is put together from at most two excerpts and six words. -/
def ShortlyWorded (names : List String) (text : List Char) (message : String) : Prop :=
  ∃ excerpts ≤ 2, ∃ words ≤ 6, Worded names text excerpts words message

theorem Worded.shortly {excerpts words : Nat} {message : String}
    (h : Worded names text excerpts words message) (hexcerpts : excerpts.ble 2 = true)
    (hwords : words.ble 6 = true) : ShortlyWorded names text message :=
  ⟨excerpts, Nat.le_of_ble_eq_true hexcerpts, words, Nat.le_of_ble_eq_true hwords, h⟩

/-! ## Failures of scalars -/

theorem failFor_eq_error_iff {α : Type} {cause : Cause} {failure : Failure} :
    (failFor cause : Outcome α) = .error failure ↔ failure = .of cause := by
  rw [failFor, Except.error.injEq, eq_comm]

variable {failure : Failure}

theorem worded_bool (h : readBool text = .error failure) :
    ShortlyWorded names text failure.message := by
  unfold readBool at h
  split at h
  · cases h
  · obtain rfl := failFor_eq_error_iff.mp h
    exact (Worded.quoting .noBool).shortly rfl rfl

/-- The digits that were read are those of a number of 128 bits. -/
theorem holds_of_scanNumber {signed : Bool} {number : Int}
    (h : (scanNumber signed text).number = some number) : (wideKind signed).Holds number := by
  obtain ⟨found, -, rfl⟩ := Option.map_eq_some_iff.mp h
  exact found.holds

theorem worded_integer {kind : IntKind} {type : String} (hname : type ∈ names)
    (h : readInteger kind type text = .error failure) :
    ShortlyWorded names text failure.message := by
  simp only [readInteger] at h
  split at h
  · obtain rfl := failFor_eq_error_iff.mp h
    exact (Worded.naming .cannotExtract hname).shortly rfl rfl
  · split at h
    · obtain rfl := failFor_eq_error_iff.mp h
      exact (Worded.quotingFor .value .quotedOutOfRange hname).shortly rfl rfl
    · next number hnumber =>
      split at h
      · next hnarrow =>
        rw [narrow] at hnarrow
        split at hnarrow
        · cases hnarrow
        · cases h
          obtain rfl := failFor_eq_error_iff.mp hnarrow
          exact (Worded.numbering (holds_of_scanNumber hnumber) hname).shortly rfl rfl
      · split at h
        · cases h
        · obtain rfl := failFor_eq_error_iff.mp h
          exact (Worded.naming .unterminatedQuote hname).shortly rfl rfl

theorem worded_float {p : Precision} (h : readFloat p text = .error failure) :
    ShortlyWorded names text failure.message := by
  simp only [readFloat] at h
  split at h
  · cases h
    exact (((Worded.quoting .noFloat).append (.fixed .colon)).append
      (.word (.foreign .float))).shortly rfl rfl
  · split at h
    · cases h
    · obtain rfl := failFor_eq_error_iff.mp h
      exact (Worded.quoting .noFloat).shortly rfl rfl

theorem worded_text (h : readText text = .error failure) :
    ShortlyWorded names text failure.message := by
  unfold readText at h
  split at h
  · cases h
  · split at h
    · cases h
    · obtain rfl := failFor_eq_error_iff.mp h
      exact (Worded.quoting .unterminatedString).shortly rfl rfl

theorem worded_decimal (h : readDecimalText text = .error failure) :
    ShortlyWorded names text failure.message := by
  unfold readDecimalText at h
  split at h
  · cases h
  · obtain rfl := failFor_eq_error_iff.mp h
    exact (Worded.quoting .noDecimal).shortly rfl rfl

/-- The start of a text that takes so many bytes has no more characters. -/
theorem length_le_of_splitBytes {size : Nat} {taken left : List Char}
    (h : splitBytes size text = some (taken, left)) : taken.length ≤ size := by
  fun_induction splitBytes size text generalizing taken with
  | case1 text =>
      cases h
      exact Nat.le_refl _
  | case2 => cases h
  | case3 size c others hfits ih =>
      obtain ⟨⟨inner, behind⟩, hinner, heq⟩ := Option.map_eq_some_iff.mp h
      cases heq
      have hrest := ih hinner
      have hpos := c.utf8Size_pos
      rw [List.length_cons]
      omega
  | case4 => cases h

theorem worded_uuid (h : readUuid text = .error failure) :
    ShortlyWorded names text failure.message := by
  simp only [readUuid] at h
  split at h
  · obtain rfl := failFor_eq_error_iff.mp h
    exact (Worded.quoting .noUuid).shortly rfl rfl
  · next taken behind hsplit =>
    split at h
    · next fault hfault =>
      cases h
      have hforeign : ForeignWords (Cause.malformedUuid fault).message :=
        .uuid (length_le_of_splitBytes hsplit) (Uuid.read_eq_error_iff.mp hfault)
      exact (((Worded.quoting .noUuid).append (.fixed .colon)).append
        (.word (.foreign hforeign))).shortly rfl rfl
    · split at h
      · cases h
      · obtain rfl := failFor_eq_error_iff.mp h
        exact (Worded.quoting .noUuid).shortly rfl rfl

theorem worded_patterns {α : Type} {type : String} {ofFields? : Fields → Option α}
    {patterns : List Pattern} (hname : type ∈ names)
    (h : readPatterns type ofFields? patterns text = .error failure) :
    ShortlyWorded names text failure.message := by
  induction patterns with
  | nil =>
      obtain rfl := failFor_eq_error_iff.mp h
      exact (Worded.quotingFor .noCalendar .quotedAs hname).shortly rfl rfl
  | cons pattern patterns ih =>
      rw [readPatterns] at h
      split at h
      · exact ih h
      · split at h
        · cases h
        · obtain rfl := failFor_eq_error_iff.mp h
          exact (Worded.word (.foreign (.time _))).shortly rfl rfl

/-- A type that has no text form says so. -/
theorem worded_unreadable {α : Type} {type : String} (hname : type ∈ names)
    (h : (failFor (.unreadable (String.ofList text) type) : Outcome α) = .error failure) :
    ShortlyWorded names text failure.message := by
  obtain rfl := failFor_eq_error_iff.mp h
  exact (Worded.quotingFor .cannotParse .quotedAs hname).shortly rfl rfl

/-- **Messages about scalars.** -/
theorem worded_scalar {s : Scalar} (hname : s.typeName ∈ names)
    (h : s.read text = .error failure) : ShortlyWorded names text failure.message := by
  cases s with
  | bool => exact worded_bool h
  | int kind => exact worded_integer hname h
  | word signed => exact worded_integer hname h
  | float precision => exact worded_float h
  | char => exact worded_unreadable hname h
  | text => exact worded_text h
  | sharedText => exact worded_text h
  | bytes => exact worded_unreadable hname h
  | decimal => exact worded_decimal h
  | uuid => exact worded_uuid h
  | date => exact worded_patterns hname h
  | time => exact worded_patterns hname h
  | timestamp => exact worded_patterns hname h
  | zoned => exact worded_patterns hname h

/-! ## Failures of all types -/

/-- The names of a type and of those that it is built from. -/
def ColumnType.partNames : ColumnType Scalar → List String
  | base s => [s.typeName]
  | optional t => (optional t).typeName :: t.partNames
  | listOf t => (listOf t).typeName :: t.partNames
  | pointer kind t => (pointer kind t).typeName :: t.partNames

theorem ColumnType.typeName_mem_partNames (t : ColumnType Scalar) : t.typeName ∈ t.partNames := by
  cases t <;> exact List.mem_cons_self

theorem length_le_enclosed (before inner behind : String) :
    inner.length ≤ (before ++ inner ++ behind).length := by
  rw [String.length_append, String.length_append]
  omega

/-- A type has a longer name than those that it is built from. -/
theorem ColumnType.length_le_of_mem_partNames {t : ColumnType Scalar} {name : String}
    (h : name ∈ t.partNames) : name.length ≤ t.typeName.length := by
  induction t with
  | base s => exact Nat.le_of_eq (congrArg String.length (List.mem_singleton.mp h))
  | optional t ih | listOf t ih | pointer kind t ih =>
      obtain rfl | hinner := List.mem_cons.mp h
      · exact Nat.le_refl _
      · exact (ih hinner).trans (length_le_enclosed _ _ _)

/-- **Messages about types.** -/
theorem worded_type {t : ColumnType Scalar} (hnames : t.partNames ⊆ names)
    (h : t.read text = .error failure) : ShortlyWorded names text failure.message := by
  induction t generalizing failure with
  | base s => exact worded_scalar (hnames (List.mem_singleton_self _)) h
  | optional t ih =>
      simp only [ColumnType.read] at h
      split at h
      · cases h
      · split at h
        · next hinner =>
          cases h
          exact ih (List.cons_subset.mp hnames).2 hinner
        · cases h
  | listOf t ih => exact worded_unreadable (hnames List.mem_cons_self) h
  | pointer kind t ih =>
      simp only [ColumnType.read] at h
      exact ih (List.cons_subset.mp hnames).2 h

/-- **Messages about whole texts** may quote what is left, too. -/
theorem worded_whole {t : ColumnType Scalar} (h : readAll t text = .error failure) :
    ShortlyWorded t.partNames text failure.message := by
  unfold readAll readAllWith at h
  split at h
  · next hread =>
    cases h
    exact worded_type (List.Subset.refl _) hread
  · cases h
  · next content rest hnil hread =>
    obtain rfl := failFor_eq_error_iff.mp h
    have hrest : rest <:+ text := (ColumnType.readsPieces_type readsPieces_scalar t).suffix hread
    have hfront : Worded t.partNames text 1 4 ("Value `" ++ excerptOf (String.ofList text) ++
        "` parsed correctly as " ++ t.typeName ++ " but it did not consume all the input ") :=
      (Worded.quotingFor .value .parsedAs t.typeName_mem_partNames).append
        (.fixed .notConsumed)
    have hbehind : Worded t.partNames text 1 2
        ("(remaining: `" ++ excerptOf (String.ofList rest) ++ "`)") :=
      ((Worded.fixed .remaining).append (.quote hrest)).append (.fixed .endRemaining)
    exact (hfront.append hbehind).shortly rfl rfl

/-! ## The length of messages -/

theorem Phrase.length_le (phrase : Phrase) : phrase.text.length ≤ 60 := by
  cases phrase <;> decide

theorem ForeignWords.length_le {words : String} (h : ForeignWords words) : words.length ≤ 60 := by
  cases h with
  | float => decide
  | uuid hlength hfault => exact Uuid.message_length_le hlength hfault
  | time field => cases field <;> decide

/-- Numbers of 128 bits have up to 39 digits. -/
theorem natAbs_lt_of_holds_wide {signed : Bool} {n : Int} (h : (wideKind signed).Holds n) :
    n.natAbs < 10 ^ 39 := by
  have hleast : -(10 ^ 39) < (wideKind signed).least := by cases signed <;> decide
  have hgreatest : (wideKind signed).greatest < 10 ^ 39 := by cases signed <;> decide
  obtain ⟨hl, hg⟩ := h
  omega

theorem number_length_le {n : Int} (h : n.natAbs < 10 ^ 39) : (toString n).length ≤ 1 + 39 := by
  cases n with
  | ofNat n => exact (Nat.repr_length n 39 (by decide) h).trans (by decide)
  | negSucc n =>
      have hminus : "-".length ≤ 1 := by decide
      exact length_append_le hminus (Nat.repr_length (n + 1) 39 (by decide) h)

/-- A word is no longer than 60 characters, or than the names of types. -/
theorem MessageWord.length_le {word : String} {limit : Nat} (h : MessageWord names word)
    (hnames : ∀ name ∈ names, name.length ≤ limit) : word.length ≤ max 60 limit := by
  have hwords {word : String} (hword : word.length ≤ 60) : word.length ≤ max 60 limit :=
    hword.trans (Nat.le_max_left 60 limit)
  cases h with
  | fixed phrase => exact hwords phrase.length_le
  | name hname => exact (hnames _ hname).trans (Nat.le_max_right 60 limit)
  | number signed hnumber =>
      exact hwords ((number_length_le (natAbs_lt_of_holds_wide hnumber)).trans (by decide))
  | range signed => exact hwords (by cases signed <;> decide)
  | foreign hforeign => exact hwords hforeign.length_le

/-- A message is no longer than its excerpts and its words. -/
theorem Worded.length_le {excerpts words limit : Nat} {message : String}
    (h : Worded names text excerpts words message)
    (hwords : ∀ word, MessageWord names word → word.length ≤ limit) :
    message.length ≤ excerpts * 500 + words * limit := by
  induction h with
  | excerpt hpart hquoted =>
      rw [String.length_ofList]
      have hshort := hquoted.length_le
      omega
  | word hword =>
      have hshort := hwords _ hword
      omega
  | append hfirst hrest ihf ihr =>
      refine (length_append_le ihf ihr).trans (Nat.le_of_eq ?_)
      simp only [Nat.add_mul]
      omega

/-- The greatest length of a message about a type. -/
def messageBound (t : ColumnType Scalar) : Nat :=
  2 * 500 + 6 * max 60 t.typeName.length

/-- The type does not read the text as a whole, or it reads nothing off its front. -/
def Refuses (t : ColumnType Scalar) (text : List Char) (failure : Failure) : Prop :=
  readAll t text = .error failure ∨ (readOff t text).1 = .error failure

/-- What is to be expected of the messages about a type. -/
structure ShortMessages (t : ColumnType Scalar) : Prop where
  /-- They quote the text by excerpts only. -/
  worded : ∀ {text failure}, Refuses t text failure →
    ShortlyWorded t.partNames text failure.message
  /-- They do not grow with the text. -/
  bounded : ∀ {text failure}, Refuses t text failure → failure.message.length ≤ messageBound t

/-- **Messages stay short**, however long the texts are that are not read.  And an excerpt of
a text is what it ought to be. -/
theorem messages_short :
    (∀ text, IsExcerpt text (excerpt text)) ∧ ∀ t : ColumnType Scalar, ShortMessages t := by
  refine ⟨isExcerpt_excerpt, fun t => ?_⟩
  have hworded {text : List Char} {failure : Failure} (h : Refuses t text failure) :
      ShortlyWorded t.partNames text failure.message := by
    obtain hwhole | hfront := h
    · exact worded_whole hwhole
    · unfold readOff at hfront
      split at hfront
      · next hread =>
        cases hfront
        exact worded_type (List.Subset.refl _) hread
      · cases hfront
  refine ⟨hworded, fun {text failure} h => ?_⟩
  obtain ⟨excerpts, hexcerpts, words, hwords, hmessage⟩ := hworded h
  have hlength := hmessage.length_le fun word hword =>
    hword.length_le fun name hname => ColumnType.length_le_of_mem_partNames hname
  exact hlength.trans (Nat.add_le_add (Nat.mul_le_mul_right 500 hexcerpts)
    (Nat.mul_le_mul_right _ hwords))

end RowBind
