import RowBind.Text.Excerpt
import RowBind.Column.Scalar.Read

/-!
# Where an excerpt is cut

A text is cut by its bytes and measured by its characters.  The cut lies in front of the first
character that is not quoted, at the byte where it begins, or at the end of a text that has no
such character.  So it never goes through a character, however many bytes the characters take.

Main statements: `excerptOfBytes?_eq`, cut by its bytes the text gives its excerpt; and
`isExcerpt_excerpt`, what an excerpt is.
-/

namespace RowBind.Text

/-! ## Blanks at the end -/

/-- A text without the blanks at its end: there are only blanks behind it, and it does not end
in one. -/
structure Trimmed (text kept : List Char) : Prop where
  blanks : ∃ blanks, text = kept ++ blanks ∧ ∀ c ∈ blanks, isBlank c = true
  last : ∀ c, kept.getLast? = some c → isBlank c = false

theorem trimmed_trimEnd (text : List Char) : Trimmed text (trimEnd text) where
  blanks := by
    refine ⟨(text.reverse.takeWhile isBlank).reverse, ?_, fun c hc => ?_⟩
    · rw [trimEnd, ← List.reverse_append, List.takeWhile_append_dropWhile, List.reverse_reverse]
    · exact List.all_eq_true.mp List.all_takeWhile c (List.mem_reverse.mp hc)
  last c hc := by
    rw [trimEnd, List.getLast?_reverse] at hc
    simpa [hc] using List.head?_dropWhile_not isBlank text.reverse

/-! ## The cut -/

/-- The number of bytes of a text. -/
def byteLength : List Char → Nat
  | [] => 0
  | c :: text => c.utf8Size + byteLength text

/-- The bytes at which the characters of a text begin, `start` being that of the first one. -/
def charOffsets (start : Nat) : List Char → List Nat
  | [] => []
  | c :: text => start :: charOffsets (start + c.utf8Size) text

/-- The byte at which a text is cut: where the first character begins that is not quoted, or
else at the end. -/
def cutOffset (text : List Char) : Nat :=
  (charOffsets 0 text)[excerptLength]?.getD (byteLength text)

/-- The excerpt that is cut from the bytes of a text; none if the cut went through a
character. -/
def excerptOfBytes? (text : List Char) : Option (List Char) :=
  (splitBytes (cutOffset text) text).map fun (kept, _) =>
    trimEnd kept ++ (if text.length > excerptLength then ['.', '.', '.'] else [])

/-- A character begins behind the bytes of those before it. -/
theorem charOffsets_getD (start count : Nat) (text : List Char) :
    (charOffsets start text)[count]?.getD (start + byteLength text) =
      start + byteLength (text.take count) := by
  induction text generalizing start count with
  | nil => simp [charOffsets]
  | cons c text ih =>
      cases count with
      | zero => rfl
      | succ count =>
          have hrest := ih (start + c.utf8Size) count
          simpa [charOffsets, byteLength, Nat.add_assoc] using hrest

/-- A text is cut behind the characters that are quoted. -/
theorem cutOffset_eq (text : List Char) :
    cutOffset text = byteLength (text.take excerptLength) := by
  simpa [cutOffset] using charOffsets_getD 0 excerptLength text

/-- A text can be cut behind any of its characters. -/
theorem splitBytes_byteLength (kept rest : List Char) :
    splitBytes (byteLength kept) (kept ++ rest) = some (kept, rest) := by
  induction kept with
  | nil => rw [byteLength, splitBytes, List.nil_append]
  | cons c kept ih =>
      have hsize : byteLength (c :: kept) = c.utf8Size - 1 + byteLength kept + 1 := by
        have hpos := c.utf8Size_pos
        rw [byteLength]
        omega
      have hbehind : c.utf8Size - 1 + byteLength kept + 1 - c.utf8Size = byteLength kept := by
        have hpos := c.utf8Size_pos
        omega
      rw [hsize, List.cons_append, splitBytes, if_pos (by omega), hbehind, ih]
      rfl

/-- **A text is cut between two characters**, and what is kept are those that are quoted. -/
theorem splitBytes_cutOffset (text : List Char) :
    splitBytes (cutOffset text) text =
      some (text.take excerptLength, text.drop excerptLength) := by
  have hcut := splitBytes_byteLength (text.take excerptLength) (text.drop excerptLength)
  rwa [List.take_append_drop, ← cutOffset_eq] at hcut

/-- Cut by its bytes, a text gives its excerpt. -/
theorem excerptOfBytes?_eq (text : List Char) : excerptOfBytes? text = some (excerpt text) := by
  rw [excerptOfBytes?, splitBytes_cutOffset]
  rfl

/-- What an excerpt of a text is. -/
structure IsExcerpt (text quoted : List Char) : Prop where
  length_le : quoted.length ≤ 500
  /-- It comes from a cut between two characters. -/
  cut : excerptOfBytes? text = some quoted
  /-- A text of up to 497 characters only loses the blanks at its end. -/
  short : text.length ≤ 497 → Trimmed text quoted
  /-- Of any other text the first 497 characters are quoted, without blanks at the end. -/
  long : 497 < text.length →
    ∃ kept, Trimmed (text.take 497) kept ∧ quoted = kept ++ ['.', '.', '.']

theorem isExcerpt_excerpt (text : List Char) : IsExcerpt text (excerpt text) where
  length_le := excerpt_length_le text
  cut := excerptOfBytes?_eq text
  short h := by
    rw [excerpt_of_short h]
    exact trimmed_trimEnd text
  long h := ⟨trimEnd (text.take 497), trimmed_trimEnd _, by rw [excerpt, excerptLength, if_pos h]⟩

end RowBind.Text
