import RowBind.Proofs.Text.Pieces
import RowBind.Text.LetterCase

/-!
# What changes in lower case

The characters with a lower case of their own are the upper case letters that have one, and the
title case letters: digraphs such as `ǅ`, of which only the first half is a capital, and Greek
capitals with an iota.

Lower case is written once and for all: no character that it writes changes in lower case
again.  So a text does not change exactly if none of its characters does, although what the
capital sigma becomes depends on its neighbours.

That the tables are made so is settled run by run, and not for every code point there is: the
runs of letters that move are in order, so they can be matched against those of upper case
letters, and a run that was moved is held against the others by its ends and its parity.

Main statements: `isUpper_or_isTitle` and `lowerChar_of_mem_lowerChar`, which characters change
and which do not; `toLower_eq_self_iff` and `toLower_toLower`, the same for texts.
-/

namespace RowBind.Text

/-! ## Letters that change -/

/-- The title case letters, the category `Lt` of Unicode. -/
def titleRanges : CodeRanges :=
  [(0x1C5, 0x1C5), (0x1C8, 0x1C8), (0x1CB, 0x1CB), (0x1F2, 0x1F2), (0x1F88, 0x1F8F),
   (0x1F98, 0x1F9F), (0x1FA8, 0x1FAF), (0x1FBC, 0x1FBC), (0x1FCC, 0x1FCC), (0x1FFC, 0x1FFC)]

/-- The character is a title case letter. -/
def isTitle (c : Char) : Bool :=
  titleRanges.contains c

namespace CodeRun

theorem contains_eq_true_iff {run : CodeRun} {n : Nat} :
    run.contains n = true ↔
      run.first ≤ n ∧ n ≤ run.last ∧ (n - run.first) % run.step = 0 := by
  simp [contains, and_assoc]

/-- The code points of a run. -/
def points (run : CodeRun) : List Nat :=
  (List.range' run.first (run.last + 1 - run.first)).filter run.contains

theorem mem_points_iff {run : CodeRun} {n : Nat} : n ∈ run.points ↔ run.contains n = true := by
  rw [points, List.mem_filter, List.mem_range'_1]
  refine and_iff_right_of_imp fun h => ?_
  have hwithin := contains_eq_true_iff.mp h
  omega

/-- The run at a distance from another. -/
def shift (run : CodeRun) (distance : Int) : CodeRun :=
  ⟨(run.first + distance).toNat, (run.last + distance).toNat, run.step⟩

theorem contains_shift {run : CodeRun} {distance : Int} (hstart : 0 ≤ run.first + distance)
    {n : Nat} (h : run.contains n = true) :
    (run.shift distance).contains (n + distance).toNat = true := by
  obtain ⟨hfirst, hlast, hstep⟩ := contains_eq_true_iff.mp h
  have hoffset : (n + distance).toNat - (run.first + distance).toNat = n - run.first := by omega
  refine contains_eq_true_iff.mpr ⟨?_, ?_, ?_⟩
  · simp only [shift]
    omega
  · simp only [shift]
    omega
  · simp only [shift, hoffset, hstep]

/-- One run ends before the other begins, or both have every second code point, those of one
being odd and those of the other even. -/
def apart (a b : CodeRun) : Bool :=
  Nat.blt a.last b.first || Nat.blt b.last a.first ||
    (a.step == 2 || a.first == a.last) && b.step == 2 && (a.first + b.first) % 2 == 1

/-- Such runs have no code point in common. -/
theorem contains_eq_false_of_apart {a b : CodeRun} (h : a.apart b = true) {n : Nat}
    (ha : a.contains n = true) : b.contains n = false := by
  rw [Bool.eq_false_iff]
  intro hb
  obtain ⟨hafirst, halast, hastep⟩ := contains_eq_true_iff.mp ha
  obtain ⟨hbfirst, hblast, hbstep⟩ := contains_eq_true_iff.mp hb
  simp only [apart, Bool.or_eq_true, Bool.and_eq_true, Nat.blt_eq, beq_iff_eq] at h
  obtain (hbefore | hbehind) | ⟨⟨hsparse | hsingle, htwo⟩, hparity⟩ := h
  · omega
  · omega
  · rw [hsparse] at hastep
    rw [htwo] at hbstep
    omega
  · rw [htwo] at hbstep
    omega

end CodeRun

/-- What an ascending list has beyond another one, found in one pass over both. -/
def beyond : List Nat → List Nat → List Nat
  | [], _ => []
  | n :: ns, others =>
    match others.dropWhile (Nat.blt · n) with
    | [] => n :: ns
    | m :: others => if m = n then beyond ns others else n :: beyond ns (m :: others)

theorem mem_or_mem_beyond {ns others : List Nat} {n : Nat} (h : n ∈ ns) :
    n ∈ others ∨ n ∈ beyond ns others := by
  induction ns generalizing others with
  | nil => cases h
  | cons first ns ih =>
      have hlater {m : Nat} (hm : m ∈ others.dropWhile (Nat.blt · first)) : m ∈ others :=
        (List.dropWhile_sublist _).subset hm
      rw [beyond]
      split
      · exact .inr h
      · next m rest hrest =>
        rw [hrest] at hlater
        by_cases hsame : m = first
        · rw [if_pos hsame]
          obtain rfl | hin := List.mem_cons.mp h
          · exact .inl (hlater (hsame ▸ List.mem_cons_self))
          · exact (ih hin).imp_left fun hm => hlater (List.mem_cons_of_mem _ hm)
        · rw [if_neg hsame]
          obtain rfl | hin := List.mem_cons.mp h
          · exact .inr List.mem_cons_self
          · exact (ih hin).imp hlater (List.mem_cons_of_mem _)

/-- The characters that change in lower case. -/
def changingRuns : List CodeRun :=
  ⟨0x130, 0x130, 1⟩ :: lowerRuns.map fun (run, _) => run

/-- What they become, as far as that is a single character. -/
def loweredRuns : List CodeRun :=
  lowerRuns.map fun (run, distance) => run.shift distance

set_option maxRecDepth 10000 in
theorem lowerRuns_start : ∀ entry ∈ lowerRuns, 0 ≤ entry.1.first + entry.2 := by
  decide

/-- No character becomes one that changes. -/
theorem loweredRuns_apart :
    (loweredRuns.all fun lowered => changingRuns.all fun run => lowered.apart run) = true := by
  decide +kernel

set_option maxRecDepth 10000 in
theorem changingRuns_zero : ∀ run ∈ changingRuns, run.contains 0 = false := by
  decide

set_option maxRecDepth 10000 in
theorem titleRanges_change : ∀ range ∈ titleRanges,
    ∀ n ∈ List.range' range.1 (range.2 + 1 - range.1),
      lowerChar (Char.ofNat n) ≠ [Char.ofNat n] := by
  decide

/-- Beyond the upper case letters only title case letters change. -/
theorem beyond_uppercaseRuns :
    ∀ n ∈ beyond (lowerRuns.flatMap (·.1.points)) (uppercaseRuns.flatMap (·.points)),
      CodeRanges.holds n titleRanges = true := by
  decide +kernel

/-- A character stays as it is, or it is the capital with a dot above, or it moves by the
distance of its run. -/
theorem lowerChar_cases (c : Char) :
    lowerChar c = [c] ∨ c = 'İ' ∧ lowerChar c = ['i', '\u0307'] ∨
      ∃ entry ∈ lowerRuns, entry.1.contains c.toNat = true ∧
        lowerChar c = [Char.ofNat (c.toNat + entry.2).toNat] := by
  rw [lowerChar, mapCase]
  split
  · next n image hspecial =>
    have hmem : (n, image) ∈ [(0x130, [0x69, 0x307])] := List.mem_of_find?_eq_some hspecial
    have hsame : n = c.toNat := by simpa using List.find?_some hspecial
    obtain ⟨rfl, rfl⟩ := Prod.mk.inj (List.mem_singleton.mp hmem)
    have hc : c = 'İ' := by rw [← Char.ofNat_toNat c, ← hsame]
    exact .inr (.inl ⟨hc, rfl⟩)
  · split
    · next run distance hrun =>
      exact .inr (.inr ⟨(run, distance), List.mem_of_find?_eq_some hrun,
        by simpa using List.find?_some hrun, rfl⟩)
    · exact .inl rfl

/-- A character that is none of those that change stays as it is. -/
theorem lowerChar_eq_self {c : Char} (h : ∀ run ∈ changingRuns, run.contains c.toNat = false) :
    lowerChar c = [c] := by
  obtain hsame | ⟨rfl, -⟩ | ⟨entry, hmem, hcontains, -⟩ := lowerChar_cases c
  · exact hsame
  · exact absurd (h _ List.mem_cons_self) (by decide)
  · rw [h entry.1 (List.mem_cons_of_mem _ (List.mem_map_of_mem hmem))] at hcontains
    cases hcontains

/-- A number is that of a character, or it stands for the first character of all. -/
theorem toNat_ofNat (n : Nat) : (Char.ofNat n).toNat = n ∨ (Char.ofNat n).toNat = 0 := by
  by_cases h : n.isValidChar
  · rw [Char.ofNat, dif_pos h]
    exact .inl rfl
  · rw [Char.ofNat, dif_neg h]
    exact .inr rfl

/-- What a character becomes stays as it is. -/
theorem lowerChar_of_mem_lowerChar {c d : Char} (h : d ∈ lowerChar c) : lowerChar d = [d] := by
  obtain hsame | ⟨-, hdotted⟩ | ⟨entry, hmem, hcontains, hmoved⟩ := lowerChar_cases c
  · rw [hsame, List.mem_singleton] at h
    rw [h, hsame]
  · rw [hdotted] at h
    simp only [List.mem_cons, List.not_mem_nil, or_false] at h
    obtain rfl | rfl := h <;> decide
  · rw [hmoved, List.mem_singleton] at h
    have hlowered := CodeRun.contains_shift (lowerRuns_start entry hmem) hcontains
    refine lowerChar_eq_self fun run hrun => ?_
    rw [h]
    obtain hcode | hzero := toNat_ofNat (c.toNat + entry.2).toNat
    · rw [hcode]
      have hapart := List.all_eq_true.mp
        (List.all_eq_true.mp loweredRuns_apart _ (List.mem_map_of_mem hmem)) run hrun
      exact CodeRun.contains_eq_false_of_apart hapart hlowered
    · rw [hzero]
      exact changingRuns_zero run hrun

/-- **The letters that change in lower case are upper case letters or title case letters.** -/
theorem isUpper_or_isTitle {c : Char} (h : lowerChar c ≠ [c]) :
    isUpper c = true ∨ isTitle c = true := by
  obtain hsame | ⟨rfl, -⟩ | ⟨entry, hmem, hcontains, -⟩ := lowerChar_cases c
  · exact absurd hsame h
  · exact .inl (by decide)
  · have hpoint : c.toNat ∈ lowerRuns.flatMap (·.1.points) :=
      List.mem_flatMap.mpr ⟨entry, hmem, CodeRun.mem_points_iff.mpr hcontains⟩
    obtain hupper | htitle := mem_or_mem_beyond hpoint
    · obtain ⟨run, hrun, hin⟩ := List.mem_flatMap.mp hupper
      exact .inl (List.any_eq_true.mpr ⟨run, hrun, CodeRun.mem_points_iff.mp hin⟩)
    · exact .inr (beyond_uppercaseRuns _ htitle)

/-- Title case letters change. -/
theorem lowerChar_ne_self_of_isTitle {c : Char} (h : isTitle c = true) : lowerChar c ≠ [c] := by
  obtain ⟨range, hmem, hwithin⟩ := CodeRanges.exists_mem_of_contains h
  have hletter := titleRanges_change range hmem c.toNat (List.mem_range'_1.mpr (by omega))
  rwa [Char.ofNat_toNat] at hletter

/-! ## Texts that change -/

/-- The capital sigma changes, and what it becomes stays as it is. -/
theorem lowerChar_sigma : lowerChar 'Σ' ≠ ['Σ'] ∧ lowerChar 'σ' = ['σ'] ∧ lowerChar 'ς' = ['ς'] := by
  decide

/-- A text does not change if none of its characters does. -/
theorem lowerAfter_eq_self {text : List Char} (h : ∀ c ∈ text, lowerChar c = [c])
    (before : List Char) : lowerAfter before text = text := by
  induction text generalizing before with
  | nil => rfl
  | cons c text ih =>
      obtain ⟨hc, htext⟩ := List.forall_mem_cons.mp h
      have hsigma : c ≠ 'Σ' := by
        rintro rfl
        exact lowerChar_sigma.1 hc
      simp [lowerAfter, hsigma, hc, ih htext]

/-- What lower case writes stays as it is. -/
theorem lowerChar_of_mem_lowerAfter {before text : List Char} {c : Char}
    (h : c ∈ lowerAfter before text) : lowerChar c = [c] := by
  induction text generalizing before with
  | nil => cases h
  | cons d text ih =>
      rw [lowerAfter] at h
      obtain himage | hrest := List.mem_append.mp h
      · split at himage
        · split at himage <;> rw [List.mem_singleton.mp himage]
          · exact lowerChar_sigma.2.2
          · exact lowerChar_sigma.2.1
        · exact lowerChar_of_mem_lowerChar himage
      · exact ih hrest

/-- **A text does not change exactly if none of its characters does.** -/
theorem toLower_eq_self_iff {text : List Char} :
    toLower text = text ↔ ∀ c ∈ text, lowerChar c = [c] := by
  refine ⟨fun h c hc => ?_, fun h => lowerAfter_eq_self h []⟩
  rw [← h] at hc
  exact lowerChar_of_mem_lowerAfter hc

/-- Lower case is written once and for all. -/
theorem toLower_toLower (text : List Char) : toLower (toLower text) = toLower text :=
  toLower_eq_self_iff.mpr fun _ => lowerChar_of_mem_lowerAfter

end RowBind.Text
