/-!
# Sets of characters as sorted ranges

A Unicode property is a set of code points, kept here as the list of its maximal
ranges in ascending order.

Main statement: `contains_cons`, membership is decided range by range, and may stop at
the first range that starts beyond the code point.
-/

namespace RowBind.Text

/-- Ranges of code points, both ends included, in ascending order. -/
abbrev CodeRanges := List (Nat × Nat)

namespace CodeRanges

/-- The code point lies in one of the ranges; the search stops at the first range
that starts beyond it. -/
def holds (n : Nat) : List (Nat × Nat) → Bool
  | [] => false
  | (first, last) :: rest => first ≤ n && (n ≤ last || holds n rest)

/-- The character lies in one of the ranges. -/
def contains (ranges : CodeRanges) (c : Char) : Bool :=
  holds c.toNat ranges

theorem contains_cons (first last : Nat) (rest : CodeRanges) (c : Char) :
    contains ((first, last) :: rest) c =
      (decide (first ≤ c.toNat) && (decide (c.toNat ≤ last) || contains rest c)) := rfl

end CodeRanges

end RowBind.Text
