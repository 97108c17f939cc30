import Guidebook.Text.CaseFold
import Guidebook.Text.Lowercase

/-!
# Wildcard patterns

A pattern is a text in which `*` stands for any run of characters without a line
feed; every other character stands for itself up to simple case folding.  The
whole text has to match.  The match is computed over all tails of the text at
once, one pattern character after the other from the last to the first, so its
cost is the product of the two lengths.

A library makes patterns into matchers and may refuse a pattern, as when its matcher
would be too large.  Which patterns it refuses is left open.
-/

namespace Guidebook.Query.Wildcard

/-- For every tail of `text`, longest first, whether it is empty. -/
def atEnd : (text : List Char) → List Bool
  | [] => [true]
  | _ :: text => false :: atEnd text

/-- For every tail, whether its first character is `letter` and the tail after it
matches what comes next in the pattern. -/
def literalRow (letter : Char) : (text : List Char) → (next : List Bool) → List Bool
  | c :: text, _ :: next =>
      (Text.sameFold letter c && next.headD false) :: literalRow letter text next
  | _, _ => [false]

/-- For every tail, whether it matches what comes next in the pattern after some
run of characters without a line feed. -/
def anyRow : (text : List Char) → (next : List Bool) → List Bool
  | c :: text, here :: next =>
      let row := anyRow text next
      (here || (c != '\n' && row.headD false)) :: row
  | _, next => [next.headD false]

/-- For every tail of `text`, longest first, whether it matches the pattern. -/
def row (text : List Char) : (pattern : List Char) → List Bool
  | [] => atEnd text
  | letter :: pattern =>
      if letter = '*' then anyRow text (row text pattern)
      else literalRow letter text (row text pattern)

/-- Whether the whole text matches the pattern. -/
def isMatch (pattern text : List Char) : Bool :=
  (row text pattern).headD false

/-- A compiler makes patterns into matchers. -/
class Compiler where
  /-- Why a pattern cannot be made into a matcher, if it cannot. -/
  refusal? : (pattern : List Char) → Option String
  /-- The case of ASCII letters does not count. -/
  refusal?_map_asciiLower : ∀ pattern, refusal? (pattern.map Text.asciiLower) = refusal? pattern

namespace Compiler

theorem asciiLower_eq_star_iff {c : Char} : Text.asciiLower c = '*' ↔ c = '*' := by
  have letters : ∀ code < 91, 65 ≤ code → Char.ofNat (code + 32) ≠ '*' := by decide
  unfold Text.asciiLower
  split
  · next capital =>
      have above : 65 ≤ c.toNat := UInt32.le_iff_toNat_le.mp capital.1
      have below : c.toNat ≤ 90 := UInt32.le_iff_toNat_le.mp capital.2
      refine iff_of_false (letters c.toNat (by omega) above) ?_
      rintro rfl
      exact absurd above (by decide)
  · rfl

/-- The stars of a pattern stay when its letters change their case. -/
theorem count_star_map_asciiLower (pattern : List Char) :
    (pattern.map Text.asciiLower).count '*' = pattern.count '*' := by
  rw [List.count_eq_countP, List.countP_map, List.count_eq_countP]
  apply List.countP_congr
  intro c _
  simp [asciiLower_eq_star_iff]

/-- A compiler that makes matchers of all patterns with up to ten thousand stars. -/
@[reducible] def bounded : Compiler where
  refusal? pattern :=
    if 10000 < pattern.count '*' then some "Compiled regex exceeds size limit of 10485760 bytes."
    else none
  refusal?_map_asciiLower pattern := by rw [count_star_map_asciiLower]

end Compiler

export Compiler (refusal?)

end Guidebook.Query.Wildcard
