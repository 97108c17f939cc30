import Guidebook.Text.Blank
import Guidebook.Text.CaseFold
import Guidebook.Text.Lowercase
import Mathlib.Data.List.Chain

/-!
# The case tables

The lower-case map and simple case folding are long tables of runs, so what holds of
all their letters is checked by going through the tables.  A run has few codes, and an
ordered table has few runs around the codes of another run: the check looks an image up
in that part of a table only.
-/

namespace Guidebook.Text

namespace CaseRange

/-- The run holds the code. -/
def holds (range : CaseRange) (code : Nat) : Bool :=
  Nat.ble range.first.toNat code && Nat.ble code range.last.toNat &&
    (code - range.first.toNat) % range.step.toNat == 0

/-- The code at the distance that the run gives. -/
def shifted (range : CaseRange) (code : Nat) : Nat :=
  Int.toNat (code + range.shift)

/-- The codes that the run holds. -/
def codes (range : CaseRange) : List Nat :=
  (List.range ((range.last.toNat - range.first.toNat) / range.step.toNat + 1)).map
    fun number => range.first.toNat + range.step.toNat * number

/-- The image of a code under a table, by the first run that holds the code. -/
def lookup (ranges : List CaseRange) (code : Nat) : Nat :=
  ((ranges.find? (·.holds code)).map (·.shifted code)).getD code

/-- The runs of a table from the first one that does not end before `first`, as long as they
start no later than `last`. -/
def around (first last : Nat) (ranges : List CaseRange) : List CaseRange :=
  (ranges.dropWhile fun range => Nat.blt range.last.toNat first).takeWhile
    fun range => Nat.ble range.first.toNat last

theorem holds_iff {range : CaseRange} {code : Nat} :
    range.holds code = true ↔ range.first.toNat ≤ code ∧ code ≤ range.last.toNat ∧
      (code - range.first.toNat) % range.step.toNat = 0 := by
  simp [holds, and_assoc]

theorem mem_codes_of_holds {range : CaseRange} {code : Nat} (held : range.holds code = true) :
    code ∈ range.codes := by
  obtain ⟨above, below, stepped⟩ := holds_iff.mp held
  have whole := Nat.div_add_mod (code - range.first.toNat) range.step.toNat
  apply List.mem_map.mpr
  refine ⟨(code - range.first.toNat) / range.step.toNat, ?_, by omega⟩
  rw [List.mem_range]
  exact Nat.lt_succ_of_le (Nat.div_le_div_right (by omega))

theorem image?_eq (range : CaseRange) (code : UInt32) :
    range.image? code =
      if range.holds code.toNat then some (range.shifted code.toNat) else none := by
  have held : (range.first ≤ code ∧ code ≤ range.last ∧ (code - range.first) % range.step = 0) ↔
      range.holds code.toNat = true := by
    rw [holds_iff, ← UInt32.le_iff_toNat_le, ← UInt32.le_iff_toNat_le]
    apply and_congr_right
    intro above
    rw [← UInt32.toNat_inj, UInt32.toNat_mod, UInt32.toNat_sub_of_le _ _ above]
    rfl
  simp only [image?, held, shifted]

theorem image_eq_lookup (ranges : List CaseRange) (code : UInt32) :
    image ranges code = lookup ranges code.toNat := by
  unfold image lookup
  congr 1
  induction ranges with
  | nil => rfl
  | cons range ranges ih =>
      rw [List.findSome?_cons, List.find?_cons, image?_eq]
      cases range.holds code.toNat with
      | false => exact ih
      | true => rfl

/-- The image of a code is its image by a run that holds it, or the code itself. -/
theorem lookup_cases (ranges : List CaseRange) (code : Nat) :
    (∃ range ∈ ranges, range.holds code = true ∧ lookup ranges code = range.shifted code) ∨
      lookup ranges code = code := by
  unfold lookup
  cases found : ranges.find? (·.holds code) with
  | none => exact .inr rfl
  | some range =>
      exact .inl ⟨range, List.mem_of_find?_eq_some found, by simpa using List.find?_some found, rfl⟩

/-- The runs of a table start in ascending order. -/
def IsOrdered (ranges : List CaseRange) : Prop :=
  ranges.IsChain fun left right => left.first.toNat ≤ right.first.toNat

instance (ranges : List CaseRange) : Decidable (IsOrdered ranges) :=
  inferInstanceAs (Decidable (List.IsChain _ _))

theorem IsOrdered.pairwise {ranges : List CaseRange} (ordered : IsOrdered ranges) :
    ranges.Pairwise fun left right => left.first.toNat ≤ right.first.toNat := by
  have : IsTrans CaseRange fun left right => left.first.toNat ≤ right.first.toNat :=
    ⟨fun _ _ _ => Nat.le_trans⟩
  exact List.isChain_iff_pairwise.mp ordered

theorem holds_of_lt_first {range : CaseRange} {code : Nat} (before : code < range.first.toNat) :
    range.holds code = false := by
  rw [Bool.eq_false_iff]
  intro held
  have inside := holds_iff.mp held
  omega

theorem holds_of_last_lt {range : CaseRange} {code : Nat} (after : range.last.toNat < code) :
    range.holds code = false := by
  rw [Bool.eq_false_iff]
  intro held
  have inside := holds_iff.mp held
  omega

theorem find?_dropWhile {ranges : List CaseRange} {first code : Nat} (above : first ≤ code) :
    (ranges.dropWhile fun range => Nat.blt range.last.toNat first).find? (·.holds code) =
      ranges.find? (·.holds code) := by
  induction ranges with
  | nil => rfl
  | cons range ranges ih =>
      by_cases passed : range.last.toNat < first
      · have absent := holds_of_last_lt (Nat.lt_of_lt_of_le passed above)
        simp [passed, absent, ih]
      · simp [passed]

theorem find?_takeWhile {ranges : List CaseRange}
    (ordered : ranges.Pairwise fun left right => left.first.toNat ≤ right.first.toNat)
    {last code : Nat} (below : code ≤ last) :
    (ranges.takeWhile fun range => Nat.ble range.first.toNat last).find? (·.holds code) =
      ranges.find? (·.holds code) := by
  induction ranges with
  | nil => rfl
  | cons range ranges ih =>
      obtain ⟨least, later⟩ := List.pairwise_cons.mp ordered
      by_cases reached : range.first.toNat ≤ last
      · simp [reached, ih later, List.find?_cons]
      · -- No later run starts before this one, so none of them holds the code either.
        have absent : ∀ other ∈ range :: ranges, ¬other.holds code = true := by
          intro other member
          rw [Bool.not_eq_true]
          apply holds_of_lt_first
          cases member with
          | head => omega
          | tail _ member =>
              have starts := least other member
              omega
        rw [List.find?_eq_none.mpr absent]
        simp [reached]

/-- The image of a code may be looked up in the part of an ordered table around it. -/
theorem lookup_around {ranges : List CaseRange} (ordered : IsOrdered ranges)
    {first last code : Nat} (above : first ≤ code) (below : code ≤ last) :
    lookup (around first last ranges) code = lookup ranges code := by
  have later := ordered.pairwise.sublist
    (List.dropWhile_sublist fun range => Nat.blt range.last.toNat first)
  unfold lookup around
  rw [find?_takeWhile later below, find?_dropWhile above]

end CaseRange

theorem lowerRanges_isOrdered : CaseRange.IsOrdered lowerRanges := by
  decide +kernel

theorem foldRanges_isOrdered : CaseRange.IsOrdered foldRanges := by
  decide +kernel

/-- The table of simple case folding is about no ASCII character. -/
theorem foldRanges_above_ascii : ∀ range ∈ foldRanges, 0x80 ≤ range.first.toNat := by
  decide +kernel

/-- Stretches of codes of characters, from `a` on, in which nothing is blank and which leave
out `Σ` and `İ`. -/
def letterStretches : List (Nat × Nat) :=
  [(0x61, 0x84), (0xA1, 0x12F), (0x131, 0x3A2), (0x3A4, 0x167F), (0x1681, 0x1FFF),
    (0x2060, 0x2FFF), (0x3001, 0xD7FF), (0xE000, 0x10FFFF)]

/-- The run sends its letters into one of the stretches, to letters that the lower-case map
leaves alone and that fold as the run's letters do. -/
def CaseRange.sendsToSmall (range : CaseRange) : Bool :=
  let first := range.shifted range.first.toNat
  let last := range.shifted range.last.toNat
  letterStretches.any (fun (low, high) => Nat.ble low first && Nat.ble last high) &&
    range.codes.all fun code =>
      let small := range.shifted code
      lookup (around first last lowerRanges) small == small &&
        lookup (around first last foldRanges) small ==
          lookup (around range.first.toNat range.last.toNat foldRanges) code

theorem sendsToSmall_of_mem : ∀ range ∈ lowerRanges, range.sendsToSmall = true := by
  decide +kernel

/-- What the check of a run says of each of its letters. -/
theorem CaseRange.of_holds {range : CaseRange} (member : range ∈ lowerRanges) {code : Nat}
    (held : range.holds code = true) :
    (∃ stretch ∈ letterStretches,
        stretch.1 ≤ range.shifted code ∧ range.shifted code ≤ stretch.2) ∧
      lookup lowerRanges (range.shifted code) = range.shifted code ∧
      lookup foldRanges (range.shifted code) = lookup foldRanges code := by
  have checked := sendsToSmall_of_mem range member
  simp only [sendsToSmall, Bool.and_eq_true, List.any_eq_true, List.all_eq_true, beq_iff_eq,
    Nat.ble_eq] at checked
  obtain ⟨⟨stretch, found, low, high⟩, letters⟩ := checked
  obtain ⟨settled, folds⟩ := letters code (mem_codes_of_holds held)
  obtain ⟨above, below, -⟩ := holds_iff.mp held
  have shiftedAbove : range.shifted range.first.toNat ≤ range.shifted code := by
    simp only [shifted]
    omega
  have shiftedBelow : range.shifted code ≤ range.shifted range.last.toNat := by
    simp only [shifted]
    omega
  rw [lookup_around lowerRanges_isOrdered shiftedAbove shiftedBelow] at settled
  rw [lookup_around foldRanges_isOrdered shiftedAbove shiftedBelow,
    lookup_around foldRanges_isOrdered above below] at folds
  exact ⟨⟨stretch, found, Nat.le_trans low shiftedAbove, Nat.le_trans shiftedBelow high⟩,
    settled, folds⟩

end Guidebook.Text
