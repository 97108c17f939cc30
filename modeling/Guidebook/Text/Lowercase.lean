import Guidebook.Text.Lowercase.Table

/-!
# Lower case

The Unicode lower-case map of a text.  It goes letter by letter but for two
letters: `İ` becomes two characters, and `Σ` becomes `ς` at the end of a word
and `σ` elsewhere, where the end of a word is read off the nearest characters
that are not case-ignorable on its two sides.
-/

namespace Guidebook.Text

/-- The small letter of an ASCII capital; every other character stays. -/
def asciiLower (c : Char) : Char :=
  if 'A' ≤ c ∧ c ≤ 'Z' then Char.ofNat (c.toNat + 32) else c

/-- It is the lower-case map of the core library, which knows ASCII letters only. -/
theorem asciiLower_eq_toLower (c : Char) : asciiLower c = c.toLower := by
  unfold asciiLower Char.toLower
  by_cases capital : 'A' ≤ c ∧ c ≤ 'Z'
  · have above : 65 ≤ c.toNat := UInt32.le_iff_toNat_le.mp capital.1
    have below : c.toNat ≤ 90 := UInt32.le_iff_toNat_le.mp capital.2
    have valid : (c.toNat + 32).isValidChar := Or.inl (by omega)
    have shifted : (c.val + ('a'.val - 'A'.val)).toNat = c.toNat + 32 := by
      rw [UInt32.toNat_add]
      change (c.toNat + 32) % 4294967296 = _
      omega
    rw [if_pos capital, dif_pos (show c.val ≥ 'A'.val ∧ c.val ≤ 'Z'.val from capital)]
    apply Char.ext
    apply UInt32.toNat_inj.mp
    rw [shifted, Char.ofNat, dif_pos valid]
    rfl
  · rw [if_neg capital, dif_neg (show ¬(c.val ≥ 'A'.val ∧ c.val ≤ 'Z'.val) from capital)]

/-- Equality of texts up to the case of ASCII letters. -/
def eqAsciiFold (left right : List Char) : Bool :=
  left.map asciiLower == right.map asciiLower

/-- The property `Cased`. -/
def isCased (c : Char) : Bool :=
  if c.val < 0x80 then
    ('A' ≤ c && c ≤ 'Z') || ('a' ≤ c && c ≤ 'z')
  else inRanges casedRanges c.val

/-- The property `Case_Ignorable`. -/
def isCaseIgnorable (c : Char) : Bool :=
  if c.val < 0x80 then
    c == '\'' || c == '.' || c == ':' || c == '^' || c == '\x60'
  else inRanges caseIgnorableRanges c.val

/-- The lower-case map of one character that stands alone. -/
def lowerChar (c : Char) : List Char :=
  if c.val < 0x80 then [asciiLower c]
  else if c == 'İ' then ['i', '\u0307']
  else [Char.ofNat (CaseRange.image lowerRanges c.val)]

/-- Whether the first character that is not case-ignorable is cased. -/
def startsCased (text : List Char) : Bool :=
  match text.dropWhile isCaseIgnorable with
  | [] => false
  | c :: _ => isCased c

/-- The small sigma between two texts, the first of which is given backwards. -/
def lowerSigma (before after : List Char) : Char :=
  if startsCased before && !startsCased after then 'ς' else 'σ'

/-- The lower-case map of a text that comes after `before`, given backwards. -/
def lowerAfter (before : List Char) : List Char → List Char
  | [] => []
  | c :: rest =>
      (if c == 'Σ' then [lowerSigma before rest] else lowerChar c) ++
        lowerAfter (c :: before) rest

/-- The lower-case map of a text. -/
def lower (text : List Char) : List Char :=
  lowerAfter [] text

/-- Equality of texts up to case.  Equality up to the case of ASCII letters is
looked at first, because it decides most comparisons. -/
def eqFold (left right : List Char) : Bool :=
  eqAsciiFold left right || lower left == lower right

end Guidebook.Text
