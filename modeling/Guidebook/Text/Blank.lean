/-!
# Blank characters

The characters with the Unicode property `White_Space`, and the two cuts of a
text that use them: the words of a text and a text without its blank ends.  The
property holds of the line separators and of the no-break space, and it does not
hold of the zero-width space or of the byte order mark.
-/

namespace Guidebook.Text

/-- The property `White_Space`. -/
def isBlank (c : Char) : Bool :=
  let code := c.val
  (9 ≤ code && code ≤ 13) || code == 0x20 || code == 0x85 || code == 0xA0 ||
    code == 0x1680 || (0x2000 ≤ code && code ≤ 0x200A) || code == 0x2028 ||
    code == 0x2029 || code == 0x202F || code == 0x205F || code == 0x3000

/-- Every blank of the ASCII class is blank. -/
theorem isBlank_of_isWhitespace {c : Char} (blank : c.isWhitespace = true) :
    isBlank c = true := by
  simp only [Char.isWhitespace, Bool.or_eq_true, decide_eq_true_eq] at blank
  rcases blank with ((rfl | rfl) | rfl) | rfl <;> decide

/-- The maximal runs of characters that are not blank, in order. -/
def words : List Char → List (List Char)
  | [] => []
  | c :: rest =>
      if isBlank c then words rest
      else
        match rest with
        | [] => [[c]]
        | next :: _ =>
            if isBlank next then [c] :: words rest
            else
              match words rest with
              | [] => [[c]]
              | word :: others => (c :: word) :: others

@[simp] theorem words_nil : words [] = [] := rfl

theorem words_of_isBlank {c : Char} (blank : isBlank c = true) (rest : List Char) :
    words (c :: rest) = words rest := by
  rw [words.eq_def]
  simp [blank]

/-- The text without the blanks at its start. -/
def trimStart (text : List Char) : List Char :=
  text.dropWhile isBlank

/-- The text without the blanks at its end. -/
def trimEnd (text : List Char) : List Char :=
  (text.reverse.dropWhile isBlank).reverse

/-- The text without the blanks at its two ends. -/
def trim (text : List Char) : List Char :=
  trimEnd (trimStart text)

/-- Every character is blank; so is a text with no characters. -/
def allBlank (text : List Char) : Bool :=
  text.all isBlank

@[simp] theorem allBlank_nil : allBlank [] = true := rfl

@[simp] theorem allBlank_cons (c : Char) (rest : List Char) :
    allBlank (c :: rest) = (isBlank c && allBlank rest) := rfl

end Guidebook.Text
