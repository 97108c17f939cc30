import Guidebook.Proofs.Expandable
import Guidebook.Proofs.Expansion

/-!
# Globs below a root

Discovery expands the escaped text of the root and the glob of a type as one pattern.  This
module shows that the root is taken literally: the files that are found are those which the
glob alone yields from the directory at the root on, whatever characters the root holds.
-/

namespace Guidebook.Glob

/-! ## The components of an escaped root -/

theorem pieces_escape (text : List Char) :
    Text.pieces '/' (text.flatMap escapeLetter) =
      (Text.pieces '/' text).map fun piece => piece.flatMap escapeLetter := by
  induction text with
  | nil => rfl
  | cons c rest ih =>
      rw [List.flatMap_cons]
      by_cases separator : c = '/'
      · subst separator
        change Text.pieces '/' ([] ++ '/' :: rest.flatMap escapeLetter) = _
        rw [Text.pieces_append List.not_mem_nil, ih]
        rfl
      · obtain ⟨first, others, cut⟩ := List.exists_cons_of_ne_nil (Text.pieces_ne_nil '/' rest)
        rw [cut] at ih
        have absent : '/' ∉ escapeLetter c := by
          rw [escapeLetter]
          split <;> simp [Ne.symm separator]
        rw [Text.pieces_append_of_not_mem absent ih, Text.pieces, if_neg separator, cut]
        rfl

theorem trimSeparatorsEnd_escape (text : String) :
    (Discovery.trimSeparatorsEnd (escape text)).toList =
      (Discovery.trimSeparatorsEnd text).toList.flatMap escapeLetter := by
  have reversed (backward : List Char) :
      ((backward.reverse.flatMap escapeLetter).reverse.dropWhile (· == '/')).reverse =
        (backward.dropWhile (· == '/')).reverse.flatMap escapeLetter := by
    induction backward with
    | nil => rfl
    | cons c rest ih =>
        rw [List.reverse_cons, List.flatMap_append, List.reverse_append, List.flatMap_singleton]
        by_cases separator : c = '/'
        · subst separator
          exact ih
        · have kept (others : List Char) :
              ((escapeLetter c).reverse ++ others).dropWhile (· == '/') =
                (escapeLetter c).reverse ++ others := by
            rw [escapeLetter]
            split <;> simp [separator]
          rw [kept]
          simp [separator]
  have whole := reversed text.toList.reverse
  rw [List.reverse_reverse] at whole
  simp only [Discovery.trimSeparatorsEnd, String.toList_ofList, toList_escape, whole]

/-! ## Steps through a root -/

/-- The step along a name that is taken literally. -/
def rootStep (name : List Char) : Step := Step.ofItems (name.map literalItem)

theorem literal?_literalItem (name : List Char) :
    literal? (name.map literalItem) = if name.any isSign then none else some name := by
  induction name with
  | nil => rfl
  | cons c name ih =>
      rw [List.map_cons, literalItem, List.any_cons]
      by_cases sign : isSign c = true
      · rw [if_pos sign, sign]
        rfl
      · rw [if_neg sign, literal?, ih, Bool.eq_false_of_not_eq_true sign, Bool.false_or]
        split <;> rfl

/-- A name is looked at if nothing in it had to be escaped, and else looked for. -/
theorem rootStep_cases (name : List Char) :
    rootStep name = .name (String.ofList name) ∨
      name.any isSign = true ∧ rootStep name = .names (name.map literalItem) := by
  have single : name.map literalItem ≠ [.anyDirectories] := by
    intro same
    obtain ⟨c, -, read⟩ := List.map_eq_singleton_iff.mp same
    rw [literalItem] at read
    split at read <;> cases read
  rw [rootStep, Step.ofItems, if_neg single, literal?_literalItem]
  by_cases signs : name.any isSign = true
  · rw [if_pos signs]
    exact .inr ⟨signs, rfl⟩
  · rw [if_neg signs]
    exact .inl rfl

/-- The step leads to a name, not to a place further down. -/
def Step.IsPlain : Step → Prop
  | .name text => '/' ∉ text.toList
  | _ => True

theorem isPlain_rootStep {name : List Char} (relative : '/' ∉ name) : (rootStep name).IsPlain := by
  rcases rootStep_cases name with looked | ⟨-, searched⟩
  · rw [looked, Step.IsPlain, String.toList_ofList]
    exact relative
  · rw [searched]
    trivial

variable {around : Surroundings} {directoriesOnly : Bool} {path found : Path}

/-- A step is taken from directories only. -/
theorem isDirectory_of_mem_expandFrom_cons {step : Step} {steps : List Step} (plain : step.IsPlain)
    (absolute : path.isAbsolute = true)
    (member : found ∈ expandFrom around directoriesOnly (step :: steps) path) :
    around.isDirectory path = true := by
  cases step with
  | name text =>
      obtain ⟨there, -⟩ := mem_expandFrom_name_iff.mp member
      split at there
      · exact there
      · exact Surroundings.isDirectory_of_isThere_join absolute plain there
  | anyDirectories =>
      obtain ⟨entries, _, standing, -⟩ := exists_visitEntries_of_mem member
      exact Surroundings.isDirectory_iff.mpr ⟨entries, standing⟩
  | names items =>
      obtain ⟨entries, standing, -⟩ := mem_expandFrom_names_iff.mp member
      exact Surroundings.isDirectory_iff.mpr ⟨entries, standing⟩

/-- Files are found only if something stands where the search starts. -/
theorem isThere_of_mem_expandFrom {steps : List Step} (plain : ∀ step ∈ steps, step.IsPlain)
    (absolute : path.isAbsolute = true) (file : around.isFile found = true)
    (member : found ∈ expandFrom around directoriesOnly steps path) :
    around.isThere path = true := by
  cases steps with
  | nil =>
      obtain ⟨rfl, -⟩ := mem_expandFrom_nil_iff.mp member
      exact Surroundings.isThere_of_isFile file
  | cons step steps =>
      apply Surroundings.isThere_of_isDirectory
      exact isDirectory_of_mem_expandFrom_cons (plain step List.mem_cons_self) absolute member

theorem specialNames_literalItem {name : List Char} (signs : name.any isSign = true) :
    specialNames (name.map literalItem) = [] := by
  rw [specialNames]
  split
  · rw [List.filter_eq_nil_iff]
    intro dots dotted matched
    rw [isMatch_literalItem_iff] at matched
    subst matched
    simp only [List.mem_cons, List.not_mem_nil, or_false] at dotted
    rcases dotted with rfl | rfl <;> cases signs
  · rfl

/-- A name of the root leads to the path with this name, whatever its characters. -/
theorem mem_expandFrom_rootStep_iff {steps : List Step} {name : List Char}
    (plain : ∀ step ∈ steps, step.IsPlain) (relative : '/' ∉ name)
    (absolute : path.isAbsolute = true) (file : around.isFile found = true) :
    found ∈ expandFrom around directoriesOnly (rootStep name :: steps) path ↔
      found ∈ expandFrom around directoriesOnly steps (path.join (String.ofList name)) := by
  have inner : '/' ∉ (String.ofList name).toList := by
    rw [String.toList_ofList]
    exact relative
  have joined := Path.isAbsolute_join absolute (String.ofList name)
  have reached (member : found ∈ expandFrom around directoriesOnly steps
      (path.join (String.ofList name))) := isThere_of_mem_expandFrom plain joined file member
  rcases rootStep_cases name with looked | ⟨signs, searched⟩
  · rw [looked, mem_expandFrom_name_iff]
    constructor
    · exact And.right
    · intro member
      have there := reached member
      have directory := Surroundings.isDirectory_of_isThere_join absolute inner there
      rw [there, directory, ite_self]
      exact ⟨rfl, member⟩
  · rw [searched, mem_expandFrom_names_iff, specialNames_literalItem signs]
    constructor
    · rintro ⟨entries, -, entry, special | ⟨-, matched⟩, member⟩
      · cases special
      · rw [isMatch_literalItem_iff] at matched
        rwa [← matched, String.ofList_toList]
    · intro member
      obtain ⟨tree, standing⟩ := Surroundings.isThere_iff.mp (reached member)
      obtain ⟨above, entries, below, directory, step⟩ :=
        Surroundings.exists_step_of_look_join absolute inner standing
      refine ⟨entries, directory, String.ofList name, .inr ⟨?_, ?_⟩, member⟩
      · apply step.mem_names
        intro silent
        rcases silent with same | same | same <;>
          · rw [← String.toList_inj, String.toList_ofList] at same
            subst same
            cases signs
      · rw [isMatch_literalItem_iff, String.toList_ofList]

end Guidebook.Glob

namespace Guidebook.Discovery

open Glob

/-- The names that lead to a root, as they are written. -/
def rootNames (root : Path) : List (List Char) :=
  (Text.pieces '/' (trimSeparatorsEnd root.text).toList).drop 1

/-- The root with its names put one after the other, so that only separators between names
are left. -/
def startOf (root : Path) : Path :=
  (rootNames root).foldl (fun path name => path.join (String.ofList name)) ⟨"/"⟩

theorem not_mem_of_mem_rootNames {root : Path} {name : List Char} (member : name ∈ rootNames root) :
    '/' ∉ name :=
  Text.not_mem_of_mem_pieces (List.mem_of_mem_drop member)

/-- A text without a separator at its end, but with one at its start unless it is empty. -/
theorem trimSeparatorsEnd_cases {root : Path} (absolute : root.isAbsolute = true) :
    (trimSeparatorsEnd root.text).toList = [] ∨
      ∃ rest, (trimSeparatorsEnd root.text).toList = '/' :: rest := by
  obtain ⟨rest, starts⟩ := Path.isAbsolute_iff.mp absolute
  have trimmed : (trimSeparatorsEnd root.text).toList <+: root.text.toList := by
    rw [trimSeparatorsEnd, String.toList_ofList, ← List.reverse_suffix, List.reverse_reverse]
    exact List.dropWhile_suffix _
  rw [starts, List.prefix_cons_iff] at trimmed
  rcases trimmed with empty | ⟨tail, starts, -⟩
  · exact .inl empty
  · exact .inr ⟨tail, starts⟩

theorem head?_trimSeparatorsStart_ne (text : String) :
    (trimSeparatorsStart text).toList.head? ≠ some '/' := by
  rw [trimSeparatorsStart, String.toList_ofList]
  intro starts
  have stop := List.head?_dropWhile_not (· == '/') text.toList
  rw [starts] at stop
  cases stop

theorem toList_globText (root : Path) (type : DocumentType) :
    (globText root type).toList =
      (trimSeparatorsEnd root.text).toList.flatMap escapeLetter ++
        '/' :: (trimSeparatorsStart type.glob).toList := by
  rw [globText, String.toList_append, String.toList_append, trimSeparatorsEnd_escape]
  simp

/-- The components of the glob of a type below a root are those of the root, escaped, and
those of the glob. -/
theorem componentTexts_globText {root : Path} (absolute : root.isAbsolute = true)
    (type : DocumentType) :
    componentTexts (globText root type).toList =
      (rootNames root).map (fun name => name.flatMap escapeLetter) ++
        componentTexts (trimSeparatorsStart type.glob).toList := by
  have closed (parts : List (List Char)) {others : List (List Char)} (nonempty : others ≠ []) :
      (if (parts ++ others).getLast? = some [] then (parts ++ others).dropLast
        else parts ++ others) =
      parts ++ if others.getLast? = some [] then others.dropLast else others := by
    rw [List.getLast?_append_of_ne_nil parts nonempty, List.dropLast_append_of_ne_nil nonempty]
    split <;> rfl
  have below := Text.pieces_ne_nil '/' (trimSeparatorsStart type.glob).toList
  have opened (text : List Char) : componentTexts ('/' :: text) =
      if (Text.pieces '/' text).getLast? = some [] then (Text.pieces '/' text).dropLast
      else Text.pieces '/' text := rfl
  rw [toList_globText, rootNames, componentTexts.eq_def (trimSeparatorsStart type.glob).toList,
    if_neg (head?_trimSeparatorsStart_ne type.glob)]
  rcases trimSeparatorsEnd_cases absolute with shape | ⟨rest, shape⟩
  · rw [shape]
    rfl
  · have names : (Text.pieces '/' ('/' :: rest)).drop 1 = Text.pieces '/' rest := rfl
    have text : ('/' :: rest).flatMap escapeLetter = '/' :: rest.flatMap escapeLetter := rfl
    rw [shape, names, text, List.cons_append, opened, Text.pieces_append_separator, closed _ below,
      pieces_escape]

/-! ## The glob of a type below a root -/

/-- The step that a component is read as. -/
def readStep (component : List Char) : Except PatternError Step := do
  return Step.ofItems (← parseItems (String.ofList component))

theorem exists_steps_of_parse {text : String} {glob : Glob} (parsed : Glob.parse text = .ok glob) :
    ∃ steps, (componentTexts text.toList).mapM readStep = .ok steps ∧
      glob = ⟨collapse steps, text.toList.getLast? == some '/'⟩ := by
  rw [parse, bind_eq_ok_iff] at parsed
  obtain ⟨items, -, parsed⟩ := parsed
  rw [bind_eq_ok_iff] at parsed
  obtain ⟨steps, read, parsed⟩ := parsed
  cases parsed
  exact ⟨steps, read, rfl⟩

theorem readStep_escape (name : List Char) :
    readStep (name.flatMap escapeLetter) = .ok (rootStep name) := by
  have read : parseItems (String.ofList (name.flatMap escapeLetter)) =
      .ok (name.map literalItem) := by
    rw [parseItems_eq_ok_iff, String.toList_ofList]
    exact reads_escape true name
  rw [readStep, read]
  rfl

theorem isPlain_of_readStep {component : List Char} (relative : '/' ∉ component) {step : Step}
    (read : readStep component = .ok step) : step.IsPlain := by
  obtain ⟨items, parsed, read⟩ := bind_eq_ok_iff.mp read
  cases read
  rw [parseItems_eq_ok_iff, String.toList_ofList] at parsed
  rw [Step.ofItems]
  split
  · trivial
  · split
    · next literal =>
        rw [parsed.literal?_eq literal, Step.IsPlain, String.toList_ofList]
        exact relative
    · trivial

theorem not_mem_of_mem_componentTexts {text component : List Char}
    (member : component ∈ componentTexts text) : '/' ∉ component := by
  unfold componentTexts at member
  extract_lets parts at member
  split at member
  · exact Text.not_mem_of_mem_pieces (List.dropLast_subset parts member)
  · exact Text.not_mem_of_mem_pieces member

theorem mem_of_mem_collapse {steps : List Step} {step : Step} (member : step ∈ collapse steps) :
    step ∈ steps := by
  fun_induction collapse steps with
  | case1 first second rest _ ih => exact List.mem_cons_of_mem first (ih member)
  | case2 first second rest _ ih =>
      rcases List.mem_cons.mp member with rfl | later
      · exact List.mem_cons_self
      · exact List.mem_cons_of_mem first (ih later)
  | case3 steps _ => exact member

theorem isPlain_of_parse {text : String} {glob : Glob} (parsed : Glob.parse text = .ok glob) :
    ∀ step ∈ glob.steps, step.IsPlain := by
  obtain ⟨steps, read, rfl⟩ := exists_steps_of_parse parsed
  intro step member
  obtain ⟨component, among, read⟩ := exists_of_mem_of_mapM read (mem_of_mem_collapse member)
  exact isPlain_of_readStep (not_mem_of_mem_componentTexts among) read

theorem collapse_ne_nil {steps : List Step} (nonempty : steps ≠ []) : collapse steps ≠ [] := by
  fun_induction collapse steps with
  | case1 first second rest _ ih => exact ih (List.cons_ne_nil second rest)
  | case2 => exact List.cons_ne_nil _ _
  | case3 steps _ => exact nonempty

/-- A glob that starts with a name has a component. -/
theorem componentTexts_ne_nil {text : List Char} (nonempty : text ≠ [])
    (relative : text.head? ≠ some '/') : componentTexts text ≠ [] := by
  cases text with
  | nil => exact absurd rfl nonempty
  | cons c rest =>
      have letter : c ≠ '/' := by
        rintro rfl
        exact relative rfl
      obtain ⟨first, others, cut⟩ := List.exists_cons_of_ne_nil (Text.pieces_ne_nil '/' rest)
      have parts : Text.pieces '/' (c :: rest) = (c :: first) :: others := by
        rw [Text.pieces, if_neg letter, cut]
      rw [componentTexts, if_neg relative, parts]
      cases others with
      | nil => exact List.cons_ne_nil _ _
      | cons second others =>
          split <;> exact List.cons_ne_nil _ _

/-- Steps for names before others are left as they are. -/
theorem collapse_append (names : List (List Char)) (steps : List Step) :
    collapse (names.map rootStep ++ steps) = names.map rootStep ++ collapse steps := by
  induction names with
  | nil => rfl
  | cons name names ih =>
      have named : (rootStep name).isAnyDirectories = false := by
        rcases rootStep_cases name with looked | ⟨-, searched⟩
        · rw [looked]
          rfl
        · rw [searched]
          rfl
      rw [List.map_cons, List.cons_append, List.cons_append, ← ih]
      cases names.map rootStep ++ steps with
      | nil => rfl
      | cons second rest => rw [collapse, named, Bool.false_and, if_neg Bool.false_ne_true]

/-- The glob of a type below a root leads through the names of the root and then on as the
glob alone. -/
theorem exists_parse_of_globText {root : Path} (absolute : root.isAbsolute = true)
    {type : DocumentType} {whole : Glob} (parsed : Glob.parse (globText root type) = .ok whole) :
    ∃ below, Glob.parse (trimSeparatorsStart type.glob) = .ok below ∧
      whole.steps = (rootNames root).map rootStep ++ below.steps ∧
      (below.steps = [] ∧ whole.directoriesOnly = true ∨
        below.steps ≠ [] ∧ whole.directoriesOnly = below.directoriesOnly) := by
  obtain ⟨below, read⟩ : ∃ below, Glob.parse (trimSeparatorsStart type.glob) = .ok below := by
    rw [exists_parse_eq_ok_iff, expandable_trimSeparatorsStart_iff, ← expandable_globText_iff root,
      ← exists_parse_eq_ok_iff]
    exact ⟨whole, parsed⟩
  refine ⟨below, read, ?_⟩
  obtain ⟨steps, wholeRead, rfl⟩ := exists_steps_of_parse parsed
  obtain ⟨lower, belowRead, rfl⟩ := exists_steps_of_parse read
  rw [mapM_eq_ok_iff] at wholeRead belowRead
  have cut : steps = (rootNames root).map rootStep ++ lower := by
    have apart : Function.Injective (Except.ok : Step → Except PatternError Step) := by
      intro first second same
      cases same
      rfl
    have names : ((rootNames root).map fun name => name.flatMap escapeLetter).map readStep =
        ((rootNames root).map rootStep).map .ok := by
      rw [List.map_map, List.map_map]
      exact List.map_congr_left fun name _ => readStep_escape name
    apply List.map_injective_iff.mpr apart
    rw [← wholeRead, componentTexts_globText absolute, List.map_append, names, belowRead,
      List.map_append]
  refine ⟨by rw [cut, collapse_append], ?_⟩
  rw [toList_globText]
  by_cases empty : (trimSeparatorsStart type.glob).toList = []
  · rw [empty] at belowRead
    left
    rw [List.map_eq_nil_iff.mp belowRead.symm, empty, List.getLast?_concat]
    exact ⟨rfl, rfl⟩
  · right
    constructor
    · apply collapse_ne_nil
      intro none
      rw [none, List.map_nil, List.map_eq_nil_iff] at belowRead
      exact componentTexts_ne_nil empty (head?_trimSeparatorsStart_ne type.glob) belowRead
    · rw [List.getLast?_append_of_ne_nil _ (List.cons_ne_nil _ _),
        List.getLast?_cons_of_ne_nil empty]

/-! ## The files of a type -/

/-- The names of a root can be put after a path one by one. -/
theorem mem_expandFrom_rootSteps_iff {around : Surroundings} {directoriesOnly : Bool}
    {path found : Path} {steps : List Step} {names : List (List Char)}
    (plain : ∀ step ∈ steps, step.IsPlain) (relative : ∀ name ∈ names, '/' ∉ name)
    (absolute : path.isAbsolute = true) (file : around.isFile found = true) :
    found ∈ expandFrom around directoriesOnly (names.map rootStep ++ steps) path ↔
      found ∈ expandFrom around directoriesOnly steps
        (names.foldl (fun path name => path.join (String.ofList name)) path) := by
  induction names generalizing path with
  | nil => rfl
  | cons name names ih =>
      rw [List.forall_mem_cons] at relative
      have rest : ∀ step ∈ names.map rootStep ++ steps, step.IsPlain := by
        intro step member
        rcases List.mem_append.mp member with own | below
        · obtain ⟨other, among, rfl⟩ := List.mem_map.mp own
          exact isPlain_rootStep (relative.2 other among)
        · exact plain step below
      rw [List.map_cons, List.cons_append,
        mem_expandFrom_rootStep_iff rest relative.1 absolute file, List.foldl_cons]
      exact ih relative.2 (Path.isAbsolute_join absolute _)

theorem isAbsolute_foldl_join {path : Path} (absolute : path.isAbsolute = true)
    (names : List (List Char)) :
    (names.foldl (fun path name => path.join (String.ofList name)) path).isAbsolute = true := by
  induction names generalizing path with
  | nil => exact absolute
  | cons name names ih => exact ih (Path.isAbsolute_join absolute _)

theorem isAbsolute_startOf (root : Path) : (startOf root).isAbsolute = true :=
  isAbsolute_foldl_join rfl _

theorem components_foldl_join {path : Path} (absolute : path.isAbsolute = true)
    {names : List (List Char)} (relative : ∀ name ∈ names, '/' ∉ name) :
    (names.foldl (fun path name => path.join (String.ofList name)) path).components =
      path.components ++ names.filterMap Path.componentOf? := by
  induction names generalizing path with
  | nil => simp
  | cons name names ih =>
      rw [List.forall_mem_cons] at relative
      have inner : '/' ∉ (String.ofList name).toList := by
        rw [String.toList_ofList]
        exact relative.1
      rw [List.foldl_cons, ih (Path.isAbsolute_join absolute _) relative.2,
        Path.components_join absolute inner, String.toList_ofList, List.append_assoc]
      cases added : Path.componentOf? name <;> simp [added]

/-- Separators at the end of a text add no component. -/
theorem filterMap_componentOf?_trimSeparatorsEnd (text : String) :
    (Text.pieces '/' (trimSeparatorsEnd text).toList).filterMap Path.componentOf? =
      (Text.pieces '/' text.toList).filterMap Path.componentOf? := by
  have reversed (backward : List Char) :
      (Text.pieces '/' (backward.dropWhile (· == '/')).reverse).filterMap Path.componentOf? =
        (Text.pieces '/' backward.reverse).filterMap Path.componentOf? := by
    induction backward with
    | nil => rfl
    | cons c rest ih =>
        rw [List.dropWhile_cons]
        split
        · next separator =>
            rw [beq_iff_eq.mp separator, ih, List.reverse_cons, Path.pieces_concat_separator,
              List.filterMap_append]
            simp [Path.componentOf?]
        · rfl
  rw [trimSeparatorsEnd, String.toList_ofList, reversed, List.reverse_reverse]

/-- The search starts at the root itself, however the root is written. -/
theorem same_startOf {root : Path} (absolute : root.isAbsolute = true) :
    (startOf root).same root = true := by
  have below : (rootNames root).filterMap Path.componentOf? =
      (Text.pieces '/' root.text.toList).filterMap Path.componentOf? := by
    rw [← filterMap_componentOf?_trimSeparatorsEnd, rootNames]
    rcases trimSeparatorsEnd_cases absolute with shape | ⟨rest, shape⟩
    · rw [shape]
      rfl
    · rw [shape]
      rfl
  rw [Path.same_iff, startOf, components_foldl_join rfl fun _ => not_mem_of_mem_rootNames, below,
    Path.components, Path.components, absolute]
  rfl

/-- A file that a type finds below a root. -/
structure Matches (around : Surroundings) (root : Path) (type : DocumentType) (path : Path) :
    Prop where
  /-- The glob alone leads from the root to the path. -/
  yielded : ∃ glob, Glob.parse (trimSeparatorsStart type.glob) = .ok glob ∧
    path ∈ expandFrom around glob.directoriesOnly glob.steps (startOf root)
  directory : around.isDirectory (startOf root) = true
  file : around.isFile path = true
  extension : ∀ demanded, type.extension = some demanded → path.extension?.getD "" = demanded

theorem hasExtension_iff {type : DocumentType} {path : Path} :
    hasExtension type path = true ↔
      ∀ demanded, type.extension = some demanded → path.extension?.getD "" = demanded := by
  rw [hasExtension]
  cases type.extension <;> simp

variable {around : Surroundings} {root : Path} {type : DocumentType} {files : List Path}

/-- The files that are listed for a type are those that it finds below the root. -/
theorem mem_filesOf_iff (absolute : root.isAbsolute = true)
    (listed : filesOf around root type = .ok files) {path : Path} :
    path ∈ files ↔ Matches around root type path := by
  rw [filesOf] at listed
  split at listed
  · cases listed
  · next whole parsed =>
      cases listed
      obtain ⟨below, read, steps, alike⟩ := exists_parse_of_globText absolute parsed
      have plain := isPlain_of_parse read
      have yields (file : around.isFile path = true) : path ∈ whole.expand around ↔
          path ∈ expandFrom around whole.directoriesOnly below.steps (startOf root) := by
        rw [expand, steps]
        exact mem_expandFrom_rootSteps_iff plain (fun _ => not_mem_of_mem_rootNames) rfl file
      rw [List.mem_mergeSort, List.mem_filter, Bool.and_eq_true, hasExtension_iff]
      rcases alike with ⟨none, closed⟩ | ⟨some, alike⟩
      · -- a glob without components stands for the root, which is to be a directory
        rw [none, closed] at yields
        constructor
        · rintro ⟨member, file, -⟩
          rw [yields file, mem_expandFrom_nil_iff] at member
          obtain ⟨same, directory⟩ := member
          rw [same] at file
          cases (Surroundings.not_isDirectory_of_isFile file).symm.trans (directory rfl)
        · rintro ⟨⟨glob, reread, member⟩, directory, file, -⟩
          cases read.symm.trans reread
          rw [none, mem_expandFrom_nil_iff] at member
          rw [member.1] at file
          cases (Surroundings.not_isDirectory_of_isFile file).symm.trans directory
      · rw [alike] at yields
        constructor
        · rintro ⟨member, file, extension⟩
          rw [yields file] at member
          refine ⟨⟨below, read, member⟩, ?_, file, extension⟩
          obtain ⟨first, others, cut⟩ := List.exists_cons_of_ne_nil some
          rw [cut] at member plain
          exact isDirectory_of_mem_expandFrom_cons (plain first List.mem_cons_self)
            (isAbsolute_startOf root) member
        · rintro ⟨⟨glob, reread, member⟩, -, file, extension⟩
          cases read.symm.trans reread
          exact ⟨(yields file).mpr member, file, extension⟩

theorem isAbsolute_of_matches {path : Path} (found : Matches around root type path) :
    path.isAbsolute = true := by
  obtain ⟨glob, -, member⟩ := found.yielded
  exact isAbsolute_of_mem_expandFrom (isAbsolute_startOf root) member

theorem pairwise_filesOf (listed : filesOf around root type = .ok files) :
    files.Pairwise fun left right => left.components ≤ right.components := by
  rw [filesOf] at listed
  split at listed
  · cases listed
  · cases listed
    exact Path.pairwise_mergeSort_notAfter _

end Guidebook.Discovery
