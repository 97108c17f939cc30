import Guidebook.Files.Tree
import Guidebook.Glob.Pattern

/-!
# Expansion of globs

An absolute glob is expanded against a file tree component by component, from the
root on.  A component that stands for one name is only looked at; any other is
matched with the names in a directory, in ascending order.  The special names `.`
and `..` stand before all others, and only a component that starts with a dot
matches them.
-/

namespace Guidebook

/-- A component of a glob. -/
inductive Glob.Step where
  /-- One name. -/
  | name (text : String)
  /-- Any number of directories. -/
  | anyDirectories
  /-- All names that match. -/
  | names (items : List Glob.Item)
  deriving Repr

/-- A glob for paths from the root. -/
structure Glob where
  steps : List Glob.Step
  /-- The glob ends in `/`, so only directories match. -/
  directoriesOnly : Bool
  deriving Repr

namespace Glob

namespace Step

/-- The component with the given items. -/
def ofItems (items : List Item) : Step :=
  if items = [.anyDirectories] then .anyDirectories
  else
    match literal? items with
    | some text => .name (String.ofList text)
    | none => .names items

/-- The component accepts a name. -/
def accepts : Step → String → Bool
  | .name text, candidate => text == candidate
  | .anyDirectories, _ => true
  | .names items, candidate => isMatch items candidate

/-- The component stands for any number of directories. -/
def isAnyDirectories : Step → Bool
  | .anyDirectories => true
  | _ => false

end Step

/-- A run of components for any number of directories is as good as one. -/
def collapse : List Step → List Step
  | first :: second :: rest =>
      if first.isAnyDirectories && second.isAnyDirectories then collapse (second :: rest)
      else first :: collapse (second :: rest)
  | steps => steps

/-- The texts of the components of an absolute glob. -/
def componentTexts (text : List Char) : List (List Char) :=
  let pieces := Text.pieces '/' (if text.head? = some '/' then text.drop 1 else text)
  if pieces.getLast? = some [] then pieces.dropLast else pieces

/-- Read an absolute glob.  It has to be a pattern as a whole, and each of its
components has to be one. -/
def parse (text : String) : Except PatternError Glob := do
  let _ ← parseItems text
  let steps ← (componentTexts text.toList).mapM fun component => do
    return Step.ofItems (← parseItems (String.ofList component))
  return ⟨collapse steps, text.toList.getLast? == some '/'⟩

mutual

/-- What `visit` finds at all names below a tree, a directory before what is in
it. -/
def visitBelow (visit : Path → (name : String) → FileTree → List Path) (path : Path) :
    FileTree → List Path
  | .file .. => []
  | .directory entries => visitEntries visit path entries

/-- What `visit` finds at and below the entries of a directory. -/
def visitEntries (visit : Path → (name : String) → FileTree → List Path) (path : Path) :
    List (String × FileTree) → List Path
  | [] => []
  | (name, tree) :: rest =>
      let inner := path.join name
      visit inner name tree ++ visitBelow visit inner tree ++ visitEntries visit path rest

end

/-- The special names of a directory that a component matches. -/
def specialNames (items : List Item) : List String :=
  if items.head? = some (.letter '.') then ["..", "."].filter (isMatch items) else []

/-- The paths below `path` that match some components. -/
def expandFrom (around : Surroundings) (directoriesOnly : Bool) :
    List Step → Path → List Path
  | [], path => if directoriesOnly && !around.isDirectory path then [] else [path]
  | .name text :: steps, path =>
      let inner := path.join text
      let there :=
        if text = "." ∨ text = ".." then around.isDirectory path else around.isThere inner
      if there then expandFrom around directoriesOnly steps inner else []
  | [.anyDirectories], path =>
      match around.look path with
      | .ok tree =>
          visitBelow (fun inner _ tree => if tree.isDirectory then [inner] else []) path tree
      | .error _ => []
  | .anyDirectories :: step :: steps, path =>
      match around.look path with
      | .ok tree =>
          visitBelow
            (fun inner name _ =>
              if step.accepts name then expandFrom around directoriesOnly steps inner else [])
            path tree
      | .error _ => []
  | .names items :: steps, path =>
      match around.look path with
      | .ok (.directory entries) =>
          (specialNames items ++ (entries.map (·.1)).filter (isMatch items)).flatMap
            fun name => expandFrom around directoriesOnly steps (path.join name)
      | _ => []

/-- The paths that match a glob. -/
def expand (around : Surroundings) (glob : Glob) : List Path :=
  expandFrom around glob.directoriesOnly glob.steps ⟨"/"⟩

end Glob

end Guidebook
