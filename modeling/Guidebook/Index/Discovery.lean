import Guidebook.Glob.Expansion
import Guidebook.Index.Settings

/-!
# Discovery of documents

The files that the globs of some settings match, in the order of the types and,
within a type, of the paths.  A file belongs to the first type that matches it.
-/

namespace Guidebook

/-- A file to be read as a document of a type, which is given by its place. -/
structure Candidate where
  path : Path
  typeIndex : Nat
  deriving DecidableEq, Repr, Inhabited

namespace Discovery

/-- The root of some settings, as a path from the root of the files. -/
def absoluteRoot (around : Surroundings) (root : Path) : Path :=
  if root.isAbsolute then root else around.workingDirectory.join root.text

/-- The text without the separators at its end. -/
def trimSeparatorsEnd (text : String) : String :=
  String.ofList (text.toList.reverse.dropWhile (· == '/')).reverse

/-- The text without the separators at its start. -/
def trimSeparatorsStart (text : String) : String :=
  String.ofList (text.toList.dropWhile (· == '/'))

/-- The absolute glob of a type below a root. -/
def globText (root : Path) (type : DocumentType) : String :=
  trimSeparatorsEnd (Glob.escape root.text) ++ "/" ++ trimSeparatorsStart type.glob

/-- The path has the extension that a type demands. -/
def hasExtension (type : DocumentType) (path : Path) : Bool :=
  type.extension.all fun extension => path.extension?.getD "" == extension

/-- The files of a type, in ascending order. -/
def filesOf (around : Surroundings) (root : Path) (type : DocumentType) :
    Except Error (List Path) :=
  match Glob.parse (globText root type) with
  | .error error => .error (IndexSettings.globError type error)
  | .ok glob =>
      .ok <| ((glob.expand around).filter fun path =>
        around.isFile path && hasExtension type path).mergeSort Path.notAfter

/-- The first paths of their kind: a path that is the same as one before is left
out. -/
def distinct (seen : List Path) : List Path → List Path
  | [] => []
  | path :: rest =>
      if seen.any path.same then distinct seen rest
      else path :: distinct (path :: seen) rest

/-- The candidates of some types, of which the first has the place `index`. -/
def candidatesFrom (around : Surroundings) (root : Path) (index : Nat) (seen : List Path) :
    List DocumentType → Except Error (List Candidate)
  | [] => .ok []
  | type :: rest => do
      let paths := distinct seen (← filesOf around root type)
      let later ← candidatesFrom around root (index + 1) (paths ++ seen) rest
      return paths.map (⟨·, index⟩) ++ later

end Discovery

/-- The candidates that some settings find. -/
def discover (around : Surroundings) (settings : IndexSettings) :
    Except Error (List Candidate) :=
  Discovery.candidatesFrom around (Discovery.absoluteRoot around settings.root) 0 []
    settings.types

end Guidebook
