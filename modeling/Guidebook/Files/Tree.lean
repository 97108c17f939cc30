import Guidebook.Files.Path
import Guidebook.Keyed
import Guidebook.Time.Moment

/-!
# Trees of files

A file tree is a file, or a directory of named trees in ascending order of the
names.  Looking at a path follows its names from the root of the tree, or from a
working directory; it fails for one of a few reasons.
-/

namespace Guidebook

/-- What a file holds. -/
inductive Content where
  | text (text : String)
  /-- Bytes that are the encoding of no text. -/
  | binary
  deriving DecidableEq, Repr, Inhabited

/-- A file with the time of its last change, or a directory. -/
inductive FileTree where
  | file (content : Content) (modified : Moment)
  | directory (entries : List (String × FileTree))
  deriving Repr, Inhabited

/-- Why a path cannot be looked at or a file cannot be read. -/
inductive Fault where
  | notFound
  | notDirectory
  | isDirectory
  | nameTooLong
  | nulInName
  | notText
  deriving DecidableEq, Repr, Inhabited

/-- The wording of a fault. -/
def Fault.message : Fault → String
  | .notFound => "No such file or directory (os error 2)"
  | .notDirectory => "Not a directory (os error 20)"
  | .isDirectory => "Is a directory (os error 21)"
  | .nameTooLong => "File name too long (os error 36)"
  | .nulInName => "file name contained an unexpected NUL byte"
  | .notText => "stream did not contain valid UTF-8"

namespace FileTree

/-- The empty directory. -/
def empty : FileTree := .directory []

/-- The tree is a directory. -/
def isDirectory : FileTree → Bool
  | .directory _ => true
  | .file .. => false

/-- The longest name of a file, in bytes. -/
def longestName : Nat := 255

/-- The longest path, in bytes. -/
def longestPath : Nat := 4095

/-- Follow names from a tree; `above` holds the directories above it, the nearest
first.  Every name but the last has to be that of a directory, and so has the
tree before an empty name. -/
def follow : (above : List FileTree) → FileTree → (names : List String) →
    Except Fault FileTree
  | _, here, [] => .ok here
  | _, .file .., _ :: _ => .error .notDirectory
  | above, .directory entries, name :: names =>
      if name = "" ∨ name = "." then follow above (.directory entries) names
      else if name = ".." then
        match above with
        | [] => follow [] (.directory entries) names
        | parent :: above => follow above parent names
      else if longestName < name.utf8ByteSize then .error .nameTooLong
      else
        match entries.lookup name with
        | none => .error .notFound
        | some next => follow (.directory entries :: above) next names

/-- The names of a text between its separators. -/
def namesOf (text : String) : List String :=
  (Text.pieces '/' text.toList).map String.ofList

/-- What stands at a path; a relative path starts at the working directory. -/
def look (tree : FileTree) (workingDirectory path : Path) : Except Fault FileTree :=
  if path.text.toList.contains '\x00' then .error .nulInName
  else if path.text.isEmpty then .error .notFound
  else if longestPath < path.text.utf8ByteSize then .error .nameTooLong
  else if path.isAbsolute then follow [] tree (namesOf path.text)
  else follow [] tree (namesOf workingDirectory.text ++ namesOf path.text)

/-- Put a tree at the end of names, with the directories on the way.  An empty
directory does not replace a directory. -/
def write (tree : FileTree) : (names : List String) → FileTree → FileTree
  | [], .directory entries =>
      match tree with
      | .directory [] => .directory entries
      | tree => tree
  | [], .file .. => tree
  | name :: names, .directory entries =>
      let inner := (entries.lookup name).getD empty
      .directory (Keyed.insert name (write tree names inner) entries)
  | _ :: _, .file content modified => .file content modified

/-- Take away what stands at the end of names. -/
def remove : (names : List String) → FileTree → FileTree
  | [name], .directory entries => .directory (Keyed.erase name entries)
  | name :: names, .directory entries =>
      match entries.lookup name with
      | none => .directory entries
      | some inner => .directory (Keyed.insert name (remove names inner) entries)
  | _, tree => tree

end FileTree

/-- The directories of the user. -/
structure UserDirectories where
  home : Path
  /-- The directory in which the user keeps configurations of the program. -/
  configurations : Path
  deriving DecidableEq, Repr

/-- What a run sees: files, the settings of the process, and what the libraries of the
program find out about the system and say about texts that they cannot read. -/
structure Surroundings where
  files : FileTree
  workingDirectory : Path
  /-- The directories of the user, when the home directory is known. -/
  user? : Option UserDirectories
  environment : List (String × String) := []
  /-- Why that many workers cannot be started; where no number is given there is one
  for each processor. -/
  workersFault? : (workers : Option Nat) → Option String := fun _ => none
  /-- What is wrong with a text that cannot be read as a front matter. -/
  frontMatterFault : (yaml : String) → String := fun _ => ""
  /-- What is wrong with the text of a file that cannot be read as a configuration. -/
  configurationFault : Path → (text : String) → String := fun _ _ => ""

namespace Surroundings

/-- The home directory, when it is known. -/
def home (around : Surroundings) : Option Path := around.user?.map (·.home)

/-- The value of a variable; an empty value counts. -/
def variableValue? (around : Surroundings) (name : String) : Option String :=
  around.environment.lookup name

/-- What stands at a path. -/
def look (around : Surroundings) (path : Path) : Except Fault FileTree :=
  around.files.look around.workingDirectory path

/-- Something stands at the path. -/
def isThere (around : Surroundings) (path : Path) : Bool :=
  (around.look path).toOption.isSome

/-- A directory stands at the path. -/
def isDirectory (around : Surroundings) (path : Path) : Bool :=
  (around.look path).toOption.any FileTree.isDirectory

/-- A file stands at the path. -/
def isFile (around : Surroundings) (path : Path) : Bool :=
  (around.look path).toOption.any fun tree => !tree.isDirectory

/-- The text of the file at a path and the time of its last change. -/
def readFile (around : Surroundings) (path : Path) : Except Fault (String × Moment) := do
  match ← around.look path with
  | .directory _ => throw .isDirectory
  | .file .binary _ => throw .notText
  | .file (.text text) modified => return (text, modified)

end Surroundings

end Guidebook
