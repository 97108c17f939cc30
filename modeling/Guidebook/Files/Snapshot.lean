import Guidebook.Files.Tree
import Guidebook.Json.Reader

/-!
# Snapshots of files

A snapshot lists files and directories as JSON objects with a `path` below some
base, from which a file tree is laid out.  A file has its text in `content` or
its bytes in base 16 in `hex`, and the time of its last change in `secs` and
`nanos` since the start of 1970; an entry with `dir` is an empty directory.

A snapshot of everything around a run has the `files`, the working directory in
`cwd` and the variables in `env`.
-/

namespace Guidebook.Snapshot

/-- The bytes that pairs of digits in base 16 write. -/
def hexBytes? : List Char → Option (List UInt8)
  | [] => some []
  | high :: low :: rest => do
      let high ← Json.hexDigit? high
      let low ← Json.hexDigit? low
      let rest ← hexBytes? rest
      return UInt8.ofNat (high * 16 + low) :: rest
  | [_] => none

/-- The content that bytes are. -/
def contentOfBytes (bytes : List UInt8) : Content :=
  match String.fromUTF8? ⟨bytes.toArray⟩ with
  | some text => .text text
  | none => .binary

/-- The integer in a field, or a default. -/
def intField (entry : Json) (key : String) (default : Int) : Int :=
  match entry.field? key with
  | some (.int value) => value
  | _ => default

/-- The text in a field, or none at all. -/
def textField (entry : Json) (key : String) : String :=
  ((entry.field? key).bind Json.text?).getD ""

/-- The time of last change where an entry gives none. -/
def defaultSeconds : Int := 1704067200

/-- The moment that an entry gives. -/
def moment? (entry : Json) : Option Moment :=
  let nanoseconds := (intField entry "nanos" 0).toNat
  Moment.ofUnix?
    (intField entry "secs" defaultSeconds + Int.ofNat (nanoseconds / 1000000000))
    (nanoseconds % 1000000000)

/-- The names of a relative path. -/
def namesOf (path : String) : List String :=
  (FileTree.namesOf path).filter fun name => name != "" && name != "."

/-- The names and the tree of an entry. -/
def entry? (entry : Json) : Option (List String × FileTree) := do
  let names := namesOf (textField entry "path")
  match entry.field? "dir", entry.field? "hex" with
  | some (.bool true), _ => return (names, FileTree.empty)
  | _, some (.str digits) =>
      return (names, .file (contentOfBytes (← hexBytes? digits.toList)) (← moment? entry))
  | _, _ => return (names, .file (.text (textField entry "content")) (← moment? entry))

/-- Lay out entries below a base, in order. -/
def layOut (base : List String) (tree : FileTree) (entries : List Json) : FileTree :=
  (entries.filterMap entry?).foldl
    (fun tree (names, leaf) => leaf.write (base ++ names) tree) tree

/-- The absolute path of some names. -/
def absolute (names : List String) : Path := ⟨"/" ++ String.intercalate "/" names⟩

/-- The names that lead to a directory, where `..` leads to the directory above;
`above` holds the names before, the nearest first. -/
def settle (above : List String) : List String → List String
  | [] => above.reverse
  | name :: rest =>
      if name = "" ∨ name = "." then settle above rest
      else if name = ".." then settle (above.drop 1) rest
      else settle (name :: above) rest

/-- The variables that a snapshot gives. -/
def environmentOf (snapshot : Json) : List (String × String) :=
  match snapshot.field? "env" with
  | some (.obj fields) =>
      fields.filterMap fun (name, value) => value.text?.map fun text => (name, text)
  | _ => []

/-- The directories of a user with a home directory: configurations are in the base
directory that the variables name by an absolute path, or else in `.config`. -/
def userDirectories (home : Path) (environment : List (String × String)) :
    UserDirectories :=
  let base :=
    match (environment.lookup "XDG_CONFIG_HOME").map Path.mk with
    | some base => if base.isAbsolute then base else home.join ".config"
    | none => home.join ".config"
  ⟨home, base.join "waymark"⟩

/-- What a snapshot shows around a run.  All of its paths are below a base, and so is
the home directory, which is there in any case. -/
def surroundings (base : List String) (home : String) (snapshot : Json) : Surroundings :=
  let homeNames := base ++ namesOf home
  let entries :=
    match snapshot.field? "files" with
    | some (.arr entries) => entries
    | _ => []
  { files := layOut base (FileTree.empty.write homeNames FileTree.empty) entries
    workingDirectory :=
      absolute (settle [] (base ++ FileTree.namesOf (textField snapshot "cwd")))
    user? := some (userDirectories (absolute homeNames) (environmentOf snapshot))
    environment := environmentOf snapshot }

end Guidebook.Snapshot
