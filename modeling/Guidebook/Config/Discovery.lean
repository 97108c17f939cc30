import Guidebook.Config.Markup.Toml
import Guidebook.Config.Markup.Yaml
import Guidebook.Text.Lowercase

/-!
# Finding a configuration

A configuration is in the file that is named, by an argument or by a variable; or
else in the nearest of the directories around the working directory, or in the
directory of the user.
-/

namespace Guidebook.Config

/-- The variable that names the file of a configuration. -/
def variableName : String := "WAYMARK_CONFIG"

/-- The place of a configuration within a project. -/
def projectDirectory : String := ".agent/service"

/-- The names of the files of a configuration, in the order of search. -/
def fileNames : List String := ["config.yaml", "config.toml"]

/-- How many directories above the working directory are searched. -/
def parentDepth : Nat := 3

/-- The configuration that a text writes; the extension of its file decides on the
notation. -/
def parse? (path : Path) (text : String) : Option Config :=
  if path.extension?.any fun extension =>
      Text.eqAsciiFold extension.toList "toml".toList then ofToml? text
  else ofYaml? text

/-- Read a configuration from a file, and check it. -/
def loadFrom (around : Surroundings) (path : Path) : Except Error Config := do
  match around.readFile path with
  | .error fault => throw (.config s!"failed to read {path.text}: {fault.message}")
  | .ok (text, _) =>
      match parse? path text with
      | none =>
          let fault := around.configurationFault path text
          throw (.config s!"failed to parse {path.text}: {fault}")
      | some config =>
          let config := { config with source := some path }
          config.validate
          return config

/-- A path and `count` directories above it, as far as there are any. -/
def ancestors : (count : Nat) → Path → List Path
  | 0, path => [path]
  | count + 1, path =>
      match path.parent? with
      | none => [path]
      | some parent => path :: ancestors count parent

/-- The directory of the configurations of the user. -/
def userDirectory? (around : Surroundings) : Option Path :=
  around.user?.map (·.configurations)

/-- The files that are tried, in order. -/
def candidates (around : Surroundings) : List Path :=
  let projects := ancestors parentDepth around.workingDirectory
  let directories :=
    projects.map (·.join projectDirectory) ++ (userDirectory? around).toList
  directories.flatMap fun directory => fileNames.map directory.join

/-- Find a configuration and read it. -/
def discover (around : Surroundings) (explicit : Option Path) : Except Error Config :=
  match explicit with
  | some path => loadFrom around path
  | none =>
      match (around.variableValue? variableName).filter (!·.isEmpty) with
      | some path => loadFrom around ⟨path⟩
      | none =>
          match (candidates around).find? around.isFile with
          | some path => loadFrom around path
          | none =>
              .error <| .config <|
                s!"no configuration file found ({projectDirectory}/config.yaml in the " ++
                  s!"working directory or its parents, or ${variableName})"

end Guidebook.Config
