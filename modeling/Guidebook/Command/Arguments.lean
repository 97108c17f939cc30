import Guidebook.Command.Task
import Guidebook.Text.Split

/-!
# Arguments

A command line is read on two levels: the words before the name of a task and the
words after it.  Each level has its options.  An option is a name after two
hyphens or a letter after one; a value follows in the same word or is the next
word, which must not look like an option.  Letters of options without values can
share a word.  After the word `--` no word is an option.

A command line that cannot be read, or that asks for help or for the version, is
stopped at the first word that shows it.
-/

namespace Guidebook.Command

/-- Why a command line is not carried out. -/
inductive Stop where
  | help
  | version
  /-- The command line is none. -/
  | misuse
  deriving DecidableEq, Repr

/-- An option. -/
inductive Key where
  | config
  | verbose
  | quiet
  | filter
  | strict
  | output
  | help
  | version
  deriving DecidableEq, Repr

namespace Key

/-- The name of an option. -/
def name : Key → String
  | .config => "config"
  | .verbose => "verbose"
  | .quiet => "quiet"
  | .filter => "filter"
  | .strict => "strict"
  | .output => "output"
  | .help => "help"
  | .version => "version"

/-- The letter of an option. -/
def letter? : Key → Option Char
  | .config => some 'c'
  | .verbose => some 'v'
  | .quiet => some 'q'
  | .filter => some 'f'
  | .strict => none
  | .output => some 'o'
  | .help => some 'h'
  | .version => some 'V'

/-- The option has a value. -/
def takesValue : Key → Bool
  | .config | .filter | .output => true
  | _ => false

/-- The option may be repeated. -/
def repeats (key : Key) : Bool := key == .verbose

/-- The option can have a value. -/
def admits (key : Key) (value : String) : Bool :=
  match key with
  | .config => !value.isEmpty
  | .output => (Format.ofName? value).isSome
  | _ => true

end Key

/-- A level of a command line. -/
inductive Level where
  | outer
  | inner (verb : Verb)
  deriving DecidableEq, Repr

namespace Level

/-- The options of a level. -/
def keys : Level → List Key
  | .outer => [.config, .verbose, .quiet, .help, .version]
  | .inner .validate => [.config, .verbose, .quiet, .help]
  | .inner _ => [.config, .verbose, .quiet, .help, .filter, .strict, .output]

/-- Words that are neither options nor values are allowed. -/
def hasOperands (level : Level) : Bool := level == .inner .details

/-- The option with a name. -/
def keyOfName? (level : Level) (name : List Char) : Option Key :=
  level.keys.find? (·.name.toList == name)

/-- The option with a letter. -/
def keyOfLetter? (level : Level) (letter : Char) : Option Key :=
  level.keys.find? (·.letter? == some letter)

end Level

/-- What the words of a level have given so far. -/
structure Given where
  /-- The options with their values, the latest first. -/
  options : List (Key × String) := []
  operands : List String := []
  deriving DecidableEq, Repr

namespace Given

/-- The value of an option that was given. -/
def value? (given : Given) (key : Key) : Option String := given.options.lookup key

/-- The option was given. -/
def has (given : Given) (key : Key) : Bool := (given.value? key).isSome

/-- Give an option. -/
def set (given : Given) (key : Key) (value : String) : Except Stop Given :=
  match key with
  | .help => .error .help
  | .version => .error .version
  | key =>
      if (given.has key && !key.repeats) || !key.admits value then .error .misuse
      else .ok { given with options := (key, value) :: given.options }

/-- Give operands, at a level that has any. -/
def addOperands (given : Given) (level : Level) (words : List String) : Except Stop Given :=
  if level.hasOperands || words.isEmpty then
    .ok { given with operands := given.operands ++ words }
  else .error .misuse

/-- The query that was given. -/
def question (given : Given) : Question where
  text := given.value? .filter
  mode := if given.has .strict then .strict else .lenient

/-- The form of the answer that was given. -/
def format (given : Given) : Format :=
  ((given.value? .output).bind Format.ofName?).getD .text

end Given

/-- The looks of a word. -/
inductive Look where
  /-- The word `--`. -/
  | divider
  /-- What follows two hyphens. -/
  | name (text : List Char)
  /-- What follows one hyphen. -/
  | letters (text : List Char)
  | plain
  deriving DecidableEq, Repr

/-- The looks of a word; a lone hyphen is plain. -/
def Look.of (word : String) : Look :=
  match word.toList with
  | ['-', '-'] => .divider
  | '-' :: '-' :: text => .name text
  | ['-'] => .plain
  | '-' :: text => .letters text
  | _ => .plain

/-- Read the name of an option, maybe with a value after `=`.  The option is handed
on when its value is still to come. -/
def readName (level : Level) (given : Given) (text : List Char) :
    Except Stop (Given × Option Key) :=
  let (name, value) :=
    match Text.cutAt? '=' text with
    | some (name, value) => (name, some (String.ofList value))
    | none => (text, none)
  match level.keyOfName? name with
  | none => .error .misuse
  | some key =>
      match key.takesValue, value with
      | true, none => .ok (given, some key)
      | true, some value => (given.set key value).map (·, none)
      | false, none => (given.set key "").map (·, none)
      | false, some _ => .error .misuse

/-- Read the letters of options; a value takes the rest of the word, without a `=`
in front.  The option is handed on when its value is still to come. -/
def readLetters (level : Level) (given : Given) :
    List Char → Except Stop (Given × Option Key)
  | [] => .ok (given, none)
  | letter :: rest =>
      match level.keyOfLetter? letter with
      | none => .error .misuse
      | some key =>
          if key.takesValue then
            match rest with
            | [] => .ok (given, some key)
            | '=' :: value => (given.set key (String.ofList value)).map (·, none)
            | value => (given.set key (String.ofList value)).map (·, none)
          else do readLetters level (← given.set key "") rest

/-- Read the words of a level; `waiting` is an option whose value is still to come.
A task ends the outer level, and is handed on with the words after it. -/
def readWords (level : Level) (given : Given) (waiting : Option Key) :
    List String → Except Stop (Given × Option (Verb × List String))
  | [] => if waiting.isSome then .error .misuse else .ok (given, none)
  | word :: words =>
      match waiting, Look.of word with
      | some key, .plain => do readWords level (← given.set key word) none words
      | some _, _ => .error .misuse
      | none, .divider => do return (← given.addOperands level words, none)
      | none, .name text => do
          let (given, waiting) ← readName level given text
          readWords level given waiting words
      | none, .letters text => do
          let (given, waiting) ← readLetters level given text
          readWords level given waiting words
      | none, .plain =>
          if level = .outer then
            match Verb.ofName? word with
            | some verb => .ok (given, some (verb, words))
            | none => .error (stopOf word words)
          else do readWords level (← given.addOperands level [word]) none words
where
  /-- The word `help` asks for help on a task, or on itself. -/
  stopOf (word : String) (words : List String) : Stop :=
    match word, words with
    | "help", [] => .help
    | "help", [topic] =>
        if topic = "help" ∨ (Verb.ofName? topic).isSome then .help else .misuse
    | _, _ => .misuse

/-- The task with what the words after its name have given. -/
def Task.of (verb : Verb) (given : Given) : Except Stop Task :=
  match verb with
  | .summary => .ok (.summary given.question given.format)
  | .ids =>
      if given.has .filter then .ok (.ids given.question given.format) else .error .misuse
  | .details => .ok (.details given.operands given.question given.format)
  | .validate => .ok .validate

/-- The file of the configuration: the one given after the name of the task, or
before it, or else the preset one.  Where a level leaves the option open, the preset
takes its place and has to be a value that the option admits. -/
def configOf (preset : Option String) (outer inner : Given) :
    Except Stop (Option Path) :=
  let filled := outer.has .config && inner.has .config
  if !filled && !preset.all Key.config.admits then .error .misuse
  else
    .ok ((((inner.value? .config).or (outer.value? .config)).or preset).map Path.mk)

/-- Read a command line, without the name of the command.  A file of the configuration
may be preset. -/
def Invocation.parse (preset : Option String) (words : List String) :
    Except Stop Invocation := do
  let (outer, rest) ← readWords .outer {} none words
  match rest with
  | none => throw .misuse
  | some (verb, words) =>
      let (inner, _) ← readWords (.inner verb) {} none words
      let task ← Task.of verb inner
      return ⟨← configOf preset outer inner, task⟩

end Guidebook.Command
