import SchemaDiagram.Codec.Language
import SchemaDiagram.EnvironmentFile
import SchemaDiagram.Session.Workspace
import SchemaDiagram.Storage.Document

/-!
# The command line

What the program does with its arguments.  Files and environment variables are asked for through a
host, so that the program is one function for every world it may run in.
-/

namespace SchemaDiagram.CommandLine

open SchemaDiagram.Text

/-- What the program is asked to do. -/
inductive Invocation where
  | version
  /-- Read a schema text and print it in canonical form. -/
  | format (file : String) (dialect : Option Dialect)
  /-- Make a diagram converge on a schema text and print it as a document. -/
  | apply (diagram file : String)
  /-- Print the language of schema text for text editors. -/
  | language (dialect : Option Dialect)
  deriving DecidableEq, Repr

/-- The arguments behind a command: file names and the option for the dialect. -/
structure Arguments where
  files : List String := []
  dialect : Option Dialect := none
  deriving DecidableEq, Repr

namespace Arguments

/-- Whether an argument is an option: a hyphen and something behind it. -/
def isOption (argument : String) : Bool :=
  match argument.toList with
  | '-' :: _ :: _ => true
  | _ => false

/-- Add a file name, which must not be empty. -/
def addFile? (arguments : Arguments) (file : String) : Option Arguments :=
  if file.isEmpty then none else some { arguments with files := arguments.files ++ [file] }

/-- Set the dialect by its name, which may be done once. -/
def setDialect? (arguments : Arguments) (name : String) : Option Arguments := do
  guard arguments.dialect.isNone
  let dialect ← Dialect.ofName? name
  return { arguments with dialect := some dialect }

def dialectOption : String := "--database-type"

/-- The value of the option for the dialect where it stands in the same argument. -/
def joinedValue? (argument : String) : Option String :=
  (afterPrefix? (dialectOption ++ "=").toList argument.toList).map String.ofList

/-- Take arguments in order; nothing if one of them is not understood.  Behind `--` there are file
names only. -/
def take? : Arguments → List String → Option Arguments
  | arguments, [] => some arguments
  | arguments, "--" :: rest => rest.foldlM addFile? arguments
  | arguments, "--database-type" :: rest =>
    match rest with
    | [] => none
    | value :: rest =>
      if isOption value then none
      else (arguments.setDialect? value).bind fun arguments => take? arguments rest
  | arguments, argument :: rest =>
    match joinedValue? argument with
    | some value => (arguments.setDialect? value).bind fun arguments => take? arguments rest
    | none =>
      if isOption argument then none
      else (arguments.addFile? argument).bind fun arguments => take? arguments rest

end Arguments

namespace Invocation

/-- Whether an argument asks for the version; of several short options in one argument the first
one counts. -/
def asksVersion (argument : String) : Bool :=
  argument == "--version" || (afterPrefix? ['-', 'V'] argument.toList).isSome

/-- What arguments ask for; nothing if they are not understood. -/
def ofArguments? : List String → Option Invocation
  | [] => none
  | command :: rest =>
    if asksVersion command then some version
    else do
      let arguments ← Arguments.take? {} rest
      match command, arguments.files, arguments.dialect with
      | "format", [file], dialect => return format file dialect
      | "apply", [diagram, file], none => return apply diagram file
      | "language", [], dialect => return language dialect
      | _, _, _ => none

end Invocation

/-! ## Running -/

/-- Where files and environment variables come from. -/
structure Host (m : Type → Type) where
  file? : String → m (Option String)
  environment? : String → m (Option String)

/-- How a run ends. -/
inductive Outcome where
  | printed (output : String)
  | failed (message : String)
  | misused
  deriving DecidableEq, Repr

namespace Outcome

def exitStatus : Outcome → Nat
  | printed _ => 0
  | failed _ => 1
  | misused => 2

def output : Outcome → String
  | printed output => output ++ "\n"
  | _ => ""

end Outcome

/-- What `--version` prints. -/
def versionText : String := "schemax 0.1.0"

/-- The name of a diagram that is not kept. -/
def untitled : String := "untitled"

/-- The end of a run that may have failed. -/
def conclude (result : Except SessionError String) : Outcome :=
  match result with
  | .ok output => .printed output
  | .error error => .failed error.message

/-- A workspace with an empty storage. -/
def openWorkspace (config : Config) (supply : Supply) : Workspace (MemoryStorage Float) Float :=
  ⟨Session.new config LayoutConfig.standard supply, MemoryStorage.empty⟩

/-- A schema text in canonical form. -/
def formatText (config : Config) (supply : Supply) (dialect : Option Dialect) (text : String) :
    Except SessionError String :=
  let (created, workspace) := (openWorkspace config supply).createDiagram untitled
    (some (dialect.getD config.dialect))
  let (applied, workspace) := workspace.applyText text
  do
    let _ ← created
    let _ ← applied
    return workspace.session.schemaText

/-- The document of a diagram after it was made to converge on a schema text. -/
def applyToDocument (config : Config) (supply : Supply) (document text : String) :
    Except SessionError String := do
  let workspace := openWorkspace config supply
  let (imported, storage) := workspace.storage.importDocument document
  let id ← imported.mapError .storage
  let (loaded, workspace) := { workspace with storage := storage }.loadDiagram id
  let _ ← loaded
  let (applied, workspace) := workspace.applyText text
  let _ ← applied
  (workspace.storage.exportDocument id).mapError .storage

def languageDocument (dialect : Dialect) : String :=
  String.ofList (SchemaText.Language.forDialect dialect).toJson.pretty

variable {m : Type → Type} [Monad m]

/-- Do something with the text of a file, or fail if there is none. -/
def withFile (host : Host m) (name : String) (use : String → m Outcome) : m Outcome := do
  match ← host.file? name with
  | some text => use text
  | none => return .failed ("Cannot read " ++ name)

def Invocation.perform (config : Config) (supply : Supply) (host : Host m) :
    Invocation → m Outcome
  | version => return .printed versionText
  | format file dialect =>
    withFile host file fun text => return conclude (formatText config supply dialect text)
  | apply diagram file =>
    withFile host diagram fun document =>
      withFile host file fun text =>
        return conclude (applyToDocument config supply document text)
  | language dialect => return .printed (languageDocument (dialect.getD config.dialect))

def environmentFile : String := ".env"

/-- The settings of the program.  What the environment sets wins over the environment file. -/
def configure (host : Host m) : m Config := do
  let text := (← host.file? environmentFile).getD ""
  let assigned ← EnvironmentFile.settle host.environment? [] (EnvironmentFile.assignments text)
  let settings ← Config.settingNames.mapM fun name => do
    return (name, (← host.environment? name).or (assigned.lookup name))
  return Config.ofLookup fun name => (settings.lookup name).join

def run (host : Host m) (supply : Supply) (arguments : List String) : m Outcome := do
  let config ← configure host
  match Invocation.ofArguments? arguments with
  | some invocation => invocation.perform config supply host
  | none => return .misused

end SchemaDiagram.CommandLine
