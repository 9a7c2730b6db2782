import ChatMarkup.Cli.Help
import ChatMarkup.Config.Load
import ChatMarkup.Latex.Prose
import ChatMarkup.Markdown.Read
import ChatMarkup.Render.Pass
import ChatMarkup.Text.Utf8

namespace ChatMarkup

def convertMarkdown (source : Text) (o : Options) : Except RenderError String :=
  render (.ofMarkdown source) o

namespace Cli

open Config (LoadError Settings Layer)

/-- Why a file cannot be read or written: an error of the system, by its number, or bytes that are
no text. -/
inductive FileError where
  | system (number : Nat) (description : String)
  | notText
  deriving DecidableEq, Repr, Inhabited

namespace FileError

def notFound : FileError := system 2 "No such file or directory"

def notDirectory : FileError := system 20 "Not a directory"

def isDirectory : FileError := system 21 "Is a directory"

def message : FileError → Text
  | system number description =>
    description.toList ++ " (os error ".toList ++ Text.ofNat number ++ [')']
  | notText => "stream did not contain valid UTF-8".toList

end FileError

inductive Source where
  | input
  | file (path : Text)
  deriving DecidableEq, Repr, Inhabited

inductive Failure where
  | usage
  | config (e : LoadError)
  | extra (e : ExtraError)
  | noCommand
  | reading (path : Text) (e : FileError)
  | rendering (e : RenderError)
  | writing (path : Text) (e : FileError)
  deriving DecidableEq, Repr, Inhabited

namespace Failure

def code : Failure → Nat
  | usage => 2
  | _ => 1

def ofConfig : LoadError → Text
  | .missingFile => "file not found".toList
  | .malformedFile => "malformed TOML".toList
  | .malformedPath => "malformed path".toList
  | .malformedTree => "unexpected structure".toList
  | .wrongType key => "wrong type for ".toList ++ key

def message : Failure → Text
  | usage => []
  | config e => "Failed to load configuration: ".toList ++ ofConfig e ++ ['\n']
  | extra e => e.message ++ ['\n']
  | noCommand => "Unknown subcommand. Use --help for usage information.\n".toList
  | reading path e =>
    "Error reading '".toList ++ path ++ "': ".toList ++ e.message ++ ['\n']
  | rendering e => "Conversion error: ".toList ++ e.message.toList ++ ['\n']
  | writing path e =>
    "Error writing file '".toList ++ path ++ "': ".toList ++ e.message ++ ['\n']

end Failure

def versionText : Text := "tgmd 0.2.0\n".toList

def symbolsText : Text :=
  "LaTeX symbols:\n\n".toList ++ Latex.symbols.flatMap fun s =>
    let command := s.command.toList
    ' ' :: ' ' :: command ++ List.replicate (16 - command.length) ' ' ++ ' ' :: s.glyph.toList ++
      ['\n']

/-- What the program can do to the system that it runs on: read, write a text to a file, show a text,
and tell about a failure. -/
structure System (m : Type → Type) where
  read : Source → m (Except FileError (List UInt8))
  write : Text → Text → m (Except FileError Unit)
  print : Text → m Unit
  tell : Text → m Unit

/-- Leaves out a byte order mark. -/
def dropMark : List UInt8 → List UInt8
  | 0xef :: 0xbb :: 0xbf :: bytes => bytes
  | bytes => bytes

/-- The file of settings that is read if it is there. -/
def settingsPath : Text := "tgmd.toml".toList

/-- Goes on with a result, or fails. -/
def orFail {m : Type → Type} [Monad m] {ε α : Type} (failure : ε → Failure) :
    Except ε α → ExceptT Failure m α
  | .ok a => pure a
  | .error e => throw (failure e)

section Stages

variable {m : Type → Type} [Monad m] (sys : System m)

/-- Reads a file of settings, of which the ending may be left out. -/
def readSettingsFile (path : Text) : m (Option Text) := do
  match ← sys.read (.file path) with
  | .ok bytes => return some (Text.decodeLossy (dropMark bytes))
  | .error _ =>
    match ← sys.read (.file (path ++ ".toml".toList)) with
    | .ok bytes => return some (Text.decodeLossy (dropMark bytes))
    | .error _ => return none

def loadSettings (named? : Option Text) : ExceptT Failure m Settings := do
  let own ← ExceptT.lift (readSettingsFile sys settingsPath)
  match named? with
  | none => orFail .config (Config.load [.file own false])
  | some path =>
    let named ← ExceptT.lift (readSettingsFile sys path)
    orFail .config (Config.load [.file own false, .file named true])

def configure (named? : Option Text) (extras : Extras) : ExceptT Failure m Settings := do
  let s ← loadSettings sys named?
  let (s, _) ← orFail .extra (extras.apply s)
  return s

/-- Reads the text of an input; a lone hyphen names the standard input. -/
def readInput (input : Text) : ExceptT Failure m Text := do
  match ← sys.read (if input = ['-'] then .input else .file input) with
  | .error e => throw (.reading input e)
  | .ok bytes =>
    match Text.decode? bytes with
    | some t => return t
    | none => throw (.reading input .notText)

def writeOutput (output? : Option Text) (text : Text) : ExceptT Failure m Unit := do
  match output? with
  | some path => orFail (.writing path) (← sys.write path text)
  | none => sys.print text

def execute (s : Settings) : Command → ExceptT Failure m Unit
  | .convert input output? => do
    let source ← readInput sys input
    let text ← orFail .rendering (convertMarkdown source s.options)
    writeOutput sys output? text.toList
  | .latex input output? => do
    let source ← readInput sys input
    writeOutput sys output? (Latex.escapeLatex s.minDetectLength source)
  | .symbols => sys.print symbolsText

def program (args : List Text) : ExceptT Failure m Unit := do
  let (others, extras) := Extras.split args
  match parse others with
  | .error .usage => throw .usage
  | .error (.help topic? full) => sys.print ((HelpPage.of topic?).text full)
  | .error .version => sys.print versionText
  | .ok request =>
    let s ← configure sys request.config? extras
    match request.command? with
    | none => throw .noCommand
    | some command => execute sys s command

def finish (x : ExceptT Failure m Unit) : m Nat := do
  match ← x.run with
  | .ok () => return 0
  | .error e =>
    sys.tell e.message
    return e.code

end Stages
end Cli
end ChatMarkup
