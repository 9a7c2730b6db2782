import ChatMarkup.Cli.Program

namespace ChatMarkup.Cli

/-- What the program runs in: files, the standard input, and the working directory, by its path from
the topmost directory. What stands below the working directory goes by its path from there, all else
by its path from the topmost directory, with a slash in front. Directories that hold no file are listed
apart. -/
structure World where
  files : List (Text × List UInt8) := []
  input : List UInt8 := []
  directory : Text := "home".toList
  directories : List Text := []
  deriving DecidableEq, Repr, Inhabited

structure Report where
  code : Nat := 0
  out : Text := []
  err : Text := []
  deriving DecidableEq, Repr, Inhabited

/-- The names in a path. -/
def names (path : Text) : List Text := (Text.splitAt '/' path).filter (!·.isEmpty)

def Failure.report (e : Failure) : Report := { code := e.code, err := e.message }

namespace World

variable (w : World)

def get? (path : Text) : Option (List UInt8) := List.lookup path w.files

def here : List Text := names w.directory

/-- The names on the way from the topmost directory to what goes by a path. -/
def placeOf : Text → List Text
  | '/' :: path => names path
  | path => w.here ++ names path

/-- The path that a place goes by. -/
def pathOf (place : List Text) : Text :=
  if w.here.isPrefixOf place then Text.join ['/'] (place.drop w.here.length)
  else '/' :: Text.join ['/'] place

/-- Whether there is a directory at a place: the working directory, one that is listed, or one above
these or above a file. -/
def isDirectory (place : List Text) : Bool :=
  place.isPrefixOf w.here || w.directories.any (fun path => place.isPrefixOf (w.placeOf path)) ||
    w.files.any fun f => place.isPrefixOf (w.placeOf f.1) && place != w.placeOf f.1

/-- The file that some names lead to from a directory. The topmost directory is above itself. -/
def find (directory : List Text) : List Text → Except FileError Text
  | [] => .error .isDirectory
  | name :: names =>
    let there := directory ++ [name]
    if name = [] ∨ name = ['.'] then find directory names
    else if name = ['.', '.'] then find directory.dropLast names
    else if w.isDirectory there then find there names
    else if names.isEmpty then .ok (w.pathOf there)
    else if (w.get? (w.pathOf there)).isSome then .error .notDirectory
    else .error .notFound

def file : Text → Except FileError Text
  | [] => .error .notFound
  | '/' :: path => w.find [] (Text.splitAt '/' path)
  | path => w.find w.here (Text.splitAt '/' path)

def read : Source → Except FileError (List UInt8)
  | .input => .ok w.input
  | .file path => do
    match w.get? (← w.file path) with
    | some bytes => .ok bytes
    | none => .error .notFound

/-- Puts bytes in a file. -/
def put (path : Text) (bytes : List UInt8) : World :=
  { w with files := (path, bytes) :: w.files.filter (·.1 != path) }

theorem get?_put (path other : Text) (bytes : List UInt8) :
    (w.put path bytes).get? other = if other = path then some bytes else w.get? other := by
  by_cases h : other = path
  · simp [get?, put, h]
  · have ho : (other == path) = false := by simpa using h
    simp only [get?, put, List.lookup_cons, ho, if_neg h]
    exact Text.lookup_filter (q := (· != path)) (bne_iff_ne.mpr h) w.files

/-- Writes a text to a file. -/
def write (path text : Text) : Except FileError World := do
  return w.put (← w.file path) (Text.encode text)

end World

/-- A world in which the program is running, and what has been shown and told. -/
structure Session where
  world : World
  out : Text := []
  err : Text := []
  deriving DecidableEq, Repr, Inhabited

def Session.system : System (StateM Session) where
  read source := return (← get).world.read source
  write path text := do
    match (← get).world.write path text with
    | .ok world =>
      modify fun s => { s with world := world }
      return .ok ()
    | .error e => return .error e
  print text := modify fun s => { s with out := s.out ++ text }
  tell text := modify fun s => { s with err := s.err ++ text }

namespace World

/-- Does something in a world: the world afterwards, and what is shown. -/
def exec (w : World) (x : ExceptT Failure (StateM Session) Unit) : World × Report :=
  let (code, s) := (finish Session.system x).run { world := w }
  (s.world, { code := code, out := s.out, err := s.err })

def run (w : World) (args : List Text) : World × Report := w.exec (program Session.system args)

end World
end ChatMarkup.Cli
