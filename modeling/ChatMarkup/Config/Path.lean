import ChatMarkup.Config.Value
import ChatMarkup.Text.Reader
import ChatMarkup.Text.Numeral

namespace ChatMarkup.Config

/-- One step down the tree of values; places below zero count from the end of a list. -/
inductive Step where
  | name (key : Text)
  | place (n : Int)
  deriving DecidableEq, Repr, Inhabited

/-- A path starts at a key of the outermost table. -/
structure Path where
  first : Text
  steps : List Step := []
  deriving DecidableEq, Repr, Inhabited

namespace Path

def isNameChar (c : Char) : Bool := c.isAlphanum || c == ' ' || c == '_' || c == '-'

/-- Places fit a signed machine word. -/
def placeLimit : Nat := 0x8000000000000000

def place : Reader Int := do
  Reader.exactly ['[']
  let _ ← Reader.span fun c => c == ' ' || c == '\t'
  let negative ← Reader.accept ['-']
  let n := Text.digitsValue (← Reader.some1 Char.isDigit)
  Reader.require (n < placeLimit || (negative && n == placeLimit))
  let _ ← Reader.span fun c => c == ' ' || c == '\t'
  Reader.exactly [']']
  return if negative then -n else n

def step : Reader Step :=
  (do Reader.exactly ['.']; return .name (← Reader.some1 isNameChar)) <|>
    (do return .place (← place))

/-- Reads a written path, such as `a.b[0]`. -/
def parse? : Text → Option Path :=
  Reader.whole? do
    let first ← Reader.some1 isNameChar
    return ⟨first, ← Reader.many step⟩

end Path

/-- The index of a place in a list of some length. -/
def index (length : Nat) (place : Int) : Nat :=
  if place < 0 then length - place.natAbs else place.natAbs

/-- Puts a value at an index of a list, which grows as far as it must. -/
def putAt (n : Nat) (v : Value) (vs : List Value) : List Value :=
  (vs ++ List.replicate (n + 1 - vs.length) Value.null).set n v

namespace Value

/-- Sets the value at the end of some steps from a value. Whatever stands in the way becomes a table
or a list; a table is merged into a table at the end. -/
def set (new : Value) : List Step → Value → Value
  | [], old => new.store (some old)
  | [.name key], old =>
    let key := Text.lower key
    let es := old.entries
    table (es.put key (new.store (es.get? key)))
  | .name key :: steps, old =>
    let key := Text.lower key
    let es := old.entries
    table (es.put key (set new steps ((es.get? key).getD .null)))
  | [.place n], old =>
    let vs := old.values
    list (putAt (index vs.length n) new vs)
  | .place n :: steps, old =>
    let vs := old.values
    let i := index vs.length n
    list (putAt i (set new steps (vs.getD i .null)) vs)

end Value

def Path.set (p : Path) (new : Value) (root : Value) : Value :=
  root |> new.set (.name p.first :: p.steps)

end ChatMarkup.Config
