import ChatMarkup.Toml.Quoted
import ChatMarkup.Toml.Number
import ChatMarkup.Toml.Table

namespace ChatMarkup.Toml

open Config (Value)

/-- Reads the rest of a list, at most `limit` values. -/
def listItems (value : Reader Value) : Nat → Reader (List Value)
  | 0 => failure
  | limit + 1 => do
    gap
    if ← Reader.accept [']'] then return []
    let v ← value
    gap
    if ← Reader.accept [','] then return v :: (← listItems value limit)
    Reader.exactly [']']
    return [v]

def pair (value : Reader Value) : Reader (List Text × Value) := do
  let path ← key
  pad
  Reader.exactly ['=']
  pad
  return (path, ← value)

/-- Reads the rest of an inline table, at most `limit` keys. -/
def inlinePairs (value : Reader Value) : Nat → Reader (List (List Text × Value))
  | 0 => failure
  | limit + 1 => do
    pad
    let p ← pair value
    pad
    if ← Reader.accept [','] then return p :: (← inlinePairs value limit)
    Reader.exactly ['\x7d']
    return [p]

def Items.addPair (items : Items) (p : List Text × Value) : Option Items :=
  match p.1.getLast? with
  | some key => items.define p.1.dropLast key p.2
  | none => none

def inlineTable (value : Reader Value) : Reader Value := do
  pad
  if ← Reader.accept ['\x7d'] then return .table []
  let pairs ← inlinePairs value (← StateT.get).length
  let items ← Reader.get (pairs.foldlM Items.addPair ([] : Items))
  return .table (Items.toEntries items)

/-- Lists and tables are nested at most this deep. -/
def nestingLimit : Nat := 80

def value : Nat → Reader Value
  | 0 => failure
  | depth + 1 => do
    match ← Reader.peek? with
    | some '[' =>
      Reader.exactly ['[']
      return .list (← listItems (value depth) (← StateT.get).length)
    | some '\x7b' =>
      Reader.exactly ['\x7b']
      inlineTable (value depth)
    | some '\x22' | some '\'' => return .text (← string)
    | some 't' =>
      Reader.exactly "true".toList
      return .bool true
    | some 'f' =>
      Reader.exactly "false".toList
      return .bool false
    | _ =>
      (do return .text (← moment)) <|> (do return .float (← float)) <|>
        (do return .int (← integer))

inductive Line where
  | empty
  | pair (path : List Text) (v : Value)
  | header (path : List Text)
  | listHeader (path : List Text)

def header (opening closing : Text) : Reader (List Text) := do
  Reader.exactly opening
  pad
  let path ← key
  pad
  Reader.exactly closing
  return path

def lineContent : Reader Line := do
  match ← Reader.peek? with
  | none | some '#' | some '\n' | some '\r' => return .empty
  | some '[' =>
    if ← Reader.looksAt ['[', '['] then return .listHeader (← header ['[', '['] [']', ']'])
    return .header (← header ['['] [']'])
  | some _ =>
    let (path, v) ← pair (value nestingLimit)
    return .pair path v

def line : Reader Line := do
  pad
  let content ← lineContent
  pad
  comment
  lineEnd <|> Reader.atEnd
  return content

/-- A document that has been read in part: its tables, and the header of the table at its end. -/
structure Draft where
  items : Items := []
  current : List Text := []
  deriving Inhabited

def Draft.add (d : Draft) : Line → Option Draft
  | .empty => some d
  | .pair path v =>
    (d.items.within (·.addPair (path, v)) d.current).map fun items => { d with items := items }
  | .header path => (d.items.openTable path).map fun items => ⟨items, path⟩
  | .listHeader path => (d.items.openTables path).map fun items => ⟨items, path⟩

/-- Reads a document: its keys with their values. A byte order mark may stand at its front. -/
def parse? (source : Text) : Option (List (Text × Value)) := do
  let source := match source with
    | '\ufeff' :: t => t
    | t => t
  let lines ← (do let lines ← Reader.many line; Reader.atEnd; pure lines).run' source
  let d ← lines.foldlM Draft.add {}
  return Items.toEntries d.items

end ChatMarkup.Toml
