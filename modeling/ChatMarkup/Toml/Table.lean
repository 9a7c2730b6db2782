import ChatMarkup.Config.Value

namespace ChatMarkup.Toml

open Config (Value)

/-- How a table has come about: by its own header, by the header of a table in it, or by a key with
points. -/
inductive Origin where
  | header
  | implied
  | dotted
  deriving DecidableEq, Repr, Inhabited

/-- What a key stands for: a finished value, a table that may be extended, or a list of tables, the
newest first. -/
inductive Item where
  | value (v : Value)
  | table (origin : Origin) (entries : List (Text × Item))
  | tables (newestFirst : List (List (Text × Item)))
  deriving Inhabited

/-- The entries of a table that may be extended. -/
abbrev Items := List (Text × Item)

namespace Items

def get? (items : Items) (key : Text) : Option Item := List.lookup key items

/-- Puts an item at a key, in place of the one there. -/
def put (key : Text) (item : Item) : Items → Items
  | [] => [(key, item)]
  | (k, old) :: items => if key = k then (k, item) :: items else (k, old) :: put key item items

/-- Changes the items of a table at a key. Where a table may be, one is made; `may` says which tables
may be changed, and of a list of tables the newest one is. -/
def change (may : Origin → Bool) (made : Origin) (key : Text) (f : Items → Option Items)
    (items : Items) : Option Items :=
  match items.get? key with
  | none => (f []).map fun new => items.put key (.table made new)
  | some (.table origin old) =>
    if may origin then (f old).map fun new => items.put key (.table origin new) else none
  | some (.tables (newest :: older)) =>
    (f newest).map fun new => items.put key (.tables (new :: older))
  | _ => none

/-- Defines a key, with the names before it: keys with points extend only tables that no header has
made, and add keys only to tables that keys with points have made. -/
def define (path : List Text) (key : Text) (v : Value) (items : Items) : Option Items :=
  match path with
  | [] =>
    match items.get? key with
    | none => some (items.put key (.value v))
    | some _ => none
  | [name] =>
    match items.get? name with
    | some (.tables _) => none
    | _ => items.change (· == .dotted) .dotted name (define [] key v)
  | name :: path => items.change (· != .header) .dotted name (define path key v)

def openTable (items : Items) : List Text → Option Items
  | [] => some items
  | [name] =>
    match items.get? name with
    | none => some (items.put name (.table .header []))
    | some (.table .implied old) => some (items.put name (.table .header old))
    | _ => none
  | name :: path => items.change (fun _ => true) .implied name fun inner => openTable inner path

def openTables (items : Items) : List Text → Option Items
  | [] => some items
  | [name] =>
    match items.get? name with
    | none => some (items.put name (.tables [[]]))
    | some (.tables older) => some (items.put name (.tables ([] :: older)))
    | _ => none
  | name :: path => items.change (fun _ => true) .implied name fun inner => openTables inner path

/-- Changes the items of the table that a header has opened. -/
def within (f : Items → Option Items) (items : Items) : List Text → Option Items
  | [] => f items
  | name :: path => items.change (fun _ => true) .implied name fun inner => within f inner path

end Items

mutual

def Item.toValue : Item → Value
  | .value v => v
  | .table _ entries => .table (Items.toEntries entries)
  | .tables newestFirst => .list (Items.toTables newestFirst []) 

def Items.toEntries : List (Text × Item) → List (Text × Value)
  | [] => []
  | (key, item) :: items => (key, item.toValue) :: Items.toEntries items

def Items.toTables : List (List (Text × Item)) → List Value → List Value
  | [], later => later
  | items :: older, later => Items.toTables older (.table (Items.toEntries items) :: later)

end

end ChatMarkup.Toml
