import ChatMarkup.Config.Path
import ChatMarkup.Config.Settings
import ChatMarkup.Toml.Document

namespace ChatMarkup.Config

/-- What is laid over the defaults: a file, if there is one, that may have to be there, or a single
value at a path. -/
inductive Layer where
  | file (source? : Option Text) (required : Bool)
  | value (path : Text) (v : Value)

def defaults : Value :=
  let s : Settings := {}
  .table [("render".toList, .table [
    ("indent_size".toList, .int s.indentSize),
    ("headings".toList, .table [
      ("markers".toList, .list (s.markers.map .text)),
      ("default_marker".toList, .text s.defaultMarker)]),
    ("table".toList, .table [
      ("min_column_width".toList, .int s.minColumnWidth),
      ("max_column_width".toList, .int s.maxColumnWidth)]),
    ("math".toList, .table [
      ("normalize_blocks".toList, .bool s.normalizeBlocks),
      ("min_detect_length".toList, .int s.minDetectLength)])])]

/-- Lays the entries of a file over a tree. A key at the front of a file may be a written path. -/
def addEntries (root : Value) (entries : Entries) : Value :=
  entries.foldl (fun root (key, v) => ((Path.parse? key).getD ⟨key, []⟩).set v root) root

def addFile (root : Value) (source? : Option Text) (required : Bool) : Except LoadError Value :=
  match source? with
  | none => if required then .error .missingFile else .ok root
  | some source =>
    match Toml.parse? source with
    | some entries => .ok (addEntries root entries)
    | none => .error .malformedFile

/-- The single values among some layers, in order; of two at one path the later one. -/
def overrides : List Layer → Except LoadError (List (Path × Value))
  | [] => .ok []
  | .file _ _ :: layers => overrides layers
  | .value path v :: layers =>
    match Path.parse? path with
    | none => .error .malformedPath
    | some p => do
      let later ← overrides layers
      return if later.any (·.1 == p) then later else (p, v) :: later

def addFiles (root : Value) : List Layer → Except LoadError Value
  | [] => .ok root
  | .file source? required :: layers => do addFiles (← addFile root source? required) layers
  | .value _ _ :: layers => addFiles root layers

def load (layers : List Layer) : Except LoadError Settings := do
  let values ← overrides layers
  let root ← addFiles defaults layers
  (values.foldl (fun root (p, v) => p.set v root) root).settings

end ChatMarkup.Config
