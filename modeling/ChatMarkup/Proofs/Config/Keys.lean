import ChatMarkup.Proofs.Config.Merge

namespace ChatMarkup.Config

open Value (IsLeaf lookup pick of_pick_eq_some scalar)

/-- A setting: the keys that lead to it in the table of renderings, and how it is read. -/
structure Key (α : Type) where
  path : List Text
  read? : Value → Option α
  isLeaf : IsLeaf fun v => (read? v).isSome

namespace Key

def keys {α : Type} (k : Key α) : List Text := "render".toList :: k.path

def get? {α : Type} (k : Key α) (file : Value) : Option α := (file.pick k.keys).bind k.read?

def find? {α : Type} (k : Key α) (root : Value) : Option α := (root.lookup k.keys).bind k.read?

/-- Whether a file has nothing but tables on the way to a setting, and what it has there can be
read. -/
def fits {α : Type} (k : Key α) (file : Value) : Bool :=
  file.fitsAt (fun v => (k.read? v).isSome) k.keys

def number (path : List String) : Key Nat where
  path := path.map String.toList
  read? := Value.toNat?
  isLeaf := ⟨rfl, fun _ => rfl⟩

def indentSize : Key Nat := number ["indent_size"]

def minColumnWidth : Key Nat := number ["table", "min_column_width"]

def maxColumnWidth : Key Nat := number ["table", "max_column_width"]

def minDetectLength : Key Nat := number ["math", "min_detect_length"]

def normalizeBlocks : Key Bool where
  path := ["math".toList, "normalize_blocks".toList]
  read? := Value.toBool?
  isLeaf := ⟨rfl, fun _ => rfl⟩

def defaultMarker : Key Text where
  path := ["headings".toList, "default_marker".toList]
  read? := Value.toText?
  isLeaf := ⟨rfl, fun _ => rfl⟩

def markers : Key (List Text) where
  path := ["headings".toList, "markers".toList]
  read? v := v.texts.toOption
  isLeaf := ⟨rfl, fun _ => rfl⟩

end Key

/-- Whether a file has values that can be read under all keys of settings that it has. A key that is
a written path and leads into a setting, such as to one of the markers, does not fit. -/
def fits (file : Value) : Bool :=
  Key.indentSize.fits file && Key.markers.fits file && Key.defaultMarker.fits file &&
    Key.minColumnWidth.fits file && Key.maxColumnWidth.fits file &&
      Key.normalizeBlocks.fits file && Key.minDetectLength.fits file

section

variable {α : Type} {k : Key α} {v x root : Value} {entries : Entries} {layers : List Layer}

namespace Key

theorem find?_addEntries (h : k.fits (tree entries) = true) (root : Value) :
    k.find? (addEntries root entries) = (k.get? (tree entries)).or (k.find? root) := by
  rw [find?, keys, lookup_addEntries k.isLeaf h root, ← keys, get?, find?]
  cases hx : pick k.keys (tree entries) with
  | none => rfl
  | some x =>
    obtain ⟨a, ha⟩ := Option.isSome_iff_exists.mp (of_pick_eq_some h hx)
    simp [ha]

example : indentSize.get? (tree [("Render.indent_size".toList, .int 2)]) = some 2 := by
  decide +kernel

example : markers.fits (tree [("render.headings.markers[0]".toList, .text [])]) = false := by
  decide +kernel

end Key

namespace Layer

def file? : Layer → Option Value
  | .file (some source) _ => (Toml.parse? source).map tree
  | _ => none

/-- Whether a layer is a file that has fitting values, or one that may be missing and is. -/
def fits : Layer → Bool
  | .file (some source) _ => (Toml.parse? source).any fun entries => Config.fits (tree entries)
  | .file none required => !required
  | .value _ _ => false

end Layer

/-- The setting that files give: the last one that has it. -/
def Key.given? (k : Key α) (layers : List Layer) : Option α :=
  layers.reverse.findSome? fun layer => layer.file?.bind k.get?

theorem Key.given?_cons (layer : Layer) (layers : List Layer) :
    k.given? (layer :: layers) = (k.given? layers).or (layer.file?.bind k.get?) := by
  rw [given?, List.reverse_cons, List.findSome?_append, List.findSome?_singleton, given?]

/-- That files with fitting values have one that fits under a key. -/
def Key.IsSetting (k : Key α) : Prop := ∀ file, Config.fits file = true → k.fits file = true

/-- What files leave when they are laid over a tree, under each key of a setting. -/
theorem exists_addFiles (h : ∀ layer ∈ layers, layer.fits = true) (root : Value) :
    ∃ after, addFiles root layers = .ok after ∧ ∀ {α : Type} (k : Key α), k.IsSetting →
      k.find? after = (k.given? layers).or (k.find? root) := by
  induction layers generalizing root with
  | nil => exact ⟨root, rfl, fun _ _ => rfl⟩
  | cons layer layers ih =>
    have hlayer := h layer List.mem_cons_self
    have ih := ih fun l hl => h l (List.mem_cons_of_mem layer hl)
    cases layer with
    | value path v => cases hlayer
    | file source? required =>
      cases source? with
      | none =>
        obtain rfl : required = false := by simpa [Layer.fits] using hlayer
        obtain ⟨after, hafter, hfind⟩ := ih root
        refine ⟨after, hafter, fun k hk => ?_⟩
        rw [hfind k hk, Key.given?_cons]
        simp [Layer.file?]
      | some source =>
        rw [Layer.fits, Option.any_eq_true] at hlayer
        obtain ⟨entries, hentries, hfits⟩ := hlayer
        obtain ⟨after, hafter, hfind⟩ := ih (addEntries root entries)
        refine ⟨after, ?_, fun k hk => ?_⟩
        · rw [addFiles, addFile, hentries]
          exact hafter
        · rw [hfind k hk, Key.find?_addEntries (hk _ hfits), Key.given?_cons, Layer.file?, hentries,
            Option.map_some, Option.bind_some, Option.or_assoc]

theorem overrides_of_fits (h : ∀ layer ∈ layers, layer.fits = true) :
    overrides layers = .ok [] := by
  induction layers with
  | nil => rfl
  | cons layer layers ih =>
    have hlayer := h layer List.mem_cons_self
    cases layer with
    | value path v => cases hlayer
    | file source? required => exact ih fun l hl => h l (List.mem_cons_of_mem _ hl)

def allKeys? (root : Value) : Option Settings := do
  return {
    indentSize := ← Key.indentSize.find? root
    markers := ← Key.markers.find? root
    defaultMarker := ← Key.defaultMarker.find? root
    minColumnWidth := ← Key.minColumnWidth.find? root
    maxColumnWidth := ← Key.maxColumnWidth.find? root
    normalizeBlocks := ← Key.normalizeBlocks.find? root
    minDetectLength := ← Key.minDetectLength.find? root }

theorem field?_of_get? {name : String} {place : Nat} {read : Value → Except LoadError α} {a : α}
    (hx : v.get? name.toList = some x) (ha : read x = .ok a) :
    v.field? place name read = .ok (some a) := by
  cases v with
  | table es =>
    rw [Value.get?, Value.entries] at hx
    rw [Value.field?, hx]
    dsimp only
    rw [ha]
    rfl
  | _ => cases hx

theorem field?_of_bind {name : String} {place : Nat} {read? : Value → Option α} {a : α}
    (h : (v.get? name.toList).bind read? = some a) :
    v.field? place name (scalar read?) = .ok (some a) := by
  obtain ⟨x, hx, ha⟩ := Option.bind_eq_some_iff.mp h
  exact field?_of_get? hx (by rw [scalar, ha])

theorem headings_of_bind (s : Settings) {markers : List Text} {defaultMarker : Text}
    (hmarkers : (v.get? "markers".toList).bind (·.texts.toOption) = some markers)
    (hdefault : (v.get? "default_marker".toList).bind Value.toText? = some defaultMarker) :
    v.headings s = .ok { s with markers := markers, defaultMarker := defaultMarker } := by
  obtain ⟨x, hx, ha⟩ := Option.bind_eq_some_iff.mp hmarkers
  have hread : x.texts = .ok markers := by
    cases ht : x.texts with
    | error e =>
      rw [ht] at ha
      cases ha
    | ok l =>
      rw [ht] at ha
      cases ha
      rfl
  rw [Value.headings, field?_of_get? hx hread, field?_of_bind hdefault]
  rfl

theorem tableWidths_of_bind (s : Settings) {min max : Nat}
    (hmin : (v.get? "min_column_width".toList).bind Value.toNat? = some min)
    (hmax : (v.get? "max_column_width".toList).bind Value.toNat? = some max) :
    v.tableWidths s = .ok { s with minColumnWidth := min, maxColumnWidth := max } := by
  rw [Value.tableWidths, field?_of_bind hmin, field?_of_bind hmax]
  rfl

theorem formulas_of_bind (s : Settings) {normalizeBlocks : Bool} {length : Nat}
    (hnormalize : (v.get? "normalize_blocks".toList).bind Value.toBool? = some normalizeBlocks)
    (hlength : (v.get? "min_detect_length".toList).bind Value.toNat? = some length) :
    v.formulas s =
      .ok { s with normalizeBlocks := normalizeBlocks, minDetectLength := length } := by
  rw [Value.formulas, field?_of_bind hnormalize, field?_of_bind hlength]
  rfl

theorem settings_of_allKeys? {s : Settings} (h : allKeys? root = some s) :
    root.settings = .ok s := by
  simp only [allKeys?, bind, Option.bind_eq_some_iff, pure, Option.some.injEq] at h
  obtain ⟨indentSize, hindent, markers, hmarkers, defaultMarker, hdefault, minWidth, hmin, maxWidth,
    hmax, normalizeBlocks, hnormalize, minLength, hlength, rfl⟩ := h
  simp only [Key.find?, Key.keys, Key.indentSize, Key.number, Key.markers, Key.defaultMarker,
    Key.minColumnWidth, Key.maxColumnWidth, Key.normalizeBlocks, Key.minDetectLength, lookup,
    List.map_cons, List.map_nil, Option.bind_assoc, Option.bind_some] at *
  -- Each table on the way is found once, and then it is the same for all keys below it.
  obtain ⟨v, hv, hindent⟩ := Option.bind_eq_some_iff.mp hindent
  rw [hv, Option.bind_some] at hmarkers hdefault hmin hmax hnormalize hlength
  obtain ⟨headings, hheadings, hmarkers⟩ := Option.bind_eq_some_iff.mp hmarkers
  obtain ⟨widths, hwidths, hmin⟩ := Option.bind_eq_some_iff.mp hmin
  obtain ⟨formulas, hformulas, hnormalize⟩ := Option.bind_eq_some_iff.mp hnormalize
  rw [hheadings, Option.bind_some] at hdefault
  rw [hwidths, Option.bind_some] at hmax
  rw [hformulas, Option.bind_some] at hlength
  have hrendering : v.rendering = .ok
      { indentSize := indentSize, markers := markers, defaultMarker := defaultMarker,
        minColumnWidth := minWidth, maxColumnWidth := maxWidth, normalizeBlocks := normalizeBlocks,
        minDetectLength := minLength } := by
    rw [Value.rendering, field?_of_bind hindent,
      field?_of_get? hheadings (headings_of_bind {} hmarkers hdefault),
      field?_of_get? hwidths (tableWidths_of_bind {} hmin hmax),
      field?_of_get? hformulas (formulas_of_bind {} hnormalize hlength)]
    rfl
  rw [Value.settings, field?_of_get? hv hrendering]
  rfl

/-- The settings that files give, and the default of each that none gives. -/
def settingsOf (layers : List Layer) : Settings :=
  let s : Settings := {}
  { indentSize := (Key.indentSize.given? layers).getD s.indentSize
    markers := (Key.markers.given? layers).getD s.markers
    defaultMarker := (Key.defaultMarker.given? layers).getD s.defaultMarker
    minColumnWidth := (Key.minColumnWidth.given? layers).getD s.minColumnWidth
    maxColumnWidth := (Key.maxColumnWidth.given? layers).getD s.maxColumnWidth
    normalizeBlocks := (Key.normalizeBlocks.given? layers).getD s.normalizeBlocks
    minDetectLength := (Key.minDetectLength.given? layers).getD s.minDetectLength }

/-- Files with fitting values load, and the last one that has a key gives the setting. -/
theorem load_of_files (h : ∀ layer ∈ layers, layer.fits = true) :
    load layers = .ok (settingsOf layers) := by
  obtain ⟨after, hafter, hfind⟩ := exists_addFiles h defaults
  have hleft : ∀ {α : Type} (k : Key α) (d : α), k.IsSetting → k.find? defaults = some d →
      k.find? after = some ((k.given? layers).getD d) := by
    intro α k d hk hd
    rw [hfind k hk, hd, Option.or_some]
  have hsettings : allKeys? after = some (settingsOf layers) := by
    rw [allKeys?, hleft Key.indentSize 4 ?_ rfl, hleft Key.markers defaultHeadingMarkers ?_ rfl,
      hleft Key.defaultMarker "📌".toList ?_ rfl, hleft Key.minColumnWidth 3 ?_ rfl,
      hleft Key.maxColumnWidth 0 ?_ rfl, hleft Key.normalizeBlocks false ?_ rfl,
      hleft Key.minDetectLength 5 ?_ rfl]
    · rfl
    all_goals
      intro file hfile
      simp only [fits, Bool.and_eq_true] at hfile
      simp only [hfile]
  rw [load, overrides_of_fits h, hafter]
  exact settings_of_allKeys? hsettings

end
end ChatMarkup.Config
