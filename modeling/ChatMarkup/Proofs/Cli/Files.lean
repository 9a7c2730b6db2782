import ChatMarkup.Cli.World
import Mathlib.Tactic.SplitIfs

namespace ChatMarkup.Cli

/-- Whether names can be those of directories and files. -/
def IsPlace (place : List Text) : Prop := ∀ name ∈ place, name ≠ [] ∧ '/' ∉ name

variable {place above : List Text} {name path : Text}

theorem isPlace_names (path : Text) : IsPlace (names path) := by
  intro name hname
  rw [names, List.mem_filter] at hname
  exact ⟨by simpa using hname.2, Text.notMem_of_mem_splitAt '/' path name hname.1⟩

theorem IsPlace.concat (h : IsPlace place) (hne : name ≠ []) (hslash : '/' ∉ name) :
    IsPlace (place ++ [name]) := by
  intro other hother
  rcases List.mem_append.mp hother with hother | hother
  · exact h other hother
  · rw [List.mem_singleton.mp hother]
    exact ⟨hne, hslash⟩

theorem IsPlace.of_append (h : IsPlace (above ++ place)) : IsPlace place :=
  fun name hname => h name (List.mem_append_right _ hname)

theorem names_join (h : IsPlace place) : names (Text.join ['/'] place) = place := by
  by_cases hplace : place = []
  · rw [hplace]
    rfl
  · rw [names, Text.splitAt_join hplace fun name hname => (h name hname).2]
    exact List.filter_eq_self.mpr fun name hname => by simpa using (h name hname).1

namespace World

variable {w : World} {bytes : List UInt8} {text : Text}

theorem placeOf_join (h : IsPlace place) :
    w.placeOf (Text.join ['/'] place) = w.here ++ place := by
  have hnames := names_join h
  cases place with
  | nil => rw [← hnames]; rfl
  | cons name place =>
    obtain ⟨hne, hslash⟩ := h name List.mem_cons_self
    cases name with
    | nil => exact absurd rfl hne
    | cons c name =>
      rw [Text.join_cons_head] at hnames ⊢
      have hc : c ≠ '/' := fun hc => hslash (hc ▸ List.mem_cons_self)
      unfold placeOf
      split
      · rename_i heq
        cases heq
        exact absurd rfl hc
      · rw [hnames]

theorem placeOf_pathOf (h : IsPlace place) : w.placeOf (w.pathOf place) = place := by
  rw [pathOf]
  split_ifs with hhere
  · obtain ⟨below, rfl⟩ := List.isPrefixOf_iff_prefix.mp hhere
    rw [List.drop_left, placeOf_join h.of_append]
  · exact names_join h

theorem isDirectory_iff : w.isDirectory place = true ↔ place <+: w.here ∨
    (∃ path ∈ w.directories, place <+: w.placeOf path) ∨
      ∃ f ∈ w.files, place <+: w.placeOf f.1 ∧ place ≠ w.placeOf f.1 := by
  simp [isDirectory, or_assoc]

theorem isDirectory_above (h : w.isDirectory place = true) (habove : above <+: place) :
    w.isDirectory above = true := by
  rw [isDirectory_iff] at h ⊢
  rcases h with h | ⟨path, hpath, h⟩ | ⟨f, hf, h, hne⟩
  · exact Or.inl (habove.trans h)
  · exact Or.inr (Or.inl ⟨path, hpath, habove.trans h⟩)
  · refine Or.inr (Or.inr ⟨f, hf, habove.trans h, ?_⟩)
    intro heq
    exact hne (h.eq_of_length_le (heq ▸ habove.length_le))

/-- A file that is put into a directory makes no directories. -/
theorem isDirectory_put (hplace : w.placeOf path = place ++ [name])
    (hdir : w.isDirectory place = true) (other : List Text) :
    (w.put path bytes).isDirectory other = w.isDirectory other := by
  rw [Bool.eq_iff_iff]
  constructor
  · intro h
    rw [isDirectory_iff] at h
    rcases h with h | h | ⟨f, hf, h, hne⟩
    · exact isDirectory_iff.mpr (Or.inl h)
    · exact isDirectory_iff.mpr (Or.inr (Or.inl h))
    · rcases List.mem_cons.mp hf with rfl | hf
      · change other <+: w.placeOf path at h
        change other ≠ w.placeOf path at hne
        rw [hplace] at h hne
        have habove : other <+: place := (List.prefix_concat_iff.mp h).resolve_left hne
        exact isDirectory_above hdir habove
      · exact isDirectory_iff.mpr (Or.inr (Or.inr ⟨f, (List.mem_filter.mp hf).1, h, hne⟩))
  · intro h
    rw [isDirectory_iff] at h ⊢
    rcases h with h | h | ⟨f, hf, h⟩
    · exact Or.inl h
    · exact Or.inr (Or.inl h)
    · refine Or.inr (Or.inr ?_)
      by_cases hpath : f.1 = path
      · rw [hpath] at h
        exact ⟨(path, bytes), List.mem_cons_self, h⟩
      · have hkept : f ∈ w.files.filter (·.1 != path) :=
          List.mem_filter.mpr ⟨hf, by simpa using hpath⟩
        exact ⟨f, List.mem_cons_of_mem _ hkept, h⟩

/-- What some names lead to goes by its path, and stands in a directory. -/
theorem exists_of_find {directory rest : List Text} (hdirectory : IsPlace directory)
    (hdir : w.isDirectory directory = true) (hrest : ∀ name ∈ rest, '/' ∉ name)
    (h : w.find directory rest = .ok path) :
    ∃ place name, w.placeOf path = place ++ [name] ∧ w.isDirectory place = true := by
  induction rest generalizing directory with
  | nil => cases h
  | cons name rest ih =>
    have hslash := hrest name List.mem_cons_self
    have hlater := fun other ho => hrest other (List.mem_cons_of_mem _ ho)
    rw [find] at h
    split_ifs at h with hskip hup hinto hlast hfile
    · exact ih hdirectory hdir hlater h
    · refine ih ?_ (isDirectory_above hdir (List.dropLast_prefix _)) hlater h
      exact fun other ho => hdirectory other ((List.dropLast_prefix directory).subset ho)
    · exact ih (hdirectory.concat (fun hnil => hskip (Or.inl hnil)) hslash) hinto hlater h
    · cases h
      refine ⟨directory, name, placeOf_pathOf ?_, hdir⟩
      exact hdirectory.concat (fun hnil => hskip (Or.inl hnil)) hslash

theorem find_congr {v : World} {directory rest : List Text} (hhere : v.here = w.here)
    (hsame : ∀ place, v.isDirectory place = w.isDirectory place)
    (h : w.find directory rest = .ok path) : v.find directory rest = .ok path := by
  induction rest generalizing directory with
  | nil => cases h
  | cons name rest ih =>
    rw [find] at h ⊢
    rw [hsame]
    split_ifs at h ⊢ with hskip hup hinto hlast hfile
    · exact ih h
    · exact ih h
    · exact ih h
    · rw [← h, pathOf, pathOf, hhere]

theorem find_put {file : Text} {directory rest : List Text} (hdirectory : IsPlace directory)
    (hdir : w.isDirectory directory = true) (hrest : ∀ name ∈ rest, '/' ∉ name)
    (h : w.find directory rest = .ok file) : (w.put file bytes).find directory rest = .ok file := by
  obtain ⟨place, name, hplace, habove⟩ := exists_of_find hdirectory hdir hrest h
  exact find_congr (w := w) rfl (isDirectory_put hplace habove) h

theorem file_cons_of_ne {c : Char} (hc : c ≠ '/') (path : Text) :
    w.file (c :: path) = w.find w.here (Text.splitAt '/' (c :: path)) := by
  unfold file
  split
  · rename_i heq
    cases heq
  · rename_i heq
    cases heq
    exact absurd rfl hc
  · rfl

/-- A path leads to the same file after a write to that file. -/
theorem file_put {file : Text} (h : w.file path = .ok file) :
    (w.put file bytes).file path = .ok file := by
  have hrest := Text.notMem_of_mem_splitAt '/'
  cases path with
  | nil => cases h
  | cons c path =>
    by_cases hc : c = '/'
    · subst hc
      have htop : w.isDirectory [] = true := isDirectory_iff.mpr (Or.inl List.nil_prefix)
      exact find_put (List.forall_mem_nil _) htop (hrest path) h
    · have hhere : w.isDirectory w.here = true := isDirectory_iff.mpr (Or.inl (List.prefix_refl _))
      rw [file_cons_of_ne hc] at h ⊢
      exact find_put (isPlace_names _) hhere (hrest _) h

theorem read_of_file {file : Text} (hfile : w.file path = .ok file)
    (hbytes : w.get? file = some bytes) : w.read (.file path) = .ok bytes := by
  rw [read, hfile]
  dsimp only [bind, Except.bind]
  rw [hbytes]

/-- What is written to a path is read back from it. -/
theorem read_of_write {after : World} (h : w.write path text = .ok after) :
    after.read (.file path) = .ok (Text.encode text) := by
  cases hfile : w.file path with
  | error e =>
    rw [write, hfile] at h
    cases h
  | ok file =>
    rw [write, hfile] at h
    cases h
    have hbytes : (w.put file (Text.encode text)).get? file = some (Text.encode text) := by
      rw [get?_put, if_pos rfl]
    exact read_of_file (file_put hfile) hbytes

end World
end ChatMarkup.Cli
