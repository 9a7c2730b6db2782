import ChatMarkup.Text.Case

namespace ChatMarkup.Config

/-- A value: nothing, a scalar, a list, or a table whose keys differ. -/
inductive Value where
  | null
  | bool (b : Bool)
  | int (n : Int)
  | float (x : Float)
  | text (t : Text)
  | list (values : List Value)
  | table (entries : List (Text × Value))
  deriving Repr, Inhabited

abbrev Entries := List (Text × Value)

namespace Entries

def get? (entries : Entries) (key : Text) : Option Value := List.lookup key entries

/-- Puts a value at a key, in place of the one there. -/
def put (key : Text) (v : Value) : Entries → Entries
  | [] => [(key, v)]
  | (k, old) :: entries => if key = k then (k, v) :: entries else (k, old) :: put key v entries

theorem get?_put_self (entries : Entries) (key : Text) (v : Value) :
    (entries.put key v).get? key = some v := by
  induction entries with
  | nil => simp [put, get?]
  | cons e entries ih =>
    obtain ⟨k, old⟩ := e
    by_cases h : key = k
    · simp [put, get?, h]
    · have hb : (key == k) = false := by simpa using h
      simpa [put, get?, h, List.lookup_cons, hb] using ih

theorem get?_put_of_ne (entries : Entries) {key other : Text} (v : Value) (h : other ≠ key) :
    (entries.put key v).get? other = entries.get? other := by
  induction entries with
  | nil =>
    have hb : (other == key) = false := by simpa using h
    simp [put, get?, List.lookup_cons, hb]
  | cons e entries ih =>
    obtain ⟨k, old⟩ := e
    by_cases hk : key = k
    · subst hk
      have hb : (other == key) = false := by simpa using h
      simp [put, get?, List.lookup_cons, hb]
    · by_cases ho : other = k
      · simp [put, get?, hk, ho]
      · have hb : (other == k) = false := by simpa using ho
        simpa [put, get?, hk, List.lookup_cons, hb] using ih

end Entries

namespace Value

/-- The entries of a table; any other value has none. -/
def entries : Value → Entries
  | table es => es
  | _ => []

/-- The values of a list; any other value has none. -/
def values : Value → List Value
  | list vs => vs
  | _ => []

mutual

/-- What a new value leaves in place of an old one: a table is merged into it key by key, and any
other value replaces it. Keys are kept in small letters. -/
def store : Value → Option Value → Value
  | table new, old => storeEach new (old.getD (table []))
  | v, _ => v

def storeEach : List (Text × Value) → Value → Value
  | [], target => target
  | (key, v) :: new, target =>
    let key := Text.lower key
    let es := target.entries
    storeEach new (table (es.put key (v.store (es.get? key))))

end

def get? (v : Value) (key : Text) : Option Value := v.entries.get? key

end Value
end ChatMarkup.Config
