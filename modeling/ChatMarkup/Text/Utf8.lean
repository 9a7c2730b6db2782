import ChatMarkup.Text.Basic

namespace ChatMarkup.Text

def encode (t : Text) : List UInt8 := t.flatMap String.utf8EncodeChar

def isIn (low high : UInt8) (b : UInt8) : Bool := low ≤ b && b ≤ high

/-- What the bytes after a first byte must be, for each of them. -/
def following (first : UInt8) : List (UInt8 → Bool) :=
  let any := isIn 0x80 0xbf
  if isIn 0xc2 0xdf first then [any]
  else if first = 0xe0 then [isIn 0xa0 0xbf, any]
  else if first = 0xed then [isIn 0x80 0x9f, any]
  else if isIn 0xe1 0xef first then [any, any]
  else if first = 0xf0 then [isIn 0x90 0xbf, any, any]
  else if isIn 0xf1 0xf3 first then [any, any, any]
  else if first = 0xf4 then [isIn 0x80 0x8f, any, any]
  else []

/-- The bits that a first byte adds to the number of a character. -/
def firstBits (first : UInt8) : Nat :=
  if first < 0x80 then first.toNat
  else if first < 0xe0 then first.toNat % 0x20
  else if first < 0xf0 then first.toNat % 0x10
  else first.toNat % 0x08

/-- The characters of some bytes, and `none` for each part that is no character: a byte that cannot
start one, or the start of one that is broken off. `number` is what has been read of the current
character, whose other bytes are to be as `expected`. -/
def partsFrom (number : Nat) : List (UInt8 → Bool) → List UInt8 → List (Option Char)
  | [], [] => []
  | _ :: _, [] => [none]
  | expected, b :: bytes =>
    let start : List (Option Char) :=
      if b < 0x80 then some (Char.ofNat b.toNat) :: partsFrom 0 [] bytes
      else
        match following b with
        | [] => none :: partsFrom 0 [] bytes
        | more => partsFrom (firstBits b) more bytes
    match expected with
    | [] => start
    | p :: more =>
      if p b then
        let number := 0x40 * number + b.toNat % 0x40
        if more.isEmpty then some (Char.ofNat number) :: partsFrom 0 [] bytes
        else partsFrom number more bytes
      else none :: start

/-- The characters of some bytes, and `none` for each part that is no character. -/
def parts (bytes : List UInt8) : List (Option Char) := partsFrom 0 [] bytes

def decode? (bytes : List UInt8) : Option Text := (parts bytes).mapM id

def decodeLossy (bytes : List UInt8) : Text := (parts bytes).map (·.getD '\ufffd')

theorem decode?_eq_some_iff {bytes : List UInt8} {t : Text} :
    decode? bytes = some t ↔ parts bytes = t.map some := by
  rw [decode?]
  generalize parts bytes = l
  induction l generalizing t with
  | nil => cases t <;> simp
  | cons a l ih =>
    cases a with
    | none => cases t <;> simp
    | some c =>
      cases t with
      | nil =>
        rw [List.mapM_cons]
        cases List.mapM id l <;> simp
      | cons d t =>
        simp only [List.mapM_cons, id_eq, Option.bind_eq_bind, Option.bind_some, Option.pure_def,
          Option.bind_eq_some_iff, Option.some.injEq, List.cons.injEq, List.map_cons]
        constructor
        · rintro ⟨u, hu, rfl, rfl⟩
          exact ⟨rfl, ih.mp hu⟩
        · rintro ⟨rfl, h⟩
          exact ⟨t, ih.mpr h, rfl, rfl⟩

end ChatMarkup.Text
