import ChatMarkup.Markdown.EntityNames
import ChatMarkup.Text.Numeral

namespace ChatMarkup.Markdown.Entity

/-- The character with a number; the number 0 and numbers of no character give the replacement
character. -/
def character (n : Nat) : Char :=
  if n = 0 ∨ ¬ n.isValidChar then '\ufffd' else Char.ofNat n

def pairs : List Text → List (Text × Text)
  | name :: numbers :: words =>
    (name, (Text.splitAt '.' numbers).map fun n => character (Text.valueIn 16 n)) :: pairs words
  | _ => []

def named : List (Text × Text) := lines.flatMap fun line => pairs (Text.splitAt ' ' line.toList)

/-- Reads a number of at most `limit` digits of a class, and the semicolon after it. -/
def number? (isDigit : Char → Bool) (limit : Nat) (value : Text → Nat) (t : Text) :
    Option (Text × Text) :=
  let digits := t.takeWhile isDigit
  match t.dropWhile isDigit with
  | ';' :: rest =>
    if digits.isEmpty || limit < digits.length then none
    else some ([character (value digits)], rest)
  | _ => none

/-- Reads a reference after its ampersand: the characters that it stands for, and what follows it.
Decimal numbers have at most seven digits, hexadecimal ones at most six. -/
def read? : Text → Option (Text × Text)
  | '#' :: 'x' :: t | '#' :: 'X' :: t =>
    number? (fun c => (hexValue? c).isSome) 6 (Text.valueIn 16) t
  | '#' :: t =>
    number? Char.isDigit 7 Text.digitsValue t
  | t =>
    let name := (t.take 32).takeWhile (· != ';')
    match t.drop name.length, named.find? (·.1 == name) with
    | ';' :: rest, some (_, image) => some (image, rest)
    | _, _ => none

def expand : Text → Text
  | [] => []
  | c :: t =>
    if c = '&' then
      match read? t with
      | some (image, rest) =>
        if rest.length < t.length then image ++ expand rest else c :: expand t
      | none => c :: expand t
    else c :: expand t
termination_by t => t.length

end ChatMarkup.Markdown.Entity
