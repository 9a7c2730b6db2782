import ChatMarkup.Text.Reader
import ChatMarkup.Decimal.Shortest

namespace ChatMarkup.Toml

def isInWord (n : Int) : Bool := -0x8000000000000000 ≤ n && n < 0x8000000000000000

/-- Reads digits of a class; an underscore may stand between two of them. -/
def digits (p : Char → Bool) : Reader Text := do
  let first ← Reader.one p
  let others ← Reader.many (Reader.one p <|> do Reader.exactly ['_']; Reader.one p)
  return first :: others

def sign : Reader Bool := do
  if ← Reader.accept ['-'] then return true
  let _ ← Reader.accept ['+']
  return false

def whole : Reader Text := do
  let t ← digits Char.isDigit
  Reader.require (t.length == 1 || t.head? != some '0')
  return t

def based (mark : Char) (base : Nat) : Reader Int := do
  Reader.exactly ['0', mark]
  let t ← digits fun c => (hexValue? c).any (· < base)
  return Text.valueIn base t

def integer : Reader Int := do
  let decimal : Reader Int := do
    let negative ← sign
    let n := Text.digitsValue (← whole)
    return if negative then -n else n
  let n ← based 'x' 16 <|> based 'o' 8 <|> based 'b' 2 <|> decimal
  Reader.require (isInWord n)
  return n

def exponent : Reader Int := do
  let _ ← Reader.one fun c => c == 'e' || c == 'E'
  let negative ← sign
  let n := Text.digitsValue (← digits Char.isDigit)
  return if negative then -n else n

/-- Reads the places after a decimal point. -/
def places : Reader Text := do
  Reader.exactly ['.']
  digits Char.isDigit

/-- Reads a number with a decimal point or an exponent; one too large is refused. -/
def fraction : Reader Float := do
  let negative ← sign
  let before ← whole
  let (after, exponent) ← (do
    let after ← places
    return (after, ← exponent <|> pure 0)) <|> (do return ([], ← exponent))
  let x := Decimal.nearest (Text.digitsValue (before ++ after)) (exponent - after.length)
  Reader.require (negative || !x.isInf)
  return if negative then -x else x

/-- Reads a number that is infinite or none. -/
def special : Reader Float := do
  let negative ← sign
  let x ← (do Reader.exactly "inf".toList; return 1 / 0) <|>
    (do Reader.exactly "nan".toList; return 0 / 0)
  return if negative then -x else x

def float : Reader Float := fraction <|> special

def twoDigits (low high : Nat) : Reader Text := do
  let t := [← Reader.one Char.isDigit, ← Reader.one Char.isDigit]
  Reader.require (low ≤ Text.digitsValue t && Text.digitsValue t ≤ high)
  return t

def daysOf (year month : Nat) : Nat :=
  if month = 2 then (if year % 4 = 0 ∧ (year % 100 ≠ 0 ∨ year % 400 = 0) then 29 else 28)
  else if month = 4 ∨ month = 6 ∨ month = 9 ∨ month = 11 then 30
  else 31

def date : Reader Text := do
  let year := [← Reader.one Char.isDigit, ← Reader.one Char.isDigit, ← Reader.one Char.isDigit,
    ← Reader.one Char.isDigit]
  Reader.exactly ['-']
  let month ← twoDigits 1 12
  Reader.exactly ['-']
  let day ← twoDigits 1 (daysOf (Text.digitsValue year) (Text.digitsValue month))
  return year ++ '-' :: month ++ '-' :: day

/-- The digits of a second that are kept. -/
def secondPlaces : Nat := 9

/-- Reads a time; needless zeros at its end are dropped. -/
def time : Reader Text := do
  let hour ← twoDigits 0 23
  Reader.exactly [':']
  let minute ← twoDigits 0 59
  Reader.exactly [':']
  let second ← twoDigits 0 60
  let part ← if ← Reader.accept ['.'] then Reader.some1 Char.isDigit else pure []
  let part := Text.dropEndWhile (· == '0') (part.take secondPlaces)
  return hour ++ ':' :: minute ++ ':' :: second ++ (if part.isEmpty then [] else '.' :: part)

def offset : Reader Text := do
  let mark ← Reader.one fun c => ['Z', 'z', '+', '-'].contains c
  if mark == 'Z' || mark == 'z' then
    return ['Z']
  let hours ← twoDigits 0 23
  Reader.exactly [':']
  let minutes ← twoDigits 0 59
  let isZero := Text.digitsValue hours == 0 && Text.digitsValue minutes == 0
  return (if isZero then '+' else mark) :: hours ++ ':' :: minutes

def moment : Reader Text := do
  let timeOfDate : Reader Text := do
    let _ ← Reader.one fun c => ['T', 't', ' '].contains c
    let t ← time
    return 'T' :: t ++ (← offset <|> pure [])
  (do return (← date) ++ (← timeOfDate <|> pure [])) <|> time

end ChatMarkup.Toml
