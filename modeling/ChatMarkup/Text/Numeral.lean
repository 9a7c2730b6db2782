import ChatMarkup.Text.Basic

namespace ChatMarkup

def digitValue (c : Char) : Nat := c.toNat - '0'.toNat

/-- Numbers that fit a machine word stay below this limit. -/
def wordLimit : Nat := 0x10000000000000000

def hexValue? (c : Char) : Option Nat :=
  let n := c.toNat
  if c.isDigit then some (n - 0x30)
  else if 0x61 ≤ n ∧ n ≤ 0x66 then some (n - 0x57)
  else if 0x41 ≤ n ∧ n ≤ 0x46 then some (n - 0x37)
  else none

namespace Text

def isNumber (t : Text) : Bool := !t.isEmpty && t.all Char.isDigit

def digitsValue (t : Text) : Nat := t.foldl (fun n c => 10 * n + digitValue c) 0

def valueIn (base : Nat) (t : Text) : Nat := t.foldl (fun n c => base * n + (hexValue? c).getD 0) 0

def ofNat (n : Nat) : Text := Nat.toDigits 10 n

/-- Reads a decimal numeral, with an optional plus sign, that fits a machine word. -/
def toWord? (t : Text) : Option Nat :=
  let digits := match t with
    | '+' :: rest => rest
    | _ => t
  if isNumber digits && digitsValue digits < wordLimit then some (digitsValue digits) else none

end Text
end ChatMarkup
