import ChatMarkup.Text.Basic

namespace ChatMarkup

/-- The property White_Space of Unicode: twenty-five characters. -/
def isBlank (c : Char) : Bool :=
  let n := c.toNat
  (9 ≤ n && n ≤ 13) || n == 0x20 || n == 0x85 || n == 0xa0 || n == 0x1680 ||
    (0x2000 ≤ n && n ≤ 0x200a) || n == 0x2028 || n == 0x2029 || n == 0x202f || n == 0x205f ||
    n == 0x3000

namespace Text

def trim (t : Text) : Text := dropEndWhile isBlank (t.dropWhile isBlank)

def fieldsFrom (field : Text) : Text → List Text
  | [] => if field.isEmpty then [] else [field]
  | c :: t =>
    if isBlank c then
      if field.isEmpty then fieldsFrom [] t else field :: fieldsFrom [] t
    else fieldsFrom (field ++ [c]) t

def fields (t : Text) : List Text := fieldsFrom [] t

end Text
end ChatMarkup
