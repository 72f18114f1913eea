import Convergence.Number.Decimal
import Convergence.Value

/-!
# `Convergence.Value.Printer`: the JSON text of a value

Members and elements without blanks between them.  Only quotes, backslashes and control characters
are escaped.  A float that is no number is written as null.
-/

set_option autoImplicit false

namespace Convergence.Value

/-- A character inside a string. -/
def escapedChar (c : Char) : List Char :=
  if c = '"' then ['\\', '"']
  else if c = '\\' then ['\\', '\\']
  else if c = '\n' then ['\\', 'n']
  else if c = '\r' then ['\\', 'r']
  else if c = '\t' then ['\\', 't']
  else if c.toNat = 8 then ['\\', 'b']
  else if c.toNat = 12 then ['\\', 'f']
  else if c.toNat < 0x20 then '\\' :: 'u' :: paddedDigits 16 4 c.toNat
  else [c]

/-- A string between quotes. -/
def stringText (s : String) : List Char := '"' :: (s.toList.flatMap escapedChar ++ ['"'])

mutual

/-- The text of the value, before what follows. -/
def chars (v : Value) (rest : List Char) : List Char :=
  match v with
  | null => 'n' :: 'u' :: 'l' :: 'l' :: rest
  | bool true => 't' :: 'r' :: 'u' :: 'e' :: rest
  | bool false => 'f' :: 'a' :: 'l' :: 's' :: 'e' :: rest
  | int n => (intText n).toList ++ rest
  | float x =>
    if x.isFinite then (x.messageText .double).toList ++ rest else 'n' :: 'u' :: 'l' :: 'l' :: rest
  | string s => stringText s ++ rest
  | array items => '[' :: itemChars items true (']' :: rest)
  | object members => '{' :: memberChars members true ('}' :: rest)

/-- The elements of an array, a comma before each but the first. -/
def itemChars (vs : List Value) (first : Bool) (rest : List Char) : List Char :=
  match vs with
  | [] => rest
  | v :: vs =>
    let text := chars v (itemChars vs false rest)
    if first then text else ',' :: text

/-- The members of an object, a comma before each but the first. -/
def memberChars (ms : List (String × Value)) (first : Bool) (rest : List Char) : List Char :=
  match ms with
  | [] => rest
  | (k, v) :: ms =>
    let text := stringText k ++ ':' :: chars v (memberChars ms false rest)
    if first then text else ',' :: text

end

/-- The JSON text of the value. -/
def print (v : Value) : String := String.ofList (chars v [])

end Convergence.Value
