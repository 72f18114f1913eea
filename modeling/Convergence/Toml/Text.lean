import Convergence.Toml.Scalar

/-!
# `Convergence.Toml.Text`: strings of TOML

Strings between double quotes know escapes, those between single quotes do not; three quotes
enclose a string of several lines, whose first line break is left out if nothing stands before it.
Each function reads on from behind the opening quotes and gives back what follows the closing ones.
-/

set_option autoImplicit false

namespace Convergence.Toml

/-- What was read and what follows it. -/
abbrev Read (α : Type) := α × List Char

/-- A character that must not stand in a string or a comment. -/
def isControl (c : Char) : Bool := (c.toNat < 0x20 && c ≠ '\t') || c.toNat = 0x7F

/-- The character of a one-letter escape. -/
def escaped? : Char → Option Char
  | 'b' => some (Char.ofNat 8)
  | 't' => some '\t'
  | 'n' => some '\n'
  | 'f' => some (Char.ofNat 12)
  | 'r' => some '\r'
  | 'e' => some (Char.ofNat 27)
  | '"' => some '"'
  | '\\' => some '\\'
  | _ => none

/-- The character with that code point in hexadecimal. -/
def codePoint? (ds : List Char) : Option Char := do
  let n := ofDigits 16 (← ds.mapM hexDigit?)
  if n < 0xD800 ∨ (0xDFFF < n ∧ n < 0x110000) then some (Char.ofNat n) else none

/-- Reads up to the closing double quote; `acc` is what has been read, backwards. -/
def basicString (acc : List Char) : List Char → Except Error (Read String)
  | [] => .error .unexpectedEnd
  | '"' :: cs => .ok (String.ofList acc.reverse, cs)
  | '\\' :: 'u' :: a :: b :: c :: d :: cs =>
    match codePoint? [a, b, c, d] with
    | some x => basicString (x :: acc) cs
    | none => .error .invalidEscape
  | '\\' :: 'U' :: a :: b :: c :: d :: e :: f :: g :: h :: cs =>
    match codePoint? [a, b, c, d, e, f, g, h] with
    | some x => basicString (x :: acc) cs
    | none => .error .invalidEscape
  | '\\' :: 'x' :: a :: b :: cs =>
    match codePoint? [a, b] with
    | some x => basicString (x :: acc) cs
    | none => .error .invalidEscape
  | '\\' :: c :: cs =>
    match escaped? c with
    | some x => basicString (x :: acc) cs
    | none => .error .invalidEscape
  | c :: cs => if isControl c then .error .controlCharacter else basicString (c :: acc) cs

/-- Reads up to the closing single quote. -/
def literalString (acc : List Char) : List Char → Except Error (Read String)
  | [] => .error .unexpectedEnd
  | '\'' :: cs => .ok (String.ofList acc.reverse, cs)
  | c :: cs => if isControl c then .error .controlCharacter else literalString (c :: acc) cs

/-- Where a string of several lines stands. -/
inductive LineMode where
  | text
  /-- After a backslash at the end of a line: only blanks up to the line break. -/
  | lineEnd
  /-- At the start of the lines after it, where blanks and line breaks are left out. -/
  | lineStart
  deriving DecidableEq

/-- Reads up to three closing double quotes, with up to two more before them. -/
def basicLines (mode : LineMode) (acc : List Char) : List Char → Except Error (Read String)
  | [] => .error .unexpectedEnd
  | '"' :: '"' :: '"' :: '"' :: '"' :: cs =>
    if mode = .lineEnd then .error .invalidEscape
    else .ok (String.ofList ('"' :: '"' :: acc).reverse, cs)
  | '"' :: '"' :: '"' :: '"' :: cs =>
    if mode = .lineEnd then .error .invalidEscape
    else .ok (String.ofList ('"' :: acc).reverse, cs)
  | '"' :: '"' :: '"' :: cs =>
    if mode = .lineEnd then .error .invalidEscape else .ok (String.ofList acc.reverse, cs)
  | '\r' :: '\n' :: cs =>
    if mode = .text then basicLines .text ('\n' :: acc) cs else basicLines .lineStart acc cs
  | '\n' :: cs =>
    if mode = .text then basicLines .text ('\n' :: acc) cs else basicLines .lineStart acc cs
  | c :: cs =>
    if mode ≠ .text ∧ (c = ' ' ∨ c = '\t') then basicLines mode acc cs
    else if mode = .lineEnd then .error .invalidEscape
    else if c = '\\' then
      match cs with
      | 'u' :: a :: b :: c :: d :: cs =>
        match codePoint? [a, b, c, d] with
        | some x => basicLines .text (x :: acc) cs
        | none => .error .invalidEscape
      | 'U' :: a :: b :: c :: d :: e :: f :: g :: h :: cs =>
        match codePoint? [a, b, c, d, e, f, g, h] with
        | some x => basicLines .text (x :: acc) cs
        | none => .error .invalidEscape
      | 'x' :: a :: b :: cs =>
        match codePoint? [a, b] with
        | some x => basicLines .text (x :: acc) cs
        | none => .error .invalidEscape
      | '\r' :: '\n' :: cs => basicLines .lineStart acc cs
      | '\n' :: cs => basicLines .lineStart acc cs
      | d :: cs =>
        if d = ' ' ∨ d = '\t' then basicLines .lineEnd acc cs
        else match escaped? d with
          | some x => basicLines .text (x :: acc) cs
          | none => .error .invalidEscape
      | [] => .error .unexpectedEnd
    else if isControl c then .error .controlCharacter
    else basicLines .text (c :: acc) cs

/-- Reads up to three closing single quotes, with up to two more before them. -/
def literalLines (acc : List Char) : List Char → Except Error (Read String)
  | [] => .error .unexpectedEnd
  | '\'' :: '\'' :: '\'' :: '\'' :: '\'' :: cs =>
    .ok (String.ofList ('\'' :: '\'' :: acc).reverse, cs)
  | '\'' :: '\'' :: '\'' :: '\'' :: cs => .ok (String.ofList ('\'' :: acc).reverse, cs)
  | '\'' :: '\'' :: '\'' :: cs => .ok (String.ofList acc.reverse, cs)
  | '\r' :: '\n' :: cs => literalLines ('\n' :: acc) cs
  | '\n' :: cs => literalLines ('\n' :: acc) cs
  | c :: cs => if isControl c then .error .controlCharacter else literalLines (c :: acc) cs

/-- A line break directly behind opening quotes is left out. -/
def skipFirstBreak : List Char → List Char
  | '\r' :: '\n' :: cs => cs
  | '\n' :: cs => cs
  | cs => cs

/-- The string that begins here, if one does. -/
def string? (cs : List Char) : Option (Except Error (Read String)) :=
  match cs with
  | '"' :: '"' :: '"' :: cs => some (basicLines .text [] (skipFirstBreak cs))
  | '\'' :: '\'' :: '\'' :: cs => some (literalLines [] (skipFirstBreak cs))
  | '"' :: cs => some (basicString [] cs)
  | '\'' :: cs => some (literalString [] cs)
  | _ => none

end Convergence.Toml
