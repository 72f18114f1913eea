import Convergence.Toml.Table
import Convergence.Toml.Text

/-!
# `Convergence.Toml.Parser`: reading a document

A document is a sequence of lines, each with an entry or a header, and arrays may go over several
lines.  The functions read from the front of the text and give back what is left of it.  They call
each other at most twice between two characters that they pass, which is where `parse` takes their
bound from.
-/

set_option autoImplicit false

namespace Convergence.Toml

/-- Blanks within a line. -/
def isBlank (c : Char) : Bool := c = ' ' || c = '\t'

/-- The text behind blanks. -/
def skipBlanks (cs : List Char) : List Char := cs.dropWhile isBlank

/-- The text behind blanks, line breaks and comments; `comment` says that one has begun. -/
def skipLines (comment : Bool) : List Char → Except Error (List Char)
  | [] => .ok []
  | '\n' :: cs => skipLines false cs
  | '\r' :: '\n' :: cs => skipLines false cs
  | c :: cs =>
    if comment then if isControl c then .error .controlCharacter else skipLines true cs
    else if isBlank c then skipLines false cs
    else if c = '#' then skipLines true cs
    else .ok (c :: cs)

/-- The error of a character that must not stand here. -/
def unexpected {α : Type} : List Char → Except Error α
  | [] => .error .unexpectedEnd
  | c :: _ => .error (.unexpectedCharacter c)

/-- The text behind the end of the line. -/
def endLine (cs : List Char) : Except Error (List Char) :=
  match skipBlanks cs with
  | [] => .ok []
  | '\n' :: cs => skipLines false cs
  | '\r' :: '\n' :: cs => skipLines false cs
  | '#' :: cs => skipLines true cs
  | cs => unexpected cs

/-- Characters of a key without quotes. -/
def isBare (c : Char) : Bool := c.isAlphanum || c = '_' || c = '-'

/-- A part of a key. -/
def keyPart (cs : List Char) : Except Error (Read String) :=
  match cs with
  | '"' :: cs => basicString [] cs
  | '\'' :: cs => literalString [] cs
  | cs =>
    match cs.takeWhile isBare with
    | [] => unexpected cs
    | name => .ok (String.ofList name, cs.dropWhile isBare)

/-- The parts of a key, and what follows them and the blanks behind them. -/
def key : (fuel : Nat) → List Char → Except Error (Read Key)
  | 0, _ => .error .unexpectedEnd
  | fuel + 1, cs => do
    let (part, cs) ← keyPart (skipBlanks cs)
    match skipBlanks cs with
    | '.' :: cs =>
      let (rest, cs) ← key fuel cs
      return (⟨part :: rest.parents, rest.name⟩, cs)
    | cs => return (⟨[], part⟩, cs)

/-- Characters of a number or a word. -/
def isWordChar (c : Char) : Bool :=
  c.isAlphanum || c = '+' || c = '-' || c = '.' || c = '_' || c = ':'

/-- A number or a word. -/
def word (cs : List Char) : Except Error (Read Value) :=
  match cs.takeWhile isWordChar with
  | [] => unexpected cs
  | w => (ofWord w).map (·, cs.dropWhile isWordChar)

/-- Arrays and inline tables are nested no deeper than this. -/
def depthLimit : Nat := 80

mutual

/-- A value; `depth` more arrays and inline tables may open. -/
def value : (fuel : Nat) → (depth : Nat) → List Char → Except Error (Read Value)
  | 0, _, _ => .error .unexpectedEnd
  | fuel + 1, depth, cs =>
    match string? cs, cs with
    | some r, _ => r.map fun (s, cs) => (.string s, cs)
    | none, '[' :: cs =>
      if depth = 0 then .error .tooDeep else items fuel (depth - 1) [] cs
    | none, '{' :: cs =>
      if depth = 0 then .error .tooDeep else members fuel (depth - 1) [] cs
    | none, cs => word cs

/-- The elements of an array up to its end; `acc` are the earlier ones, the last one first. -/
def items :
    (fuel : Nat) → (depth : Nat) → (acc : List Value) → List Char → Except Error (Read Value)
  | 0, _, _, _ => .error .unexpectedEnd
  | fuel + 1, depth, acc, cs => do
    match ← skipLines false cs with
    | ']' :: cs => return (.array acc.reverse, cs)
    | cs =>
      let (v, cs) ← value fuel depth cs
      match ← skipLines false cs with
      | ',' :: cs => items fuel depth (v :: acc) cs
      | ']' :: cs => return (.array (v :: acc).reverse, cs)
      | cs => unexpected cs

/-- The members of an inline table up to its end; `acc` are the earlier ones. -/
def members :
    (fuel : Nat) → (depth : Nat) → (acc : Members) → List Char → Except Error (Read Value)
  | 0, _, _, _ => .error .unexpectedEnd
  | fuel + 1, depth, acc, cs => do
    match ← skipLines false cs with
    | '}' :: cs => return (.object (memberValues acc), cs)
    | cs =>
      let (k, cs) ← key cs.length cs
      match cs with
      | '=' :: cs =>
        let (v, cs) ← value fuel depth (skipBlanks cs)
        let acc ← assign k v acc
        match ← skipLines false cs with
        | ',' :: cs => members fuel depth acc cs
        | '}' :: cs => return (.object (memberValues acc), cs)
        | cs => unexpected cs
      | cs => unexpected cs

end

/-- A document while it is read: the tree, and the keys of the header under which lines stand. -/
structure State where
  root : Members := []
  header : List String := []

/-- A header, from behind its opening brackets. -/
def header (close : List Char) (enter : Key → Members → Except Error Members) (s : State)
    (cs : List Char) : Except Error (Read State) := do
  let (k, cs) ← key cs.length cs
  if close.isPrefixOf cs then
    return ({ root := ← enter k s.root, header := k.parents ++ [k.name] }, cs.drop close.length)
  else unexpected cs

/-- An entry under the current header. -/
def entry (s : State) (cs : List Char) : Except Error (Read State) := do
  let (k, cs) ← key cs.length cs
  match cs with
  | '=' :: cs =>
    let (v, cs) ← value (2 * cs.length + 2) depthLimit (skipBlanks cs)
    let root ← alter false (fun _ ms => assign k v ms) s.header .header s.root
    return ({ s with root }, cs)
  | cs => unexpected cs

/-- The lines of a document. -/
def lines : (fuel : Nat) → State → List Char → Except Error Members
  | 0, _, _ => .error .unexpectedEnd
  | fuel + 1, s, cs => do
    match cs with
    | [] => return s.root
    | cs =>
      let (s, cs) ← match cs with
        | '[' :: '[' :: cs => header [']', ']'] openItem s cs
        | '[' :: cs => header [']'] openTable s cs
        | cs => entry s cs
      lines fuel s (← endLine cs)

/-- A mark at the start that only says how the text is encoded. -/
def skipMark : List Char → List Char
  | '\uFEFF' :: cs => cs
  | cs => cs

/-- The value of a document. -/
def parse (text : String) : Except Error Value := do
  let cs ← skipLines false (skipMark text.toList)
  return .object (memberValues (← lines (cs.length + 1) {} cs))

end Convergence.Toml
