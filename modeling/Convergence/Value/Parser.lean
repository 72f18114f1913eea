import Convergence.Document
import Convergence.Text.Quoted
import Convergence.Value.Number

/-!
# `Convergence.Value.Parser`: reading a value from its JSON text

A text is read one character at a time.  `Scan` is what the characters since the last token
amount to, and `Pending` is what the tokens so far amount to: the open arrays and objects, and
what may come next.  Arrays and objects are nested at most 127 deep.
-/

set_option autoImplicit false

namespace Convergence

/-- What is wrong with a text that should hold one value. -/
inductive SyntaxError where
  | unexpectedEnd
  | unexpectedCharacter (c : Char)
  | unexpectedValue
  | invalidWord (word : String)
  | invalidEscape
  | loneSurrogate
  | controlCharacter
  | numberOutOfRange
  | tooDeep
  deriving DecidableEq, Repr

namespace SyntaxError

/-- The text of the error. -/
def message : SyntaxError → String
  | unexpectedEnd => "the text ends too early"
  | unexpectedCharacter c => s!"unexpected character {Text.quoted c.toString}"
  | unexpectedValue => "a value where none may stand"
  | invalidWord w => s!"neither a number nor a known word: {Text.quoted w}"
  | invalidEscape => "invalid escape"
  | loneSurrogate => "lone surrogate in an escape"
  | controlCharacter => "control character inside a string"
  | numberOutOfRange => "number out of range"
  | tooDeep => "nested too deeply"

end SyntaxError

namespace Value

/-- A token: a bracket, comma or colon, or a value without parts. -/
inductive Token where
  | mark (c : Char)
  | atom (v : Value)

/-- What the characters since the last token amount to.  Texts are kept backwards. -/
inductive Scan where
  | between
  /-- Inside a string. -/
  | string (text : List Char)
  /-- After a backslash. -/
  | escape (text : List Char)
  /-- Inside a four-digit escape; `high` is a surrogate that waits for its other half. -/
  | code (text : List Char) (high : Option Nat) (count n : Nat)
  /-- After a high surrogate: a backslash and a `u` must follow. -/
  | half (text : List Char) (high : Nat) (backslash : Bool)
  /-- Inside a number or a word. -/
  | word (text : List Char)

/-- The white space between tokens. -/
def isBlank (c : Char) : Bool := c = ' ' || c = '\n' || c = '\t' || c = '\r'

/-- The characters that are tokens. -/
def isMark (c : Char) : Bool := c ∈ ['[', ']', '{', '}', ',', ':']

/-- The value of a number or a word. -/
def ofWord (w : List Char) : Except SyntaxError Value :=
  if w = ['n', 'u', 'l', 'l'] then .ok .null
  else if w = ['t', 'r', 'u', 'e'] then .ok (.bool true)
  else if w = ['f', 'a', 'l', 's', 'e'] then .ok (.bool false)
  else match Literal.ofChars? w with
    | none => .error (.invalidWord (String.ofList w))
    | some l =>
      match l.value? with
      | none => .error .numberOutOfRange
      | some v => .ok v

/-- The character of a one-letter escape. -/
def escaped? : Char → Option Char
  | '"' => some '"'
  | '\\' => some '\\'
  | '/' => some '/'
  | 'b' => some (Char.ofNat 8)
  | 'f' => some (Char.ofNat 12)
  | 'n' => some '\n'
  | 'r' => some '\r'
  | 't' => some '\t'
  | _ => none

namespace Scan

/-- What a character between two tokens begins. -/
def start (c : Char) : Scan × List Token :=
  if isBlank c then (between, [])
  else if isMark c then (between, [.mark c])
  else if c = '"' then (string [], [])
  else (word [c], [])

/-- The scan after the last digit of a four-digit escape. -/
def ofCode (text : List Char) (high : Option Nat) (n : Nat) : Except SyntaxError Scan :=
  match high with
  | none =>
    if 0xDC00 ≤ n ∧ n < 0xE000 then .error .loneSurrogate
    else if 0xD800 ≤ n ∧ n < 0xDC00 then .ok (half text n false)
    else .ok (string (Char.ofNat n :: text))
  | some h =>
    if 0xDC00 ≤ n ∧ n < 0xE000 then
      .ok (string (Char.ofNat (0x10000 + (h - 0xD800) * 0x400 + (n - 0xDC00)) :: text))
    else .error .loneSurrogate

/-- One character: the next scan and the tokens that the character completes. -/
def step (s : Scan) (c : Char) : Except SyntaxError (Scan × List Token) :=
  match s with
  | between => .ok (start c)
  | string text =>
    if c = '"' then .ok (between, [.atom (.string (String.ofList text.reverse))])
    else if c = '\\' then .ok (escape text, [])
    else if c.toNat < 0x20 then .error .controlCharacter
    else .ok (string (c :: text), [])
  | escape text =>
    if c = 'u' then .ok (code text none 0 0, [])
    else match escaped? c with
      | some d => .ok (string (d :: text), [])
      | none => .error .invalidEscape
  | code text high count n =>
    match hexDigit? c with
    | none => .error .invalidEscape
    | some d =>
      if count < 3 then .ok (code text high (count + 1) (16 * n + d), [])
      else (ofCode text high (16 * n + d)).map (·, [])
  | half text high backslash =>
    if ¬backslash ∧ c = '\\' then .ok (half text high true, [])
    else if backslash ∧ c = 'u' then .ok (code text (some high) 0 0, [])
    else .error .loneSurrogate
  | word text =>
    if isBlank c ∨ isMark c ∨ c = '"' then do
      let v ← ofWord text.reverse
      let (s, tokens) := start c
      return (s, .atom v :: tokens)
    else .ok (word (c :: text), [])

/-- The tokens that the end of the text completes. -/
def finish : Scan → Except SyntaxError (List Token)
  | between => .ok []
  | word text => do return [.atom (← ofWord text.reverse)]
  | _ => .error .unexpectedEnd

end Scan

/-- An array or object whose end has not been met.  Parts are kept backwards. -/
inductive Frame where
  | items (vs : List Value)
  | members (ms : List (String × Value)) (key : String)

/-- What may come next. -/
inductive Awaited where
  | value
  /-- A value or the end of an array. -/
  | firstValue
  | key
  /-- A key or the end of an object. -/
  | firstKey
  | colon
  /-- A comma, or the end of the array or object. -/
  | more
  | nothing (v : Value)

/-- The open arrays and objects, innermost first, and what may come next. -/
structure Pending where
  frames : List Frame
  awaited : Awaited

namespace Pending

/-- Arrays and objects are nested no deeper than this. -/
def depthLimit : Nat := 127

/-- Nothing has been read. -/
def start : Pending := ⟨[], .value⟩

/-- A value is complete. -/
def complete (frames : List Frame) (v : Value) : Pending :=
  match frames with
  | [] => ⟨[], .nothing v⟩
  | .items vs :: fs => ⟨.items (v :: vs) :: fs, .more⟩
  | .members ms key :: fs => ⟨.members ((key, v) :: ms) "" :: fs, .more⟩

/-- An array or object opens. -/
def enter (frames : List Frame) (f : Frame) (a : Awaited) : Except SyntaxError Pending :=
  if frames.length < depthLimit then .ok ⟨f :: frames, a⟩ else .error .tooDeep

/-- The innermost array or object ends. -/
def close (frames : List Frame) (c : Char) : Except SyntaxError Pending :=
  match frames, c with
  | .items vs :: fs, ']' => .ok (complete fs (.array vs.reverse))
  | .members ms _ :: fs, '}' => .ok (complete fs (.object ms.reverse))
  | _, c => .error (.unexpectedCharacter c)

/-- A value begins. -/
def begin (frames : List Frame) : Token → Except SyntaxError Pending
  | .atom v => .ok (complete frames v)
  | .mark '[' => enter frames (.items []) .firstValue
  | .mark '{' => enter frames (.members [] "") .firstKey
  | .mark c => .error (.unexpectedCharacter c)

/-- A key of the innermost object. -/
def key (frames : List Frame) : Token → Except SyntaxError Pending
  | .atom (.string k) =>
    match frames with
    | .members ms _ :: fs => .ok ⟨.members ms k :: fs, .colon⟩
    | _ => .error .unexpectedValue
  | .atom _ => .error .unexpectedValue
  | .mark c => .error (.unexpectedCharacter c)

/-- The next token. -/
def feed (p : Pending) (t : Token) : Except SyntaxError Pending :=
  match p.awaited, t with
  | .value, t => begin p.frames t
  | .firstValue, .mark ']' => close p.frames ']'
  | .firstValue, t => begin p.frames t
  | .key, t => key p.frames t
  | .firstKey, .mark '}' => close p.frames '}'
  | .firstKey, t => key p.frames t
  | .colon, .mark ':' => .ok ⟨p.frames, .value⟩
  | .more, .mark ',' =>
    match p.frames with
    | .items _ :: _ => .ok ⟨p.frames, .value⟩
    | _ => .ok ⟨p.frames, .key⟩
  | .more, .mark c => close p.frames c
  | _, .mark c => .error (.unexpectedCharacter c)
  | _, .atom _ => .error .unexpectedValue

end Pending

/-- Reads one character after others. -/
def advance (state : Scan × Pending) (c : Char) : Except SyntaxError (Scan × Pending) := do
  let (s, tokens) ← state.1.step c
  return (s, ← tokens.foldlM Pending.feed state.2)

/-- The value of a JSON text, as it is written. -/
def parse (text : String) : Except SyntaxError Value := do
  let (s, p) ← text.toList.foldlM advance (.between, .start)
  let p ← (← s.finish).foldlM Pending.feed p
  match p.awaited with
  | .nothing v => return v
  | _ => throw .unexpectedEnd

end Value

/-- The document of a JSON text. -/
def Document.parse (text : String) : Except SyntaxError Document :=
  Document.ofValue <$> Value.parse text

end Convergence
