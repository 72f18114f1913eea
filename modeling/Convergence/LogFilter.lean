import Convergence.Config
import Convergence.Text.Split

/-!
# `Convergence.LogFilter`: which events are logged

A filter is a list of directives between commas: `info` for everything, `conv_utils=debug` for the
targets that begin with that text, `conv_utils` for all of their events.  Of the directives that
apply to an event the most specific one decides.  A directive may also name a span between
brackets, and a field of it; no event here lies in a span.
-/

set_option autoImplicit false

namespace Convergence

/-- One condition of a filter. -/
structure Directive where
  /-- The target of an event begins with this. -/
  target : List Char := []
  /-- The event has this field. -/
  field : Option String := none
  /-- The event lies in a span. -/
  inSpan : Bool := false
  /-- Events of this importance and above are logged; none are without a level. -/
  level : Option Level := some .trace
  deriving DecidableEq, Repr

/-- Why a text is no directive. -/
inductive DirectiveError where
  | malformed
  | unknownLevel
  deriving DecidableEq, Repr

/-- The text of the error. -/
def DirectiveError.message : DirectiveError → String
  | malformed => "invalid filter directive"
  | unknownLevel =>
    "error parsing level filter: expected one of \"off\", \"error\", \"warn\", " ++
      "\"info\", \"debug\", \"trace\", or a number 0-5"

namespace Directive

/-- The levels by number. -/
def levels : List (Option Level) :=
  [none, some .error, some .warn, some .info, some .debug, some .trace]

/-- The names of levels. -/
def levelNames : List (String × Option Level) :=
  [("off", none), ("error", some .error), ("warn", some .warn), ("info", some .info),
    ("debug", some .debug), ("trace", some .trace)]

/-- The level of a number or of a name in letters of either case. -/
def level? (text : List Char) : Option (Option Level) :=
  let ds := match text with
    | '+' :: ds => ds
    | ds => ds
  match if ds = [] then none else ds.mapM digit? with
  | some ns => levels[ofDigits 10 ns]?
  | none => levelNames.lookup (String.ofList (text.map Char.toLower))

/-- The level behind an equals sign.  Without one all events are logged. -/
def ofLevel (text : List Char) : Except DirectiveError (Option Level) :=
  if text = [] then .ok (some .trace)
  else match level? text with
    | some l => .ok l
    | none => .error .unknownLevel

/-- A directive may begin with this character.  Characters beyond ASCII count as letters. -/
def isStart (c : Char) : Bool :=
  c.isAlphanum || c = '-' || c = ':' || c = '_' || 128 ≤ c.toNat

/-- What stands behind the closing bracket: nothing, or a level. -/
def afterSpan (d : Directive) : List Char → Except DirectiveError Directive
  | [] => .ok d
  | '=' :: level => do return { d with level := ← ofLevel level }
  | _ => .error .malformed

/-- What stands behind an opening bracket. -/
def ofSpan (target : List Char) (cs : List Char) : Except DirectiveError Directive :=
  let stops (c : Char) : Bool := c = ']' || c = '\x7b'
  let name := cs.takeWhile (!stops ·)
  match cs.dropWhile (!stops ·) with
  | ']' :: rest => afterSpan { target, inSpan := true } rest
  | '\x7b' :: rest =>
    let field := rest.takeWhile (· ≠ '\x7d')
    match rest.dropWhile (· ≠ '\x7d') with
    | _ :: ']' :: rest =>
      if field = [] then .error .malformed
      else
        let inSpan := name ≠ [] || '=' ∈ field
        afterSpan { target, field := some (String.ofList field), inSpan } rest
    | _ => .error .malformed
  | _ => .error .malformed

/-- The text without the blanks around it. -/
def trim (cs : List Char) : List Char :=
  ((cs.dropWhile Char.isWhitespace).reverse.dropWhile Char.isWhitespace).reverse

/-- The directive of a text.  Places are counted without the blanks in front of the text, and parts
are then cut from the text with them: behind a blank stands no level. -/
def parse (text : List Char) : Except DirectiveError Directive :=
  match trim text with
  | [] => .error .malformed
  | '[' :: _ => ofSpan [] (text.drop 1)
  | c :: cs =>
    if !isStart c then .error .malformed
    else
      let stops (c : Char) : Bool := c = '=' || c = '['
      let place := ((c :: cs).takeWhile (!stops ·)).length
      match (c :: cs).dropWhile (!stops ·) with
      | '=' :: _ => do
        let level ← ofLevel (text.drop (place + 1))
        return { target := text.take place, level }
      | '[' :: _ => ofSpan (text.take place) (text.drop (place + 1))
      | _ =>
        match level? text with
        | some level => .ok { level }
        | none => .ok { target := text }

/-- The directive applies to the event. -/
def applies (d : Directive) (e : Event) : Bool :=
  !d.inSpan && d.target.isPrefixOf e.component.target.toList &&
    d.field.all fun name => name == "message" || e.fields.any (·.1 == name)

/-- A directive is more specific by a longer target, then by a field. -/
def weight (d : Directive) : Nat := 2 * d.target.length + if d.field.isSome then 1 else 0

/-- The level lets the event pass. -/
def admits (d : Directive) (e : Event) : Bool := d.level.any fun l => l.rank ≤ e.level.rank

end Directive

/-- Directives, from the first to the last. -/
structure LogFilter where
  directives : List Directive
  deriving DecidableEq, Repr

namespace LogFilter

/-- Everything that this program reports, in detail. -/
def standard : LogFilter := ⟨[{ target := "conv".toList, level := some .debug }]⟩

/-- The more specific of two directives; of two that are equally so, the later one. -/
def stronger (a : Option Directive) (b : Directive) : Option Directive :=
  match a with
  | none => some b
  | some a => if a.weight ≤ b.weight then some b else some a

/-- The directive that decides about the event. -/
def decisive? (f : LogFilter) (e : Event) : Option Directive :=
  (f.directives.filter (·.applies e)).foldl stronger none

/-- The event is logged. -/
def admits (f : LogFilter) (e : Event) : Bool := (f.decisive? e).any (·.admits e)

/-- A part of a filter that is left out. -/
structure Ignored where
  part : String
  cause : DirectiveError
  deriving DecidableEq, Repr

/-- The line that says so. -/
def Ignored.line (i : Ignored) : String := "ignoring `" ++ i.part ++ "`: " ++ i.cause.message

/-- The parts of a filter, with what each of them means. -/
def parts (text : String) : List (String × Except DirectiveError Directive) :=
  ((Text.splitAt ',' text.toList).filter (· ≠ [])).map fun p => (String.ofList p, Directive.parse p)

/-- The filter of a text, and the parts of it that are left out.  Without a directive the standard
filter stands for it. -/
def parse (text : String) : LogFilter × List Ignored :=
  let directives := (parts text).filterMap fun p => p.2.toOption
  let ignored := (parts text).filterMap fun (part, d) =>
    match d with
    | .ok _ => none
    | .error cause => some ⟨part, cause⟩
  (if directives = [] then standard else ⟨directives⟩, ignored)

end LogFilter

end Convergence
