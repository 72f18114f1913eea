import Convergence.Config
import Convergence.Event
import Convergence.Value.Printer

/-!
# `Convergence.LogLine`: events as lines of a log

The four layouts of a log line, and the name of a log file.  In every layout but JSON a line begins
with the moment and the level.
-/

set_option autoImplicit false

namespace Convergence

/-- A moment in universal time. -/
structure Moment where
  year : Nat
  month : Nat
  day : Nat
  hour : Nat
  minute : Nat
  second : Nat
  microsecond : Nat
  deriving DecidableEq, Repr, Inhabited

namespace Moment

/-- The day. -/
def dayText (t : Moment) : String :=
  String.ofList (paddedDigits 10 4 t.year ++ '-' :: paddedDigits 10 2 t.month ++
    '-' :: paddedDigits 10 2 t.day)

/-- The hour of the day. -/
def hourText (t : Moment) : String :=
  t.dayText ++ String.ofList ('-' :: paddedDigits 10 2 t.hour)

/-- The moment to the microsecond. -/
def text (t : Moment) : String :=
  let two (n : Nat) : List Char := paddedDigits 10 2 n
  t.dayText ++ String.ofList ('T' :: two t.hour ++ ':' :: two t.minute ++ ':' :: two t.second ++
    '.' :: paddedDigits 10 6 t.microsecond ++ ['Z'])

end Moment

namespace FileLog

/-- What the name of a log file that is followed by new ones ends in. -/
def suffix? (f : FileLog) (t : Moment) : Option String :=
  match f.rotation with
  | .never => none
  | .daily => some t.dayText
  | .hourly => some t.hourText

/-- The name of the log file.  A file that has no name is named for its day. -/
def fileName (f : FileLog) (t : Moment) : String :=
  match f.suffix? t with
  | none => if f.name = "" then t.dayText else f.name
  | some suffix => if f.name = "" then suffix else f.name ++ "." ++ suffix

/-- The path of the log file. -/
def path (f : FileLog) (t : Moment) : String :=
  if f.dir = "" then f.fileName t else f.dir ++ "/" ++ f.fileName t

end FileLog

namespace LogFormat

/-- The log has escape sequences for colors. -/
def hasColors (f : LogFormat) : Bool := f.colors && f.style != .json

/-- A text between the escape sequences for a color or a weight. -/
def paint (f : LogFormat) (code : Nat) (text : String) : String :=
  if f.hasColors then
    let escape (n : Nat) : String :=
      String.ofList (Char.ofNat 27 :: '[' :: decimalDigits n ++ ['m'])
    escape code ++ text ++ escape 0
  else text

end LogFormat

namespace Level

/-- The code of the color that shows a level. -/
def color : Level → Nat
  | trace => 35
  | debug => 34
  | info => 32
  | warn => 33
  | error => 31

/-- The name with blanks before it up to five characters. -/
def padded (l : Level) : String :=
  String.ofList (List.replicate (5 - l.name.length) ' ') ++ l.name

end Level

namespace Event

/-- The thread that reports. -/
def threadText : String := "ThreadId(1)"

/-- The event as a value. -/
def value (f : LogFormat) (t : Moment) (e : Event) : Value :=
  let fields := Entries.ofList (("message", e.message) :: e.fields)
  .object (Entries.ofList ([
    ("timestamp", .string t.text),
    ("level", .string e.level.name),
    ("fields", .object (fields.map fun x => (x.1, .string x.2)))] ++
    (if f.showSource then [("source", .string e.component.target)] else []) ++
    if f.showThreadId then [("threadId", .string threadText)] else []))

/-- The moment and the level. -/
def heading (f : LogFormat) (t : Moment) (e : Event) : String :=
  f.paint 2 t.text ++ " " ++ f.paint e.level.color e.level.padded ++ " "

/-- The fields with their values. -/
def fieldTexts (f : LogFormat) (e : Event) : List String :=
  e.fields.map fun x => f.paint 3 x.1 ++ "=" ++ x.2

/-- Where the event comes from, as far as that is shown. -/
def origin (f : LogFormat) (e : Event) : List String :=
  (if f.showThreadId then [threadText] else []) ++
  if f.showSource then [e.component.target ++ ":"] else []

/-- The event as a line of a log. -/
def line (f : LogFormat) (t : Moment) (e : Event) : String :=
  match f.style with
  | .json => (e.value f t).print
  | .full | .compact =>
    e.heading f t ++ " ".intercalate (e.origin f ++ e.message :: e.fieldTexts f)
  | .pretty =>
    "  " ++ e.heading f t ++ ", ".intercalate (e.message :: e.fieldTexts f) ++
      (match e.origin f with
        | [] => ""
        | shown => "\n    at " ++ " ".intercalate shown) ++ "\n"

end Event

end Convergence
