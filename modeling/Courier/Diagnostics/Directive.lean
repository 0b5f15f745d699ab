import Courier.Diagnostics.FieldTest

/-!
# Directives

A directive says from which **level** on diagnostics are written, and which ones it speaks
of: those of a target, those inside a span, those with a field (`Diagnostics.Directive`).
Whatever it does not name does not matter, so a directive that names nothing is about
everything. It is written `target[span{field}]=level`.

Directives are put in an order in which the more specific comes first
(`Directive.compare`): the one with the longer target, then the one with a span, then the
one with a field. Directives that differ in their level only have the same place.
-/

namespace Courier.Diagnostics

/-- A level of diagnostics. -/
inductive Level where
  | off
  | error
  | warn
  | info
  | debug
  | trace
deriving DecidableEq, Inhabited

namespace Level

/-- All levels, in the order of the digits that name them. -/
def all : List Level := [.off, .error, .warn, .info, .debug, .trace]

/-- The name of a level. -/
def name : Level → String
  | .off => "off"
  | .error => "error"
  | .warn => "warn"
  | .info => "info"
  | .debug => "debug"
  | .trace => "trace"

/-- The level with a name, in letters of either case, or with a number. The number may have
a plus and any number of zeros in front. -/
def read? (s : String) : Option Level :=
  let digits := match s.toList with
    | '+' :: r => r
    | cs => cs
  if digits ≠ [] ∧ digits.all Char.isDigit then all[Nearest.digitsValue digits]?
  else all.find? fun l => l.name = lowercase s

end Level

/-- What diagnostics a directive is about, and from which level on they are written. -/
structure Directive where
  target : Option String := none
  span : Option String := none
  field : Option FieldTest := none
  level : Level := .trace
deriving DecidableEq, Inhabited

namespace Directive

/-- Whether the directive can be judged without looking at values: it names no span and asks
for no value. -/
def isStatic (d : Directive) : Bool := d.span.isNone && !d.field.any (·.value.isSome)

/-- Whether the directive looks at what happens at the time: it names a span or a field. -/
def isDynamic (d : Directive) : Bool := d.span.isSome || d.field.isSome

/-- **The text of a directive.** -/
def text (d : Directive) : String :=
  let target := d.target.getD ""
  let inside := d.span.getD "" ++
    (match d.field with
    | some f => "\x7b" ++ f.text ++ "\x7d"
    | none => "")
  let scope := target ++ (if d.isDynamic then "[" ++ inside ++ "]" else "")
  scope ++ (if d.target.isSome || d.isDynamic then "=" else "") ++ d.level.name

/-- Missing before present. -/
def comparePresence {α : Type} (a b : Option α) : Ordering :=
  ordered a.isSome.toNat b.isSome.toNat

/-- Directives from the least to the most specific. -/
def compare (a b : Directive) : Ordering :=
  (comparePresence a.target b.target).then <|
  (ordered (a.target.getD "").utf8ByteSize (b.target.getD "").utf8ByteSize).then <|
  (comparePresence a.span b.span).then <|
  (comparePresence a.field b.field).then <|
  (ordered (a.target.getD "") (b.target.getD "")).then <|
  (ordered (a.span.getD "") (b.span.getD "")).then <|
    match a.field, b.field with
    | some f, some g => f.compare g
    | _, _ => .eq

/-- A directive put in its place among directives from the most specific on; it replaces
the one that has its place. -/
def insert (d : Directive) : List Directive → List Directive
  | [] => [d]
  | e :: rest =>
    match compare d e with
    | .gt => d :: e :: rest
    | .eq => d :: rest
    | .lt => e :: insert d rest

/-- Directives from the most specific on; the last of several with one place counts. -/
def ranked (ds : List Directive) : List Directive := ds.foldl (fun l d => insert d l) []

end Directive

end Courier.Diagnostics
