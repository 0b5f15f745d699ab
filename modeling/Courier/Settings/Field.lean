import Courier.Json.Value
import Courier.Table

/-!
# Fields

A section of the settings is written as an object, with one member for each of its
fields. A field (`Courier.Field`) has a name and the two directions: what is written for
it, and how a written value is put in its place. One list of fields thus says both how a
section is written (`Section.write`) and how it is read (`Section.read?`).

Members that are missing leave a field as it is, members that no field has the name of
are ignored, and a value of the wrong kind makes the reading fail. A section may also be
given as an array of the values of its fields in order, from the first on; whether such
an array may be too long is up to the format (`Section.read?`, parameter `strict`).
-/

namespace Courier

/-- One member of the written form of a section. -/
structure Field (σ : Type) where
  name : String
  write : σ → Json
  /-- A written value put in the place of the field. -/
  read? : Bool → Json → σ → Option σ

/-- The fields of a section in their order. -/
abbrev Section (σ : Type) := List (Field σ)

namespace Section

variable {σ : Type}

/-- Values put in the places of fields in turn. -/
def readAll? (strict : Bool) : List (Field σ × Json) → σ → Option σ
  | [], s => some s
  | (f, j) :: rest, s => (f.read? strict j s).bind (readAll? strict rest)

/-- A section read over another, whose fields stay where nothing is given. With `strict`,
an array of more values than there are fields is refused. -/
def read? (fields : Section σ) (strict : Bool) (j : Json) (s : σ) : Option σ :=
  match j with
  | .object members =>
    readAll? strict (fields.filterMap fun f => (members.lookup f.name).map fun v => (f, v)) s
  | .array items =>
    if strict && fields.length < items.length then none else readAll? strict (fields.zip items) s
  | _ => none

/-- The written form of a section. -/
def write (fields : Section σ) (s : σ) : Json :=
  Json.ofMembers (fields.map fun f => (f.name, f.write s))

end Section

/-! ### Kinds of values -/

namespace Json

/-- A text. -/
def text? : Json → Option String
  | .string s => some s
  | _ => none

/-- A truth value. -/
def flag? : Json → Option Bool
  | .bool b => some b
  | _ => none

/-- A natural number below a bound. -/
def below? (bound : Nat) : Json → Option Nat
  | .number (.natural n) => if n < bound then some n else none
  | _ => none

/-- A number of any form. -/
def number? : Json → Option Binary64
  | .number n => some n.toBinary64
  | _ => none

/-- A list of texts. -/
def texts? : Json → Option (List String)
  | .array items => items.mapM text?
  | _ => none

/-- A table of values of one kind. -/
def table? {α : Type} (value? : Json → Option α) : Json → Option (Table α)
  | .object members =>
    (members.mapM fun m => (value? m.2).map fun v => (m.1, v)).map Table.ofList
  | _ => none

/-- A list of texts as a value. -/
def ofTexts (l : List String) : Json := .array (l.map .string)

/-- A table as a value. -/
def ofTable {α : Type} (f : α → Json) (t : Table α) : Json :=
  .object (t.entries.map fun e => (e.1, f e.2))

end Json

namespace Field

variable {σ α : Type}

/-- A field whose values are of one kind. -/
def of (name : String) (value? : Json → Option α) (toJson : α → Json) (get : σ → α)
    (set : σ → α → σ) : Field σ :=
  ⟨name, fun s => toJson (get s), fun _ j s => (value? j).map (set s)⟩

/-- A text. -/
def text (name : String) (get : σ → String) (set : σ → String → σ) : Field σ :=
  of name Json.text? .string get set

/-- A truth value. -/
def flag (name : String) (get : σ → Bool) (set : σ → Bool → σ) : Field σ :=
  of name Json.flag? .bool get set

/-- A natural number of 64 bits. -/
def nat64 (name : String) (get : σ → Nat) (set : σ → Nat → σ) : Field σ :=
  of name (Json.below? (Nat.pow 2 64)) .nat get set

/-- A natural number of 32 bits. -/
def nat32 (name : String) (get : σ → Nat) (set : σ → Nat → σ) : Field σ :=
  of name (Json.below? (Nat.pow 2 32)) .nat get set

/-- A number. -/
def number (name : String) (get : σ → Binary64) (set : σ → Binary64 → σ) : Field σ :=
  of name Json.number? (fun x => .number (.float x)) get set

/-- A text that may be absent, which is written as `null`. -/
def optionalText (name : String) (get : σ → Option String) (set : σ → Option String → σ) :
    Field σ :=
  of name (fun
    | .null => some none
    | j => j.text?.map some) (fun o => (o.map Json.string).getD .null) get set

/-- A list of texts. -/
def texts (name : String) (get : σ → List String) (set : σ → List String → σ) : Field σ :=
  of name Json.texts? Json.ofTexts get set

/-- A section inside another. It is read over its own defaults. -/
def sub (name : String) (fields : Section α) (start : α) (get : σ → α) (set : σ → α → σ) :
    Field σ :=
  ⟨name, fun s => fields.write (get s), fun strict j s => (fields.read? strict j start).map (set s)⟩

end Field

end Courier
