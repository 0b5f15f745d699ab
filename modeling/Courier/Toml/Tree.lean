import Courier.Json.Value

/-!
# The tables of a settings file

The tables of a settings file grow while it is read. A table can be given a value, be
opened by a heading, or be the next of a list of tables; and each of these may happen
only once to the same table. What has happened to a table is recorded in two marks:

* **implied** – it was made on the way to another table and may still be opened once;
* **dotted** – it was made by a key with dots, and is open for such keys only.

`Toml.Node.assign?` and `Toml.Node.heading?` are the two ways to change a tree; both
fail rather than change something twice. `Toml.Node.toJson` is the finished value.
-/

namespace Courier.Toml

mutual

/-- What a key stands for. -/
inductive Item where
  | value (j : Json)
  | table (t : Node)
  /-- A list of tables; the last one is open. -/
  | tables (done : List Node) (last : Node)

/-- A table that is being read. -/
inductive Node where
  | node (implied dotted : Bool) (items : List (String × Item))

end

namespace Node

/-- A table that has been opened. -/
def opened : Node := .node false false []

def items : Node → List (String × Item)
  | .node _ _ items => items

def isImplied : Node → Bool
  | .node implied _ _ => implied

def isDotted : Node → Bool
  | .node _ dotted _ => dotted

/-- What a key of a table stands for. -/
def find? (n : Node) (key : String) : Option Item := n.items.lookup key

/-- A table with a key that stands for something else. -/
def replace : Node → String → Item → Node
  | .node implied dotted items, key, item =>
    let others := items.filter (·.1 != key)
    .node implied dotted (others ++ [(key, item)])

/-- A change of the table that a path leads to. Tables on the way that do not exist are
made; `dotted` says that the path is part of a key with dots. -/
def change? (dotted : Bool) (f : Node → Option Node) : List String → Node → Option Node
  | [], n => f n
  | key :: rest, n =>
    match n.find? key with
    -- a heading passes through tables that later headings may still open
    | none => (change? dotted f rest (.node true dotted [])).map fun t => n.replace key (.table t)
    | some (.value _) => none
    -- in a list of tables the path goes on in the last
    | some (.tables done last) =>
      (change? dotted f rest last).map fun t => n.replace key (.tables done t)
    | some (.table t) =>
      -- a key with dots does not reach into a table that has a heading
      if dotted && !t.isImplied then none
      else (change? dotted f rest t).map fun t => n.replace key (.table t)

/-- A value for a key that stands for nothing yet. -/
def put? (viaDots : Bool) (key : String) (j : Json) (n : Node) : Option Node :=
  if viaDots != n.isDotted then none
  else match n.find? key with
  | some _ => none
  | none => some (n.replace key (.value j))

/-- A value for a key with dots, in a table that is open. -/
def assign? (path : List String) (j : Json) (n : Node) : Option Node :=
  match path.getLast? with
  | none => none
  | some key => change? true (put? (path.length != 1) key j) path.dropLast n

/-- A table opened by its heading. -/
def open? (key : String) (n : Node) : Option Node :=
  match n.find? key with
  | none => some (n.replace key (.table opened))
  | some (.table (.node true false items)) =>
    some (n.replace key (.table (.node false false items)))
  | some _ => none

/-- One more table of a list. -/
def openNext? (key : String) (n : Node) : Option Node :=
  match n.find? key with
  | none => some (n.replace key (.tables [] opened))
  | some (.tables done last) => some (n.replace key (.tables (done ++ [last]) opened))
  | some _ => none

/-- The table, or the next table of a list, that a heading names. -/
def heading? (next : Bool) (path : List String) (n : Node) : Option Node :=
  match path.getLast? with
  | none => none
  | some key => change? false (if next then openNext? key else open? key) path.dropLast n

end Node

mutual

/-- The finished value of a table. -/
def Node.toJson : Node → Json
  | .node _ _ items => Json.ofMembers (itemsToJson items)

/-- The finished values of the keys of a table. -/
def itemsToJson : List (String × Item) → List (String × Json)
  | [] => []
  | (key, item) :: rest => (key, item.toJson) :: itemsToJson rest

/-- The finished value of a key. -/
def Item.toJson : Item → Json
  | .value j => j
  | .table t => t.toJson
  | .tables done last => .array (nodesToJson done ++ [last.toJson])

/-- The finished values of a list of tables. -/
def nodesToJson : List Node → List Json
  | [] => []
  | n :: rest => n.toJson :: nodesToJson rest

end

end Courier.Toml
