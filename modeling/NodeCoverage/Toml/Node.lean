import NodeCoverage.Toml.Value

/-!
# Tables under construction

A document builds its tables piece by piece: by headers, by dotted keys, and on the way to both.
What may be added to a table later depends on how it came about, so a table keeps its `Origin`
until the document is complete. Every way to define a thing twice is refused.
-/

namespace NodeCoverage.Toml

/-- How a table came about. -/
inductive Origin where
  /-- It has a header of its own, or it is the table at the root. -/
  | explicit
  /-- It lies on the way to a header. -/
  | implied
  /-- It lies on the way of a dotted key. -/
  | dotted
  deriving DecidableEq, Repr

/-- A thing in a document: a finished value, a table, or an array of tables. -/
inductive Node where
  | value (v : Value)
  | table (origin : Origin) (entries : List (String × Node))
  | tables (elements : List (List (String × Node)))

/-- The things in a table, in the order in which they came. -/
abbrev Entries := List (String × Node)

namespace Entries

/-- The thing of a name. -/
def node? (entries : Entries) (key : String) : Option Node :=
  (entries.find? (·.1 == key)).map (·.2)

/-- Puts another thing in the place of the one of a name. -/
def put (entries : Entries) (key : String) (node : Node) : Entries :=
  entries.map fun entry => if entry.1 == key then (key, node) else entry

/-- Leaves out the thing of a name. -/
def without (entries : Entries) (key : String) : Entries :=
  entries.filter (·.1 != key)

/-- Changes the table at the end of a path, and makes the tables that are missing on the way, as
`created` says. An array of tables leads to its last one. A dotted key does not lead into a table
with a header of its own, nor does any path lead into a value. -/
def modify (created : Origin) (change : Origin → Entries → Option Entries) :
    List String → Origin → Entries → Option Entries
  | [], origin, entries => change origin entries
  | key :: path, _, entries =>
    match node? entries key with
    | none => do
      let inner ← modify created change path created []
      some (entries ++ [(key, .table created inner)])
    | some (.value _) => none
    | some (.table origin inner) => do
      guard (¬(created = .dotted ∧ origin = .explicit))
      some (put entries key (.table origin (← modify created change path origin inner)))
    | some (.tables elements) => do
      let last ← elements.getLast?
      let last ← modify created change path .explicit last
      some (put entries key (.tables (elements.dropLast ++ [last])))

/-- Gives a value to a dotted key. The table it ends up in must be one that dotted keys made,
unless the key has no dots and it is the table itself. -/
def assign (entries : Entries) (path : List String) (key : String) (v : Value) :
    Option Entries :=
  modify .dotted
    (fun origin inner => do
      guard ((origin = .dotted) ≠ (path = []))
      guard (node? inner key).isNone
      some (inner ++ [(key, .value v)]))
    path .explicit entries

/-- Gives values to dotted keys, one after another. A key is a path that is not empty. -/
def assignAll (entries : Entries) (assignments : List (List String × Value)) : Option Entries :=
  assignments.foldlM
    (fun entries (path, v) => do assign entries path.dropLast (← path.getLast?) v) entries

/-- Adds the table of a header, with what is assigned below it. There may already be a table on
the way to another header, which then moves to the end. -/
def addTable (root : Entries) (path : List String) (assignments : List (List String × Value)) :
    Option Entries := do
  let key ← path.getLast?
  modify .implied
    (fun _ parent => do
      let given ←
        match node? parent key with
        | none => some []
        | some (.table .implied inner) => some inner
        | some _ => none
      some (without parent key ++ [(key, .table .explicit (← assignAll given assignments))]))
    path.dropLast .explicit root

/-- Adds a table to an array of tables, with what is assigned below its header. -/
def addElement (root : Entries) (path : List String) (assignments : List (List String × Value)) :
    Option Entries := do
  let key ← path.getLast?
  let element ← assignAll [] assignments
  modify .implied
    (fun _ parent =>
      match node? parent key with
      | none => some (parent ++ [(key, .tables [element])])
      | some (.tables elements) => some (put parent key (.tables (elements ++ [element])))
      | some _ => none)
    path.dropLast .explicit root

end Entries

/-! ## Completion -/

mutual

/-- The value of a thing. -/
def Node.complete : Node → Value
  | .value v => v
  | .table _ entries => .table (completeEntries entries)
  | .tables elements => .list (completeElements elements)

/-- The values of the things in a table. -/
def completeEntries : List (String × Node) → List (String × Value)
  | [] => []
  | (key, node) :: rest => (key, node.complete) :: completeEntries rest

/-- The values of the tables of an array. -/
def completeElements : List (List (String × Node)) → List Value
  | [] => []
  | entries :: rest => .table (completeEntries entries) :: completeElements rest

end

end NodeCoverage.Toml
