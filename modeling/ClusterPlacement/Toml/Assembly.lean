import ClusterPlacement.Toml.Reading
/-! Putting TOML statements together into a table. A table may be named in one header only, and a key
given once; a table that dotted keys made may be extended by dotted keys alone. -/

namespace ClusterPlacement.Toml

/-- How a table came about. -/
inductive Origin where
  /-- Named in a header of its own, or written inline. -/
  | explicit
  /-- On the way to a table named in a header. -/
  | implicit
  /-- On the way of a dotted key. -/
  | dotted
deriving DecidableEq

/-- A table under construction. -/
inductive Node where
  | value (v : Toml)
  | table (origin : Origin) (entries : List (String × Node))
  /-- An array of tables, of which the last one is still open. -/
  | tables (closed : List (List (String × Node))) (current : List (String × Node))

abbrev Entries := List (String × Node)

namespace Entries

/-- Changes the entry of a key, which is the first one that has it. -/
def set (key : String) (node : Node) : Entries → Entries
  | [] => [(key, node)]
  | (k, old) :: rest => if k = key then (k, node) :: rest else (k, old) :: set key node rest

/-- Changes the table at the end of a path of headers. Tables on the way that are not there are
made. -/
def modify (change : Entries → Option Entries) : List String → Entries → Option Entries
  | [], entries => change entries
  | key :: path, entries =>
    match entries.lookup key with
    | none => do
      return set key (.table .implicit (← modify change path [])) entries
    | some (.table origin inner) => do
      return set key (.table origin (← modify change path inner)) entries
    | some (.tables closed current) => do
      return set key (.tables closed (← modify change path current)) entries
    | some (.value _) => none

/-- Enters a value under a dotted key. `direct` tells whether a value may be entered right
here. -/
def assign (value : Toml) : (direct : Bool) → List String → Entries → Option Entries
  | _, [], _ => none
  | direct, [key], entries =>
    if !direct || (entries.lookup key).isSome then none else some (set key (.value value) entries)
  | _, key :: path, entries =>
    match entries.lookup key with
    | none => do
      return set key (.table .dotted (← assign value true path [])) entries
    | some (.table origin inner) =>
      if origin = .explicit then none
      else do return set key (.table origin (← assign value (origin = .dotted) path inner)) entries
    | some (.tables closed current) => do
      return set key (.tables closed (← assign value false path current)) entries
    | some (.value _) => none

/-- Opens the table that a header names, which may so far only have been implied. -/
def openTable (key : String) (entries : Entries) : Option Entries :=
  match entries.lookup key with
  | none => some (set key (.table .explicit []) entries)
  | some (.table .implicit inner) => some (set key (.table .explicit inner) entries)
  | _ => none

/-- Opens the next table of an array. -/
def openElement (key : String) (entries : Entries) : Option Entries :=
  match entries.lookup key with
  | none => some (set key (.tables [] []) entries)
  | some (.tables closed current) => some (set key (.tables (closed ++ [current]) []) entries)
  | _ => none

end Entries

mutual

/-- The value of a finished node. -/
def Node.finish : Node → Toml
  | .value v => v
  | .table _ entries => .table (Node.finishEntries entries)
  | .tables closed current =>
    .array (Node.finishTables closed ++ [.table (Node.finishEntries current)])

def Node.finishEntries : List (String × Node) → List (String × Toml)
  | [] => []
  | (key, node) :: rest => (key, Node.finish node) :: Node.finishEntries rest

def Node.finishTables : List (List (String × Node)) → List Toml
  | [] => []
  | entries :: rest => .table (Node.finishEntries entries) :: Node.finishTables rest

end

mutual

/-- The value that an expression denotes. An inline table is complete: nothing is added to it
later. -/
def Expr.value? : Expr → Option Toml
  | .plain v => some v
  | .array items => (Expr.values? items).map .array
  | .inlineTable entries => do
    let built ← Expr.assignAll entries []
    return .table (Node.finishEntries built)

def Expr.values? : List Expr → Option (List Toml)
  | [] => some []
  | e :: rest => do return (← Expr.value? e) :: (← Expr.values? rest)

def Expr.assignAll : List (List String × Expr) → Entries → Option Entries
  | [], built => some built
  | (path, e) :: rest, built => do
    let v ← Expr.value? e
    Expr.assignAll rest (← Entries.assign v true path built)

end

/-- The tables built so far, and the path of the one that entries go to. -/
structure Assembly where
  root : Entries
  path : List String

namespace Assembly

def start : Assembly := ⟨[], []⟩

/-- Opens the table at the end of a path with the given operation. -/
def openAt (opening : String → Entries → Option Entries) (path : List String) (a : Assembly) :
    Option Assembly := do
  let key ← path.getLast?
  return ⟨← Entries.modify (opening key) path.dropLast a.root, path⟩

def add (a : Assembly) : Statement → Option Assembly
  | .table path => a.openAt Entries.openTable path
  | .element path => a.openAt Entries.openElement path
  | .entry path e => do
    let v ← e.value?
    return { a with root := ← Entries.modify (Entries.assign v true path) a.path a.root }

def finish (a : Assembly) : List (String × Toml) := Node.finishEntries a.root

end Assembly

/-- Reads a text as the entries of a table. -/
def read? (text : List Char) : Option (List (String × Toml)) := do
  let statements ← readDocument text
  let assembled ← statements.foldlM Assembly.add .start
  return assembled.finish

end ClusterPlacement.Toml
