import ClusterPlacement.CommandLine.Execution
/-! A disk in memory, for running commands without a machine. It holds numbered nodes: directories,
texts and stores. A path is followed name by name, so that every directory on the way has to be
there, also one that `..` leaves again. -/

namespace ClusterPlacement.CommandLine

inductive Node where
  /-- The number of the directory above it, and the numbers of what it holds. -/
  | directory (parent : Nat) (entries : Table Nat)
  | text (content : String)
  | store (s : Store)

/-- The nodes by their numbers. The root is node 0 and its own parent. Relative paths start there
too. -/
structure Disk where
  nodes : Array Node

namespace Disk

def empty : Disk := ⟨#[.directory 0 .empty]⟩

/-- The longest name in a directory, in bytes. -/
def maxName : Nat := 255

/-- The longest path, in bytes. -/
def maxPath : Nat := 4095

/-- The parts of a path between slashes. -/
def split : List Char → List (List Char)
  | [] => [[]]
  | '/' :: rest => [] :: split rest
  | c :: rest =>
    match split rest with
    | [] => [[c]]
    | part :: parts => (c :: part) :: parts

/-- The names in a path, in order. A slash at its end adds none. -/
def names (path : String) : List String :=
  ((split path.toList).filter (· ≠ [])).map String.ofList

/-- Goes from one node to the one of that name. Only a directory has names in it: `.` for itself,
`..` for the one above it, and those of its entries. -/
def enter (d : Disk) (node : Nat) (name : String) : Except ReadError Nat :=
  match d.nodes[node]? with
  | some (.directory parent entries) =>
    if name = "." then .ok node
    else if name = ".." then .ok parent
    else if maxName < name.utf8ByteSize then .error .nameTooLong
    else match entries.find? name with
      | some found => .ok found
      | none => .error .missing
  | _ => .error .notDirectory

/-- The node that names lead to from the root. -/
def walk (d : Disk) (names : List String) : Except ReadError Nat := names.foldlM d.enter 0

/-- The node of a path. After a slash at its end only a directory will do. -/
def locate (d : Disk) (path : String) : Except ReadError Nat :=
  if path = "" then .error .missing
  else if maxPath < path.utf8ByteSize then .error .nameTooLong
  else d.walk (names path ++ if path.endsWith "/" then ["."] else [])

def replace (d : Disk) (node : Nat) (content : Node) : Disk := ⟨d.nodes.modify node fun _ => content⟩

/-- Adds a node under a name in a directory. -/
def add (d : Disk) (directory : Nat) (name : String) (content : Node) : Disk :=
  let hold : Node → Node
    | .directory parent entries => .directory parent (entries.insert name d.nodes.size)
    | other => other
  ⟨(d.nodes.push content).modify directory hold⟩

def isDirectory (d : Disk) (names : List String) : Bool :=
  match d.walk names with
  | .ok node => match d.nodes[node]? with
    | some (.directory _ _) => true
    | _ => false
  | .error _ => false

/-- What comes of making one directory. -/
inductive Making where
  | made (d : Disk)
  /-- A directory above it is missing. -/
  | missing
  | refused

/-- Makes one directory, in one that is there. -/
def makeOne (d : Disk) (names : List String) : Making :=
  match d.walk names.dropLast, names.getLast? with
  | .error .missing, _ => .missing
  | .ok parent, some name =>
    match d.enter parent name with
    | .error .missing => .made (d.add parent name (.directory parent .empty))
    | _ => .refused
  | _, _ => .refused

/-- Makes the first of several directories, each of which is in the next one, and tells whether it is
there now. What is missing above it is made first, and stays also if it then cannot be made. -/
def makeAll (d : Disk) : List (List String) → Bool × Disk
  | [] => (true, d)
  | names :: above =>
    match d.makeOne names with
    | .made d => (true, d)
    | .refused => (d.isDirectory names, d)
    | .missing =>
      match d.makeAll above with
      | (false, d) => (false, d)
      | (true, d) =>
        match d.makeOne names with
        | .made d => (true, d)
        | _ => (d.isDirectory names, d)

/-- The paths above a path, from the longest to the shortest. Names that stay where they are do not
count as steps. -/
def above (names : List String) : List (List String) :=
  let steps := names.filter (· ≠ ".")
  (List.range steps.length).tail.reverse.map fun n => steps.take n

def makeDirectory (path : String) (d : Disk) : Bool × Disk :=
  if maxPath < path.utf8ByteSize ∨ path.contains '\x00' then (false, d)
  else if names path = [] then (true, d)
  else d.makeAll (names path :: above (names path))

/-- Adds a text at a path where nothing is yet, with the directories above it. -/
def addText (d : Disk) (path content : String) : Disk :=
  let steps := names path
  let (_, d) := d.makeAll (above steps)
  match d.walk steps.dropLast, steps.getLast? with
  | .ok directory, some name =>
    match d.enter directory name with
    | .error .missing => d.add directory name (.text content)
    | _ => d
  | _, _ => d

/-- A disk with one directory, and texts in it. It is for programs that try a command line out; the command
line itself starts on whatever disk there is. -/
def ofTexts (directory : String) (texts : List (String × String)) : Disk :=
  texts.foldl (fun d (name, content) => d.addText (directory ++ "/" ++ name) content)
    (makeDirectory directory empty).2

def readText (d : Disk) (path : String) : Except ReadError String := do
  let node ← d.locate path
  match d.nodes[node]? with
  | some (.text content) => .ok content
  | some (.store _) => .error .notText
  | _ => .error .isDirectory

/-- The store in a file. A file that is missing is made, and an empty one is a store without
records. -/
def openStore (path : String) (d : Disk) : Option Store × Disk :=
  match d.locate path with
  | .ok node => match d.nodes[node]? with
    | some (.store s) => (some s, d)
    | some (.text "") => (some .empty, d.replace node (.store .empty))
    | _ => (none, d)
  | .error .missing =>
    match d.walk (names path).dropLast, (names path).getLast? with
    | .ok directory, some name => (some .empty, d.add directory name (.store .empty))
    | _, _ => (none, d)
  | .error _ => (none, d)

def saveStore (path : String) (s : Store) (d : Disk) : Disk :=
  match d.locate path with
  | .ok node => d.replace node (.store s)
  | .error _ => d

def host (time : UInt64) : Host (StateM Disk) where
  readText path := do return (← get).readText path
  makeDirectory path := modifyGet (makeDirectory path)
  openStore path := modifyGet (openStore path)
  saveStore path s := modify (saveStore path s)
  time := return time

end Disk

end ClusterPlacement.CommandLine
