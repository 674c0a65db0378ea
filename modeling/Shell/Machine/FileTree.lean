import Shell.SystemError

/-! # File trees

The files of a machine. Each file has a number, directories give names to numbers, and a path is followed one
name at a time. Links are followed as well, but not without end.
-/

namespace Shell.Machine

/-- The number of a file. -/
abbrev FileId := Nat

/-- Files that stand for something else than kept bytes. -/
inductive Device where
  /-- Always empty; forgets what is written to it. -/
  | null
  /-- Zero bytes without end. -/
  | zero
  /-- Like `zero`, but there is no room for what is written to it. -/
  | full
  /-- The terminal of a process, of which there is none. -/
  | terminal
  /-- Whatever the descriptor with this number stands for in the process that looks. -/
  | descriptor (number : Nat)
deriving Repr, DecidableEq, Inhabited

/-- What a file is. -/
inductive FileKind where
  | plain (bytes : ByteArray)
  /-- Names for files, and the directory that this one stands in. -/
  | directory (parent : FileId) (entries : List (String × FileId))
  | link (target : String)
  | device (device : Device)
deriving Inhabited

/-- A file. -/
structure FileNode where
  kind : FileKind
  /-- The permission bits. -/
  mode : Nat
  /-- When it was changed, in microseconds. -/
  modified : Nat := 0
deriving Inhabited

/-- Files by number. The first one is the root. -/
structure FileTree where
  nodes : Array FileNode := #[{ kind := .directory 0 [], mode := 0o755 }]

namespace FileTree

def root : FileId := 0

def node? (id : FileId) (tree : FileTree) : Option FileNode :=
  tree.nodes[id]?

def modify (id : FileId) (change : FileNode → FileNode) (tree : FileTree) : FileTree :=
  { tree with nodes := tree.nodes.modify id change }

/-- Makes a file that has no name yet. -/
def create (node : FileNode) (tree : FileTree) : FileId × FileTree :=
  (tree.nodes.size, { tree with nodes := tree.nodes.push node })

/-- The names in a directory, in the order in which they were given. -/
def entries (id : FileId) (tree : FileTree) : List (String × FileId) :=
  match (tree.node? id).map FileNode.kind with
  | some (.directory _ entries) => entries
  | _ => []

def isDirectory (id : FileId) (tree : FileTree) : Bool :=
  match (tree.node? id).map FileNode.kind with
  | some (.directory _ _) => true
  | _ => false

/-- The directory that a directory stands in. The root stands in itself. -/
def parent (id : FileId) (tree : FileTree) : FileId :=
  match (tree.node? id).map FileNode.kind with
  | some (.directory parent _) => parent
  | _ => root

def modifyEntries (directory : FileId)
    (change : List (String × FileId) → List (String × FileId)) (tree : FileTree) : FileTree :=
  tree.modify directory fun node =>
    match node.kind with
    | .directory parent entries => { node with kind := .directory parent (change entries) }
    | _ => node

/-- Gives a file a name in a directory, instead of the file that has it. -/
def bind (directory : FileId) (name : String) (id : FileId) (tree : FileTree) : FileTree :=
  tree.modifyEntries directory fun entries =>
    entries.filter (fun entry => entry.1 ≠ name) ++ [(name, id)]

def unbind (directory : FileId) (name : String) (tree : FileTree) : FileTree :=
  tree.modifyEntries directory fun entries => entries.filter fun entry => entry.1 ≠ name

def setParent (id directory : FileId) (tree : FileTree) : FileTree :=
  tree.modify id fun node =>
    match node.kind with
    | .directory _ entries => { node with kind := .directory directory entries }
    | _ => node

/-! ## Following paths -/

/-- Where a path leads: a name in a directory, and the file that has the name, if one has. -/
structure Place where
  directory : FileId
  name : String
  file : Option FileId
  /-- True when a slash follows the name. -/
  closed : Bool := false
deriving Repr, DecidableEq, Inhabited

/-- Where following names comes to a halt. -/
inductive Halt where
  | at (place : Place)
  /-- At a link, with the names that come after it. -/
  | link (directory : FileId) (target : String) (rest : List String)

/-- Names are at most so long. -/
def maxName : Nat := 255

/-- Paths are shorter than this. -/
def maxPath : Nat := 4096

/-- Links are followed so often in one path. -/
def maxLinks : Nat := 40

/-- Follows names from a directory up to a link or the end. -/
def descend (tree : FileTree) (follow : Bool) (directory : FileId) :
    List String → Except SystemError Halt
  | [] => .ok (.at { directory, name := ".", file := some directory })
  | name :: rest =>
    if name.isEmpty || name = "." then descend tree follow directory rest
    else if name = ".." then descend tree follow (tree.parent directory) rest
    else if maxName < name.length then .error .nameTooLong
    else
      let last := rest.all String.isEmpty
      match (tree.entries directory).lookup name with
      | none =>
        if last then .ok (.at { directory, name, file := none, closed := !rest.isEmpty })
        else .error .missing
      | some id =>
        match (tree.node? id).map FileNode.kind with
        | some (.directory _ _) =>
          if last then .ok (.at { directory, name, file := some id, closed := !rest.isEmpty })
          else descend tree follow id rest
        | some (.link target) =>
          if rest.isEmpty && !follow then .ok (.at { directory, name, file := some id })
          else .ok (.link directory target rest)
        | _ =>
          if rest.isEmpty then .ok (.at { directory, name, file := some id })
          else .error .notADirectory

/-- Follows names and at most so many links. -/
def walk (tree : FileTree) (follow : Bool) :
    Nat → FileId → List String → Except SystemError Place
  | 0, _, _ => .error .tooManyLinks
  | links + 1, directory, names => do
    match ← descend tree follow directory names with
    | .at place => return place
    | .link directory target rest =>
      let directory := if target.startsWith "/" then root else directory
      walk tree follow links directory (target.splitOn "/" ++ rest)

/-- Where a path leads from a directory. `follow` says whether a link at the end of the path is
    followed. -/
def locate (tree : FileTree) (directory : FileId) (path : String) (follow : Bool) :
    Except SystemError Place :=
  if path.isEmpty then .error .missing
  else if maxPath ≤ path.length then .error .nameTooLong
  else
    let directory := if path.startsWith "/" then root else directory
    walk tree follow (maxLinks + 1) directory (path.splitOn "/")

def find (tree : FileTree) (directory : FileId) (path : String) (follow : Bool) :
    Except SystemError FileId := do
  match (← tree.locate directory path follow).file with
  | some id => return id
  | none => throw .missing

/-- The names that lead from the root to a directory, if it is not deeper than this. -/
def names (tree : FileTree) : Nat → FileId → List String
  | 0, _ => []
  | depth + 1, id =>
    if id = root then []
    else
      let parent := tree.parent id
      match (tree.entries parent).find? fun entry => entry.2 = id with
      | some (name, _) => names tree depth parent ++ [name]
      | none => []

def pathOf (tree : FileTree) (id : FileId) : String :=
  "/" ++ "/".intercalate (tree.names tree.nodes.size id)

/-! ## Changing files -/

def bytes (id : FileId) (tree : FileTree) : ByteArray :=
  match (tree.node? id).map FileNode.kind with
  | some (.plain bytes) => bytes
  | _ => .empty

def modifyBytes (id : FileId) (now : Nat) (change : ByteArray → ByteArray) (tree : FileTree) :
    FileTree :=
  tree.modify id fun node =>
    match node with
    | { kind := .plain bytes, mode, .. } =>
      { kind := .plain (change bytes), mode, modified := now }
    | node => node

/-- Makes a file with a name. -/
def add (place : Place) (node : FileNode) (tree : FileTree) : FileId × FileTree :=
  let (id, tree) := tree.create node
  (id, tree.bind place.directory place.name id)

/-- Makes a directory with a name. -/
def addDirectory (place : Place) (mode now : Nat) (tree : FileTree) : FileId × FileTree :=
  tree.add place { kind := .directory place.directory [], mode, modified := now }

/-- Makes the directories that names lead through, where there is nothing. -/
def addPath (now : Nat) (directory : FileId) : List String → FileTree → FileId × FileTree
  | [], tree => (directory, tree)
  | name :: rest, tree =>
    if name.isEmpty || name = "." then addPath now directory rest tree
    else if name = ".." then addPath now (tree.parent directory) rest tree
    else
      match (tree.entries directory).lookup name with
      | some id => addPath now id rest tree
      | none =>
        let place : Place := { directory, name, file := none }
        let (id, tree) := tree.addDirectory place 0o755 now
        addPath now id rest tree

/-- True when a directory stands somewhere in another, or is the other. -/
def within (tree : FileTree) (outer : FileId) : Nat → FileId → Bool
  | 0, _ => false
  | depth + 1, id =>
    if id = outer then true
    else if id = root then false
    else within tree outer depth (tree.parent id)

end FileTree

end Shell.Machine
