import Shell.Machine.Load
import Shell.Machine.Octets
import Shell.Machine.System
import Shell.Machine.Tools

/-! # Fresh machines

Machines on which nothing has run yet: the files that every one of them has, and those that are put there.
-/

namespace Shell.Machine

/-- Something to be put on a machine. -/
inductive Entry where
  | file (mode : Nat) (content : ByteArray)
  | directory
deriving Inhabited

/-- Puts a file where names lead from a directory, and makes the directories on the way. -/
def putAt (directory : FileId) (path : String) (node : FileNode) (files : FileTree) : FileTree :=
  let names := (path.splitOn "/").filter fun name => !name.isEmpty
  let (inner, files) := files.addPath startTime directory names.dropLast
  (files.add { directory := inner, name := names.getLastD "", file := none } node).2

/-- Makes the directory that a path leads to from a directory. -/
def putDirectory (directory : FileId) (path : String) (files : FileTree) : FileId × FileTree :=
  files.addPath startTime directory (path.splitOn "/")

/-- The directories that every machine has. -/
def systemDirectories : List String := [
  "usr/bin", "usr/sbin", "usr/lib", "usr/local/bin", "usr/share", "dev/fd", "etc", "home", "opt", "proc/self",
  "root", "run", "tmp", "var/tmp"]

/-- The links that every machine has. -/
def systemLinks : List (String × String) := [
  ("bin", "usr/bin"), ("sbin", "usr/sbin"), ("lib", "usr/lib"), ("proc/self/fd", "/dev/fd")]

/-- The devices that every machine has. -/
def systemDevices : List (String × Device) :=
  let descriptors := (List.range 10 ++ (List.range 8).map (· + 56)).map fun number =>
    ("dev/fd/" ++ toString number, Device.descriptor number)
  [("dev/null", .null), ("dev/zero", .zero), ("dev/full", .full), ("dev/tty", .terminal),
    ("dev/stdin", .descriptor 0), ("dev/stdout", .descriptor 1), ("dev/stderr", .descriptor 2)] ++ descriptors

/-- The texts that every machine has. -/
def systemTexts : List (String × String) := [
  ("etc/passwd", "root:x:0:0:root:/root:/bin/bash\nnobody:x:65534:65534:nobody:/nonexistent:/usr/sbin/nologin\n"),
  ("etc/group", "root:x:0:\nnogroup:x:65534:\n"), ("etc/hostname", "localhost\n")]

/-- The files that are on every machine. -/
def systemFiles : FileTree :=
  let put (files : FileTree) (path : String) (kind : FileKind) (mode : Nat) : FileTree :=
    putAt FileTree.root path { kind, mode, modified := startTime } files
  let files : FileTree := systemDirectories.foldl
    (fun (files : FileTree) path => (putDirectory FileTree.root path files).2) {}
  let files := programNames.foldl
    (fun (files : FileTree) name =>
      put files ("usr/bin/" ++ name) (.plain (Octets.toBytes (programMark ++ name))) 0o755) files
  let files := systemLinks.foldl
    (fun (files : FileTree) (path, target) => put files path (.link target) 0o777) files
  let files := systemDevices.foldl
    (fun (files : FileTree) (path, device) => put files path (.device device) 0o666) files
  systemTexts.foldl
    (fun (files : FileTree) (path, text) => put files path (.plain text.toUTF8) 0o644) files

/-- A machine on which nothing has run. The shell stands in the directory that a path names, and
    `input` is what there is to read. -/
def fresh (directory : String) (environment : List (String × String)) (input : String) : Machine :=
  let (directory, files) := putDirectory FileTree.root (Octets.ofString directory) systemFiles
  let pipe : Pipe := { content := input.toUTF8, writers := 0 }
  { files, directory
    environment := environment.foldl (fun sofar entry => sofar.insert entry.1 entry.2) {}
    pipes := #[pipe, { bounded := false }, { bounded := false }] }

/-- Connects the shell with nothing: it has no input, and what it writes is forgotten. -/
def silence (machine : Machine) : Machine :=
  { machine with
    opened := machine.opened.map fun file => { file with channel := .device .null } }

/-- Puts something where a path leads, and makes the directories it stands in. -/
def addEntry (path : String) (entry : Entry) (machine : Machine) : Machine :=
  let path := Octets.ofString path
  let base := if path.startsWith "/" then FileTree.root else machine.directory
  match entry with
  | .directory => { machine with files := (putDirectory base path machine.files).2 }
  | .file mode content =>
    { machine with files := putAt base path { kind := .plain content, mode, modified := startTime } machine.files }

end Shell.Machine
