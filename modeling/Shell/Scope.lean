import Shell.Scope.Bindings

/-! # Scopes

The variables of a shell: a root frame and the frames pushed above it, with a set of names that are exported
to the commands it runs. A lookup goes from the innermost frame outwards.
-/

namespace Shell

/-- A stack of frames, and the names marked for export. -/
structure Scope where
  /-- The frame that is always there. -/
  root : Bindings := {}
  /-- The frames above it, the innermost first. -/
  pushed : List Bindings := []
  /-- Names whose bindings in the root frame are passed on to commands. -/
  exported : List String := []
deriving Repr, DecidableEq, Inhabited

namespace Scope

/-- A root frame without variables. -/
def empty : Scope := {}

/-- All frames, the innermost first. -/
def frames (scope : Scope) : List Bindings :=
  scope.pushed ++ [scope.root]

/-- The number of frames, the root included. -/
def depth (scope : Scope) : Nat :=
  scope.pushed.length + 1

/-- The text of a variable, from the innermost frame that binds it. -/
def get? (name : String) (scope : Scope) : Option String :=
  scope.frames.findSome? (Bindings.get? name)

/-- True when some frame binds a name. -/
def contains (name : String) (scope : Scope) : Bool :=
  (scope.get? name).isSome

/-- Binds a name in the innermost frame. -/
def setLocal (name value : String) (scope : Scope) : Scope :=
  match scope.pushed with
  | [] => { scope with root := scope.root.insert name value }
  | frame :: rest => { scope with pushed := frame.insert name value :: rest }

/-- Rebinds a name in the first frame that binds it. -/
def rebind? (name value : String) : List Bindings → Option (List Bindings)
  | [] => none
  | frame :: rest =>
    if frame.contains name then some (frame.insert name value :: rest)
    else (rebind? name value rest).map (frame :: ·)

/-- Rebinds a name where it is bound, or else binds it in the innermost frame. -/
def set (name value : String) (scope : Scope) : Scope :=
  match rebind? name value scope.pushed with
  | some pushed => { scope with pushed }
  | none =>
    if scope.root.contains name then { scope with root := scope.root.insert name value }
    else scope.setLocal name value

def isExported (name : String) (scope : Scope) : Bool :=
  scope.exported.contains name

/-- Marks a name for export. It need not be bound. -/
def exportName (name : String) (scope : Scope) : Scope :=
  if scope.isExported name then scope else { scope with exported := name :: scope.exported }

def setExported (name value : String) (scope : Scope) : Scope :=
  (scope.set name value).exportName name

/-- A scope whose root frame holds exported variables, set in order. -/
def ofVariables (bindings : List (String × String)) : Scope :=
  bindings.foldl (fun scope entry => scope.setExported entry.1 entry.2) empty

/-- Unbinds a name in the first frame that binds it. -/
def unbind? (name : String) : List Bindings → Option (String × List Bindings)
  | [] => none
  | frame :: rest =>
    match frame.get? name with
    | some value => some (value, frame.erase name :: rest)
    | none => (unbind? name rest).map fun (value, rest') => (value, frame :: rest')

/-- Removes the innermost binding of a name and returns its text. -/
def remove (name : String) (scope : Scope) : Option String × Scope :=
  match unbind? name scope.pushed with
  | some (value, pushed) => (some value, { scope with pushed })
  | none => (scope.root.get? name, { scope with root := scope.root.erase name })

/-- Opens a frame. -/
def push (scope : Scope) : Scope :=
  { scope with pushed := .empty :: scope.pushed }

/-- Closes the innermost frame. The root frame cannot be closed. -/
def pop? (scope : Scope) : Option Scope :=
  match scope.pushed with
  | [] => none
  | _ :: rest => some { scope with pushed := rest }

/-- What is wrong with closing the root frame. -/
def rootPopMessage : String := "cannot pop the root scope frame"

/-- What commands see: the exported variables of the root frame, and all those of the pushed frames,
    an inner frame hiding the ones outside it. -/
def environ (scope : Scope) : Bindings :=
  scope.pushed.foldr (fun frame outside => outside.overlay frame)
    (scope.root.restrict scope.isExported)

end Scope

end Shell
