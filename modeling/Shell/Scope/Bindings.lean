/-! # Bindings

A finite map from names to texts, kept in increasing order of name. Names are compared by code point.
-/

namespace Shell

/-- Names with the texts they are bound to. -/
structure Bindings where
  entries : List (String × String) := []
deriving Repr, DecidableEq, Inhabited

namespace Bindings

/-- No names at all. -/
def empty : Bindings := {}

/-- The text that a name is bound to. -/
def get? (name : String) (bindings : Bindings) : Option String :=
  bindings.entries.lookup name

def contains (name : String) (bindings : Bindings) : Bool :=
  (bindings.get? name).isSome

/-- Puts an entry in its place among others, instead of one with its name. -/
def insertEntry (name value : String) : List (String × String) → List (String × String)
  | [] => [(name, value)]
  | (other, text) :: rest =>
    if name = other then (name, value) :: rest
    else if name < other then (name, value) :: (other, text) :: rest
    else (other, text) :: insertEntry name value rest

def insert (name value : String) (bindings : Bindings) : Bindings :=
  ⟨insertEntry name value bindings.entries⟩

def erase (name : String) (bindings : Bindings) : Bindings :=
  ⟨bindings.entries.filter fun entry => entry.1 ≠ name⟩

/-- The bindings of some names only. -/
def restrict (keep : String → Bool) (bindings : Bindings) : Bindings :=
  ⟨bindings.entries.filter fun entry => keep entry.1⟩

/-- Binds every name of another map as that map does. -/
def overlay (bindings above : Bindings) : Bindings :=
  above.entries.foldl (fun sofar entry => sofar.insert entry.1 entry.2) bindings

/-- The entries in increasing order of name. -/
def toList (bindings : Bindings) : List (String × String) :=
  bindings.entries

end Bindings

end Shell
