import Shell.Machine.Script.State
import Shell.Machine.Utility.Numeral

/-! # Elements of arrays

Arrays are variables with many values. Their keys are numbers or texts; a variable that is no array has one element,
with the key zero.
-/

namespace Shell.Machine.Script

namespace Variable

def isArray (entry : Variable) : Bool :=
  entry.elements.isSome || entry.entries.isSome

/-- The keys of a variable with what they stand for. -/
def pairs (entry : Variable) : List (String × String) :=
  match entry.entries, entry.elements with
  | some entries, _ => entries
  | none, some elements => elements.map fun element => (toString element.1, element.2)
  | none, none => (entry.value.map fun value => ("0", value)).toList

/-- One more than the greatest number of an element. -/
def extent (entry : Variable) : Nat :=
  match entry.elements with
  | some elements => (elements.getLast?.map fun element => element.1 + 1).getD 0
  | none => if entry.value.isSome then 1 else 0

/-- The number that is meant by one that may count from the end. -/
def position? (entry : Variable) (index : Int) : Option Nat :=
  if 0 ≤ index then some index.toNat
  else if 0 ≤ index + entry.extent then some (index + entry.extent).toNat
  else none

def numbered? (entry : Variable) (index : Nat) : Option String :=
  match entry.elements with
  | some elements => elements.lookup index
  | none => if index = 0 then entry.value else none

/-- A variable whose elements are as given. The value is the element with the number zero. -/
def withElements (elements : List (Nat × String)) (entry : Variable) : Variable :=
  { entry with elements := some elements, entries := none, value := elements.lookup 0, isSet := true }

def withEntries (entries : List (String × String)) (entry : Variable) : Variable :=
  { entry with elements := none, entries := some entries, value := entries.lookup "0", isSet := true }

/-- A variable as an array that is numbered. -/
def asElements (entry : Variable) : Variable :=
  match entry.elements with
  | some _ => entry
  | none => entry.withElements ((entry.value.map fun value => (0, value)).toList)

/-- A variable as an array whose keys are texts. -/
def asEntries (entry : Variable) : Variable :=
  match entry.entries with
  | some _ => entry
  | none => entry.withEntries []

end Variable

/-- Texts as the elements of an array. -/
def numberedFrom : Nat → List String → List (Nat × String)
  | _, [] => []
  | index, text :: rest => (index, text) :: numberedFrom (index + 1) rest

namespace State

/-- The options by name that are set by single letters too, in the order in which they are listed. -/
def letterOptions : List (String × Char) := [
  ("allexport", 'a'), ("braceexpand", 'B'), ("errexit", 'e'), ("errtrace", 'E'), ("functrace", 'T'),
  ("hashall", 'h'), ("histexpand", 'H'), ("keyword", 'k'), ("monitor", 'm'), ("noclobber", 'C'), ("noexec", 'n'),
  ("noglob", 'f'), ("notify", 'b'), ("nounset", 'u'), ("onecmd", 't'), ("physical", 'P'), ("privileged", 'p'),
  ("verbose", 'v'), ("xtrace", 'x')]

/-- The options by name that no letter sets. -/
def wordOptions : List String :=
  ["emacs", "history", "ignoreeof", "interactive-comments", "nolog", "pipefail", "posix", "vi"]

def optionNames (state : State) : List String :=
  let letters := (letterOptions.filter fun entry => state.hasOption entry.2).map (·.1)
  let words := wordOptions.filter state.switches.contains
  (letters ++ words).mergeSort fun left right => left ≤ right

/-- The functions that are being run, the innermost first. -/
def functionNames (state : State) : List String :=
  if state.functionDepth = 0 then []
  else state.frames.map Frame.function ++ (if state.isArgument then [] else ["main"])

def functionFiles (state : State) : List String :=
  state.frames.map Frame.file ++ (if state.isArgument then [] else [state.name])

/-- The lines from which the functions that are being run were called. -/
def functionLines (state : State) : List String :=
  state.frames.map (fun frame => toString frame.line) ++ (if state.isArgument then [] else ["0"])

/-- A directory with a tilde for the home directory. -/
def shortened (state : State) (path : String) : String :=
  let home := (state.value? "HOME").getD ""
  if home.length < 2 then path
  else if path = home then "~"
  else if path.startsWith (home ++ "/") then "~" ++ (path.drop home.length).toString
  else path

/-- Values of the extended dialect that are made when they are asked for. -/
def madeValues? (name : String) (state : State) : Option (Option (List String)) :=
  match name with
  | "PIPESTATUS" => some (some (state.statuses.map toString))
  | "FUNCNAME" => some (if state.functionNames.isEmpty then none else some state.functionNames)
  | "BASH_SOURCE" => some (some state.functionFiles)
  | "BASH_LINENO" => some (some state.functionLines)
  | "DIRSTACK" => some (some ((state.directory :: state.directories).map state.shortened))
  | "GROUPS" => some (some ["0"])
  | _ => none

/-- A text of the extended dialect that is made when it is asked for. -/
def madeValue? (name : String) (state : State) : Option String :=
  match name with
  | "LINENO" => some (toString state.line)
  | "BASH_SUBSHELL" => some (toString state.nesting)
  | "SECONDS" => some (toString ((state.now - state.startTime) / 1000000))
  | "EPOCHSECONDS" => some (toString (state.now / 1000000))
  | "EPOCHREALTIME" =>
    some (toString (state.now / 1000000) ++ "." ++ Numeral.padLeft 6 '0' (toString (state.now % 1000000)))
  | "_" => some state.lastArgument
  | "SHELLOPTS" => some (":".intercalate state.optionNames)
  | "BASHOPTS" =>
    some (":".intercalate (state.switches.filter fun name => !wordOptions.contains name))
  | _ => none

/-- A variable as it is seen by who asks for it by name. -/
def visible? (name : String) (state : State) : Option Variable :=
  let name := state.meant maxReferences name
  if state.dialect = .plain then state.binding? name
  else
    match state.madeValues? name with
    | some values =>
      values.map fun values => ({ name, value := none } : Variable).withElements (numberedFrom 0 values)
    | none =>
      match state.madeValue? name with
      | some value => some { name, value := some value }
      | none => state.binding? name

/-- The variable with a name, or a new one. -/
def entryToChange (name : String) (state : State) : Variable :=
  let name := state.meant maxReferences name
  (state.binding? name).getD { name, value := none }

def assignNumbered (name : String) (index : Nat) (value : String) (state : State) : State :=
  let entry := (state.entryToChange name).asElements
  let value := match entry.casing with
    | some casing => recase casing value
    | none => value
  state.putVariable (entry.withElements (setElement index value (entry.elements.getD [])))

/-- Gives an entry with a text as key a value. -/
def assignKeyed (name key value : String) (state : State) : State :=
  let entry := (state.entryToChange name).asEntries
  let value := match entry.casing with
    | some casing => recase casing value
    | none => value
  state.putVariable (entry.withEntries (setEntry key value (entry.entries.getD [])))

/-! ## Numbers by chance -/

/-- The number that follows another one. -/
def nextSeed (seed : Nat) : Nat :=
  let seed := if seed = 0 then 123459876 else seed
  let high := seed / 127773
  let low := seed - 127773 * high
  let value : Int := 16807 * (low : Int) - 2836 * (high : Int)
  (if value < 0 then value + 2147483647 else value).toNat

/-- Draws a number that differs from the last one; so many are tried. -/
def draw : Nat → State → Nat × State
  | 0, state => (0, state)
  | fuel + 1, state =>
    let seed := nextSeed state.chance
    let value := ((seed >>> 16) ^^^ (seed &&& 65535)) &&& 32767
    let next := { state with chance := seed }
    if value = state.lastDrawn then draw fuel next else (value, { next with lastDrawn := value })

end State

end Shell.Machine.Script
