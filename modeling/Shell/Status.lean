/-! # Exit statuses

The number that everything a shell runs ends with: zero for success, anything else for failure.
-/

namespace Shell

/-- The outcome of a command or of anything built from commands. -/
structure Status where
  code : Int
deriving Repr, DecidableEq, Inhabited

namespace Status

/-- The status of what went well. -/
def success : Status := ⟨0⟩

/-- The status of what went wrong in no particular way. -/
def failure : Status := ⟨1⟩

/-- A command that was found but could not be run. -/
def notExecutable : Status := ⟨126⟩

/-- A command that was not found. -/
def notFound : Status := ⟨127⟩

/-- A command that was ended by a signal. -/
def ofSignal (signal : Int) : Status := ⟨128 + signal⟩

/-- Success for true, failure for false. -/
def ofBool (b : Bool) : Status :=
  if b then success else failure

def isSuccess (status : Status) : Bool :=
  status.code == 0

/-- Success turns into failure, and any failure into success. -/
def negate (status : Status) : Status :=
  ofBool !status.isSuccess

/-- The status in decimal. -/
def render (status : Status) : String :=
  toString status.code

end Status

end Shell
