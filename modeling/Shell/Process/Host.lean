import Shell.Process.Invocation

/-! # Hosts

What a shell needs of the system it runs on: three questions about files, and starting, watching and ending
programs. Everything about the system that matters for a shell is in the answers.
-/

namespace Shell

/-- A program that has been started. -/
abbrev Child := Nat

/-- A program to be started. -/
structure Launch where
  path : String
  /-- The arguments after the name of the program. -/
  arguments : List String
  /-- What the environment is to hold. A later entry counts more than an earlier one. -/
  env : List (String × String)
  /-- Whether the environment of the shell itself comes first. -/
  inheritEnv : Bool
  /-- The child whose output is the input, if it is not the input of the shell. -/
  input : Option Child := none
  /-- Whether the output is kept for another child. -/
  pipesOutput : Bool := false
deriving Repr, DecidableEq, Inhabited

/-- A system; `σ` is the state that it is in. -/
structure Host (σ : Type) where
  /-- True when a path leads to anything at all. -/
  pathExists : σ → String → Bool
  /-- True when a path leads to a regular file. -/
  isFile : σ → String → Bool
  /-- True when a path leads to a regular file that someone may execute. -/
  isExecutable : σ → String → Bool
  start : Launch → StateM σ (Except StartError Child)
  /-- Waits until a child has ended. -/
  wait : Child → StateM σ Outcome
  /-- How a child has ended, if it has. -/
  poll : Child → StateM σ (Option Outcome)
  kill : Child → StateM σ Unit

end Shell
