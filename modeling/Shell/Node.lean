import Shell.Word

/-! # Trees

The constructs of the shell language, as they are after parsing.
-/

namespace Shell

/-- `&&` or `||` between two constructs. -/
inductive ChainOp where
  | both
  | either
deriving Repr, DecidableEq, Inhabited

/-- Whether a loop goes on while its condition succeeds or while it fails. -/
inductive LoopKind where
  | whileTrue
  | untilTrue
deriving Repr, DecidableEq, Inhabited

/-- Assignments and words: what a single command is made of. -/
structure Command where
  assignments : List Assignment := []
  words : List Word := []
deriving Repr, DecidableEq, Inhabited

mutual

/-- A construct. -/
inductive Node where
  /-- Constructs in order. -/
  | list (nodes : List Node)
  | chain (op : ChainOp) (left right : Node)
  | negate (inner : Node)
  | loop (kind : LoopKind) (condition body : Node)
  | forEach (name : String) (items : List Word) (body : Node)
  | branch (links : Links)
  | case (subject : Word) (arms : List Arm)
  | command (command : Command)
  | arithmetic (expr : String)
  | pipeline (stages : List Node) (background : Bool)
  /-- The end of a script. -/
  | finish

/-- The links of an `if`. -/
inductive Links where
  /-- No link is left. -/
  | done
  /-- The final `else`. -/
  | otherwise (body : Node)
  /-- A condition, what it guards, and the links to try when it fails. -/
  | test (condition body : Node) (rest : Links)

/-- One arm of a `case`: patterns and what they guard. -/
inductive Arm where
  | mk (patterns : List Word) (body : Node)

end

instance : Inhabited Node := ⟨.finish⟩

namespace Node

def kindName : Node → String
  | list _ => "list"
  | chain .both _ _ => "and"
  | chain .either _ _ => "or"
  | negate _ => "negate"
  | loop .whileTrue _ _ => "while"
  | loop .untilTrue _ _ => "until"
  | forEach _ _ _ => "for"
  | branch _ => "if"
  | case _ _ => "case"
  | command _ => "command"
  | arithmetic _ => "arithmetic"
  | pipeline _ _ => "pipeline"
  | finish => "eof"

/-- The command of a construct that can be a stage of a pipeline: one with at least one word. -/
def stage? : Node → Option Command
  | command cmd => if cmd.words.isEmpty then none else some cmd
  | _ => none

end Node

end Shell
