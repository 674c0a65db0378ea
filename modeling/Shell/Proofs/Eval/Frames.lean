import Mathlib.Control.Monad.Basic
import Shell.Proofs.Eval.Runs

/-! # Frames are closed by whoever opened them

An evaluation leaves as many frames as it finds, whatever its outcome, as long as the scripts of
command substitutions do. What it does to the frames in between is well nested: it never closes
one that it has not opened, so the root frame is safe.
-/

namespace Shell

namespace Scope

theorem length_rebind? {name value : String} {frames rebound : List Bindings}
    (h : rebind? name value frames = some rebound) : rebound.length = frames.length := by
  induction frames generalizing rebound with
  | nil => simp [rebind?] at h
  | cons frame rest ih =>
      simp only [rebind?] at h
      split at h
      · injection h with h
        subst h
        rfl
      · obtain ⟨inner, found, rfl⟩ := Option.map_eq_some_iff.mp h
        simp [ih found]

@[simp] theorem depth_setLocal (name value : String) (scope : Scope) :
    (scope.setLocal name value).depth = scope.depth := by
  cases h : scope.pushed with
  | nil | cons => simp [setLocal, depth, h]

@[simp] theorem depth_set (name value : String) (scope : Scope) :
    (scope.set name value).depth = scope.depth := by
  unfold set
  split
  next pushed rebound => simp [depth, length_rebind? rebound]
  next =>
    split
    · rfl
    · exact depth_setLocal name value scope

@[simp] theorem depth_push (scope : Scope) : scope.push.depth = scope.depth + 1 := rfl

theorem pop?_of_depth {scope : Scope} {below : Nat} (above : scope.depth = below + 2) :
    ∃ scope', scope.pop? = some scope' ∧ scope'.depth = below + 1 := by
  cases h : scope.pushed with
  | nil => simp [depth, h] at above
  | cons frame rest =>
      exact ⟨{ scope with pushed := rest }, by simp [pop?, h], by simpa [depth, h] using above⟩

end Scope

/-- An event leaves at least so many frames, and is not the closing of the root. -/
def FrameEvent.IsWithin (least : Nat) : FrameEvent → Prop
  | opened depth | closed depth => least ≤ depth
  | refused => False

/-- Events, the last first, that lead from so many frames back to as many: each frame that is opened
    is closed, after all those that were opened in it. -/
inductive Nested : Nat → List FrameEvent → Prop where
  | nil {depth : Nat} : Nested depth []
  | frame {depth : Nat} {inside before : List FrameEvent} :
    Nested (depth + 1) inside → Nested depth before →
      Nested depth (.closed depth :: (inside ++ .opened (depth + 1) :: before))

namespace Nested

theorem append {depth : Nat} {later earlier : List FrameEvent} (second : Nested depth later)
    (first : Nested depth earlier) : Nested depth (later ++ earlier) := by
  induction second with
  | nil => exact first
  | frame inside _ _ ih => simpa using .frame inside (ih first)

/-- Nothing happens below the frames that were there at first. -/
theorem isWithin {depth : Nat} {events : List FrameEvent} (nested : Nested depth events) :
    ∀ event ∈ events, event.IsWithin depth := by
  induction nested with
  | nil => simp
  | @frame depth inside before _ _ ihInside ihBefore =>
      intro event member
      simp only [List.mem_cons, List.mem_append] at member
      rcases member with rfl | member | rfl | member
      · exact Nat.le_refl depth
      · have deeper := ihInside event member
        cases event with
        | opened | closed => exact Nat.le_of_succ_le deeper
        | refused => exact deeper
      · exact Nat.le_succ depth
      · exact ihBefore event member

end Nested

/-- A session has as many frames as another, and in between frames were opened and closed in turn. -/
structure Session.KeepsFrames {σ τ : Type} (before after : Session σ τ) : Prop where
  depth : after.scope.depth = before.scope.depth
  nested : ∃ events, after.frameEvents = events ++ before.frameEvents ∧
    Nested before.scope.depth events

/-- Scripts of command substitutions leave as many frames as they find. -/
def World.IsBalanced {σ τ : Type} (world : World σ τ) : Prop :=
  ∀ substituter, world.substituter = some substituter → ∀ script scope memory,
    (substituter script scope memory).2.1.depth = scope.depth

namespace Session.KeepsFrames

variable {σ τ : Type} {first second third : Session σ τ}

theorem of_scope (same : second.scope.depth = first.scope.depth)
    (silent : second.frameEvents = first.frameEvents) : KeepsFrames first second :=
  ⟨same, [], silent, .nil⟩

theorem trans (before : KeepsFrames first second) (after : KeepsFrames second third) :
    KeepsFrames first third := by
  obtain ⟨earlier, happened, nested⟩ := before.nested
  obtain ⟨later, happened', nested'⟩ := after.nested
  refine ⟨after.depth.trans before.depth, later ++ earlier, ?_, ?_⟩
  · rw [happened', happened, List.append_assoc]
  · exact .append (before.depth ▸ nested') nested

theorem closeFrame (inside : KeepsFrames first.openFrame second) :
    KeepsFrames first second.closeFrame := by
  obtain ⟨events, happened, nested⟩ := inside.nested
  obtain ⟨scope, closed, depth⟩ := Scope.pop?_of_depth inside.depth
  refine ⟨?_, .closed first.scope.depth :: (events ++ [.opened (first.scope.depth + 1)]), ?_, ?_⟩
  · simp only [Session.closeFrame, closed]
    exact depth
  · have opened : first.openFrame.frameEvents =
        .opened (first.scope.depth + 1) :: first.frameEvents := rfl
    simp only [Session.closeFrame, closed, depth, happened, opened, List.cons_append,
      List.append_assoc, List.nil_append]
    rfl
  · exact .frame nested .nil

end Session.KeepsFrames

namespace EvalM

open Session (KeepsFrames)

variable {σ τ : Type} {world : World σ τ}

theorem respected_keepsFrames (balanced : world.IsBalanced) :
    Respected world (KeepsFrames : Session σ τ → Session σ τ → Prop) where
  refl _ := .of_scope rfl rfl
  trans := .trans
  set name value _ := .of_scope (Scope.depth_set name value _) rfl
  setLocal name value _ := .of_scope (Scope.depth_setLocal name value _) rfl
  ask _ _ _ := .of_scope rfl rfl
  start _ _ _ := .of_scope rfl rfl
  substitute installed script _ := .of_scope (balanced _ installed script _ _) rfl
  status _ _ := .of_scope rfl rfl
  background _ _ := .of_scope rfl rfl
  frame := .closeFrame

/-- Whatever an evaluation or an expansion ends with, there are as many frames as at its beginning.
    In between frames were opened and closed in turn, there were never fewer, and the root frame was
    never to be closed. -/
theorem evaluate_keeps_frames (balanced : world.IsBalanced) (limit : Nat)
    (session : Session σ τ) :
    let kept (after : Session σ τ) : Prop :=
      after.scope.depth = session.scope.depth ∧
        ∃ events, after.frameEvents = events ++ session.frameEvents ∧
          Nested session.scope.depth events ∧
          ∀ event ∈ events, event.IsWithin session.scope.depth
    (∀ node, kept ((evaluate world limit node).run.run session).2) ∧
      ∀ word, kept ((expand world word).run.run session).2 := by
  intro kept
  have of_keepsFrames : ∀ after, KeepsFrames session after → kept after := by
    rintro after ⟨depth, events, happened, nested⟩
    exact ⟨depth, events, happened, nested, nested.isWithin⟩
  have respected := respected_keepsFrames balanced
  exact ⟨fun node => of_keepsFrames _ (respected.upholds_evaluate limit node session),
    fun word => of_keepsFrames _ (respected.upholds_expand word session)⟩

/-- A pipeline is given up in the frame of its second stage, whose word divides by zero. The script
    of the first stage opened a frame of its own and closed it. -/
theorem evaluate_keeps_frames_failing_stage :
    let substituter : Substituter Unit := fun script scope memory =>
      (.ok script, ((scope.push.setLocal "x" script).pop?).getD scope, memory)
    let world : World Unit Unit :=
      ⟨⟨fun _ => pure (.exited 0), fun _ => pure (.exited 0), fun _ => pure (.ok 1)⟩,
        some substituter, "1"⟩
    let stage (sub : Substitution) : Node := .command { words := [⟨"\x01", [sub]⟩] }
    let node : Node := .pipeline [stage (.command "date"), stage (.arithmetic "1 / 0")] false
    let session : Session Unit Unit := { scope := Scope.empty.push, spawner := (), substituter := () }
    let (outcome, after) := (evaluate world 0 node).run.run session
    world.IsBalanced ∧ outcome = .error (.error (.arithmetic .divisionByZero)) ∧
      after.frameEvents = [.closed 2, .opened 3, .closed 2, .opened 3] ∧
      after.scope.depth = session.scope.depth := by
  intro substituter world stage node session
  have balanced : world.IsBalanced := by
    rintro _ ⟨rfl⟩ script scope memory
    rfl
  have kept := (evaluate_keeps_frames balanced 0 session).1 node
  refine ⟨balanced, ?_, ?_, kept.1⟩
  · decide +kernel
  · decide +kernel

end EvalM

end Shell
