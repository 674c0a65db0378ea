import Mathlib.Data.List.Forall2
import Shell.Proofs.Eval.Frames
import Shell.Proofs.Eval.Pairs
import Shell.Proofs.Eval.Preparation
import Shell.Proofs.Scope.Lookup

/-! # What a command leaves of the scope

A command with words is prepared in a frame of its own. Its assignments stay there, but an
assignment in an expression or in a script goes to the first frame that binds the variable. Under
the frame of the command no variable is bound anew. One gets another text only if it is set while
that frame does not bind it.
-/

namespace Shell

/-- The same names are bound, and only those that were touched may have another text. -/
def Bindings.Keeps (touched : String → Prop) (before after : Bindings) : Prop :=
  ∀ name, after.contains name = before.contains name ∧
    (after.get? name ≠ before.get? name → touched name)

namespace Bindings.Keeps

variable {touched : String → Prop} {first second third : Bindings}

theorem refl (bindings : Bindings) : Keeps touched bindings bindings :=
  fun _ => ⟨rfl, fun differs => absurd rfl differs⟩

theorem trans (before : Keeps touched first second) (after : Keeps touched second third) :
    Keeps touched first third := by
  intro name
  refine ⟨(after name).1.trans (before name).1, fun differs => ?_⟩
  by_cases same : second.get? name = first.get? name
  · exact (after name).2 (same ▸ differs)
  · exact (before name).2 same

theorem mono {touched' : String → Prop} (wider : ∀ name, touched name → touched' name)
    (keeps : Keeps touched first second) : Keeps touched' first second :=
  fun name => ⟨(keeps name).1, fun differs => wider name ((keeps name).2 differs)⟩

theorem insert {name : String} (bound : first.contains name = true) (value : String) :
    Keeps (· = name) first (first.insert name value) := by
  intro other
  simp only [contains, get?_insert]
  by_cases same : other = name
  · subst same
    exact ⟨by simpa [contains] using bound.symm, fun _ => rfl⟩
  · simp [same]

end Bindings.Keeps

namespace Scope

/-- The frames of one scope are related to those of another, and the same names are exported. -/
structure Framewise (P : Bindings → Bindings → Prop) (before after : Scope) : Prop where
  frames : List.Forall₂ P before.frames after.frames
  exported : after.exported = before.exported

/-- So are two scopes without their innermost frames, if these can be closed. -/
def Beneath (P : Bindings → Bindings → Prop) (before after : Scope) : Prop :=
  ∀ outer, before.pop? = some outer → ∃ outer', after.pop? = some outer' ∧ Framewise P outer outer'

section Relations

variable {P : Bindings → Bindings → Prop} {first second third : Scope}

theorem Framewise.refl (same : ∀ frame, P frame frame) (scope : Scope) : Framewise P scope scope :=
  ⟨List.forall₂_same.mpr fun frame _ => same frame, rfl⟩

theorem Framewise.mono {Q : Bindings → Bindings → Prop} (wider : ∀ old new, P old new → Q old new)
    (related : Framewise P first second) : Framewise Q first second :=
  ⟨related.frames.imp wider, related.exported⟩

theorem Framewise.trans (compose : ∀ {a b c}, P a b → P b c → P a c)
    (before : Framewise P first second) (after : Framewise P second third) :
    Framewise P first third := by
  refine ⟨?_, after.exported.trans before.exported⟩
  have both := List.forall₂_iff_get.mp before.frames
  have both' := List.forall₂_iff_get.mp after.frames
  refine List.forall₂_iff_get.mpr ⟨both.1.trans both'.1, fun i here here' => ?_⟩
  exact compose (both.2 i here (both.1 ▸ here)) (both'.2 i (both.1 ▸ here) here')

theorem Framewise.eq (same : Framewise Eq first second) : second = first := by
  have frames : first.frames = second.frames := by
    have := same.frames
    rwa [List.forall₂_eq_eq_eq] at this
  obtain ⟨pushed, root⟩ := List.append_inj' frames rfl
  obtain ⟨exported⟩ := same
  cases first
  cases second
  simp_all

theorem Beneath.refl (same : ∀ frame, P frame frame) (scope : Scope) : Beneath P scope scope :=
  fun outer popped => ⟨outer, popped, .refl same outer⟩

theorem Beneath.mono {Q : Bindings → Bindings → Prop} (wider : ∀ old new, P old new → Q old new)
    (beneath : Beneath P first second) : Beneath Q first second := by
  intro outer popped
  obtain ⟨outer', popped', related⟩ := beneath outer popped
  exact ⟨outer', popped', related.mono wider⟩

theorem Beneath.trans (compose : ∀ {a b c}, P a b → P b c → P a c)
    (before : Beneath P first second) (after : Beneath P second third) :
    Beneath P first third := by
  intro outer popped
  obtain ⟨outer', popped', begun⟩ := before outer popped
  obtain ⟨outer'', popped'', done⟩ := after outer' popped'
  exact ⟨outer'', popped'', begun.trans compose done⟩

end Relations

theorem Beneath.closed {P : Bindings → Bindings → Prop} {scope after : Scope}
    (beneath : Beneath P scope.push after) :
    ∃ outer, after.pop? = some outer ∧ Framewise P scope outer :=
  beneath scope rfl

theorem beneath_setLocal {P : Bindings → Bindings → Prop} (same : ∀ frame, P frame frame)
    (name value : String) (scope : Scope) : Beneath P scope (scope.setLocal name value) := by
  intro outer popped
  refine ⟨outer, ?_, .refl same outer⟩
  unfold pop? at popped
  split at popped
  · cases popped
  · rename_i frame rest pushed
    simpa [setLocal, pop?, pushed] using popped

/-- The frame that takes local variables. -/
def innermost (scope : Scope) : Bindings :=
  scope.pushed.headD scope.root

theorem keeps_rebind? {name value : String} {frames rebound : List Bindings}
    (h : rebind? name value frames = some rebound) :
    List.Forall₂ (Bindings.Keeps (· = name)) frames rebound := by
  induction frames generalizing rebound with
  | nil => cases h
  | cons frame rest ih =>
      simp only [rebind?] at h
      split at h
      · rename_i bound
        obtain rfl := Option.some.inj h
        exact .cons (.insert bound value) (List.forall₂_same.mpr fun frame _ => .refl frame)
      · obtain ⟨inner, found, rfl⟩ := Option.map_eq_some_iff.mp h
        exact .cons (.refl frame) (ih found)

/-- Only a variable that the innermost frame does not bind may be set in another frame. -/
theorem beneath_set (name value : String) (scope : Scope) :
    Beneath (Bindings.Keeps fun other => other = name ∧ scope.innermost.contains name = false)
      scope (scope.set name value) := by
  intro outer popped
  obtain ⟨root, pushed, exported⟩ := scope
  cases pushed with
  | nil => cases popped
  | cons frame rest =>
      obtain rfl := Option.some.inj popped
      have same : ∀ touched, Framewise (Bindings.Keeps touched) ⟨root, rest, exported⟩
          ⟨root, rest, exported⟩ := fun _ => .refl .refl _
      simp only [innermost, List.headD_cons]
      cases bound : frame.contains name with
      | true => exact ⟨_, by simp [set, rebind?, bound, pop?], same _⟩
      | false =>
          have wider : ∀ old new : Bindings, old.Keeps (· = name) new →
              old.Keeps (fun other => other = name ∧ false = false) new :=
            fun _ _ keeps => keeps.mono fun _ equal => ⟨equal, rfl⟩
          cases found : rebind? name value rest with
          | some rest' =>
              refine ⟨⟨root, rest', exported⟩, by simp [set, rebind?, bound, found, pop?], ?_, rfl⟩
              refine List.rel_append ((keeps_rebind? found).imp wider) ?_
              exact .cons (.refl root) .nil
          | none =>
              cases above : root.contains name with
              | true =>
                  refine ⟨⟨root.insert name value, rest, exported⟩,
                    by simp [set, rebind?, bound, found, above, pop?], ?_, rfl⟩
                  refine List.rel_append (List.forall₂_same.mpr fun frame _ => .refl frame) ?_
                  exact .cons (wider _ _ (.insert above value)) .nil
              | false =>
                  exact ⟨_, by simp [set, rebind?, bound, found, above, setLocal, pop?], same _⟩

def setAll (entries : List (String × String)) (scope : Scope) : Scope :=
  entries.foldl (fun scope entry => scope.set entry.1 entry.2) scope

theorem depth_setAll (entries : List (String × String)) (scope : Scope) :
    (scope.setAll entries).depth = scope.depth := by
  induction entries generalizing scope with
  | nil => rfl
  | cons entry entries ih => exact (ih _).trans (depth_set entry.1 entry.2 scope)

/-- The variables among them that are set while the innermost frame does not bind them. -/
def outside : List (String × String) → Scope → List String
  | [], _ => []
  | (name, value) :: rest, scope =>
    if scope.innermost.contains name then outside rest (scope.set name value)
    else name :: outside rest (scope.set name value)

theorem beneath_setAll (entries : List (String × String)) (scope : Scope) :
    Beneath (Bindings.Keeps (· ∈ outside entries scope)) scope (scope.setAll entries) := by
  induction entries generalizing scope with
  | nil => exact .refl .refl scope
  | cons entry entries ih =>
      obtain ⟨name, value⟩ := entry
      have later := ih (scope.set name value)
      have first := beneath_set name value scope
      refine .trans .trans (first.mono fun _ _ keeps => keeps.mono ?_)
        (later.mono fun _ _ keeps => keeps.mono ?_)
      · rintro other ⟨rfl, free⟩
        simp [outside, free]
      · intro other member
        rw [outside]
        split
        · exact member
        · exact List.mem_cons_of_mem name member

end Scope

/-- All that scripts of command substitutions do to the scope is to set variables. Which these are,
    in order, may depend on everything that a script can read. -/
def World.SetsOnly {σ τ : Type} (world : World σ τ)
    (sets : String → Scope → τ → List (String × String)) : Prop :=
  ∀ substituter, world.substituter = some substituter → ∀ script scope memory,
    (substituter script scope memory).2.1 = scope.setAll (sets script scope memory)

namespace EvalM

open Scope (Beneath Framewise)

variable {σ τ : Type} {world : World σ τ} {sets : String → Scope → τ → List (String × String)}

def settings (world : World σ τ) (sets : String → Scope → τ → List (String × String))
    (session : Session σ τ) : Substitution → List (String × String)
  | .parameter _ => []
  | .arithmetic expr =>
    match Arith.evaluate session.scope expr with
    | .ok result => result.writes.map fun entry => (entry.1, Arith.Numeral.render entry.2)
    | .error _ => []
  | .command script =>
    if world.substituter.isSome then sets script session.scope session.substituter else []

theorem scope_leaves (setsOnly : world.SetsOnly sets) (session : Session σ τ)
    (sub : Substitution) :
    (leaves world session sub).scope =
      session.scope.setAll (settings world sets session sub) := by
  cases sub with
  | parameter name => rfl
  | arithmetic expr =>
      simp only [leaves, Arith.perform, settings]
      cases Arith.evaluate session.scope expr with
      | error cause => rfl
      | ok result => simp [Arith.commit, Scope.setAll, List.foldl_map]
  | command script =>
      simp only [leaves, settings]
      cases installed : world.substituter with
      | none => rfl
      | some substituter => exact setsOnly substituter installed _ _ _

theorem composable_beneath {P : Bindings → Bindings → Prop} (same : ∀ frame, P frame frame)
    (compose : ∀ {a b c}, P a b → P b c → P a c) :
    Composable fun before after : Session σ τ => Beneath P before.scope after.scope where
  refl session := .refl same session.scope
  trans := .trans compose

/-- A command with words leaves every frame related to what it was, if every substitution leaves the
    frames under that of the command so, in the session in which it is resolved. -/
theorem framewise_command {P : Bindings → Bindings → Prop} (same : ∀ frame, P frame frame)
    (compose : ∀ {a b c}, P a b → P b c → P a c) {command : Command} (some : command.words ≠ [])
    (limit : Nat) (session : Session σ τ)
    (each : ∀ sub moment, Resolves world command session.openFrame sub moment →
      Beneath P moment.scope (leaves world moment sub).scope) :
    Framewise P session.scope
      ((evaluate world limit (.command command)).run.run session).2.scope := by
  have chain : Composable fun before after : Session σ τ => Beneath P before.scope after.scope :=
    composable_beneath same compose
  let inside : EvalM σ τ Status := do
    let invocation ← prepare world command
    let outcome ← ask (.run invocation) (world.spawner.run invocation)
    return outcome.status
  have within : Beneath P session.scope.push (inside.run.run session.openFrame).2.scope := by
    refine chain.relates_bind (chain.relates_prepare (fun name value session => ?_) each) ?_
    · exact Scope.beneath_setLocal same name value session.scope
    · exact fun invocation => chain.upholds_bind (fun session => .refl same session.scope)
        fun _ => chain.upholds_pure _
  obtain ⟨outer, popped, related⟩ := within.closed
  have ran : (runCommand world command).run.run session =
      ((inside.run.run session.openFrame).1, (inside.run.run session.openFrame).2.closeFrame) := by
    rw [runCommand, if_neg (by simpa using some), run_inFrame]
  have closed : (inside.run.run session.openFrame).2.closeFrame.scope = outer := by
    rw [Session.closeFrame, popped]
  rw [evaluate, run_complete, ran]
  cases (inside.run.run session.openFrame).1 with
  | error fault => exact closed ▸ related
  | ok status => exact closed ▸ related

theorem exists_word_of_resolves {command : Command} {session moment : Session σ τ}
    {sub : Substitution} (resolves : Resolves world command session sub moment) :
    ∃ word ∈ command.allWords, sub ∈ word.subs := by
  cases resolves with
  | inAssignment reaches inside =>
      exact ⟨_, List.mem_append_left _ (List.mem_map_of_mem reaches.mem),
        List.mem_of_mem_take inside.mem⟩
  | inWord _ reaches inside =>
      exact ⟨_, List.mem_append_right _ reaches.mem, List.mem_of_mem_take inside.mem⟩

theorem depth_of_resolves (setsOnly : world.SetsOnly sets) {command : Command}
    {session moment : Session σ τ} {sub : Substitution}
    (resolves : Resolves world command session.openFrame sub moment) :
    moment.scope.depth = session.scope.depth + 1 := by
  have chain : Composable fun before after : Session σ τ =>
      after.scope.depth = before.scope.depth := ⟨fun _ => rfl, fun first second => second.trans first⟩
  have kept := chain.relates_resolves (fun name value session => Scope.depth_setLocal name value _)
    (fun sub session => ?_) resolves
  · exact kept
  · rw [scope_leaves setsOnly]
    exact Scope.depth_setAll _ _

/-- However a command with words ends, every frame that was there binds the same names as before. A
    variable has another text only if a substitution of the command set it at a moment when the
    frame of the command, then the innermost, did not bind it. If there is nothing in the command
    but parameters, the scope is what it was. -/
theorem evaluate_command_scope (setsOnly : world.SetsOnly sets) {command : Command}
    (some : command.words ≠ []) (limit : Nat) (session : Session σ τ) :
    let after := ((evaluate world limit (.command command)).run.run session).2.scope
    List.Forall₂ (fun old new : Bindings => ∀ name, new.contains name = old.contains name ∧
        (new.get? name ≠ old.get? name → ∃ sub moment,
          Resolves world command session.openFrame sub moment ∧
          moment.scope.depth = session.scope.depth + 1 ∧
          name ∈ Scope.outside (settings world sets moment sub) moment.scope))
      session.scope.frames after.frames ∧
    after.exported = session.scope.exported ∧
    ((∀ word ∈ command.allWords, ∀ sub ∈ word.subs, ∃ name, sub = .parameter name) →
      after = session.scope) := by
  intro after
  let touched (name : String) : Prop := ∃ sub moment,
    Resolves world command session.openFrame sub moment ∧
    moment.scope.depth = session.scope.depth + 1 ∧
    name ∈ Scope.outside (settings world sets moment sub) moment.scope
  have kept : Framewise (Bindings.Keeps touched) session.scope after := by
    refine framewise_command .refl .trans some limit session fun sub moment resolves => ?_
    rw [scope_leaves setsOnly]
    refine (Scope.beneath_setAll _ moment.scope).mono fun _ _ keeps => keeps.mono ?_
    exact fun name member => ⟨sub, moment, resolves, depth_of_resolves setsOnly resolves, member⟩
  refine ⟨kept.frames, kept.exported, fun parameters => ?_⟩
  refine (framewise_command (fun _ => rfl) .trans some limit session ?_).eq
  intro sub moment resolves
  obtain ⟨word, among, inside⟩ := exists_word_of_resolves resolves
  obtain ⟨name, rfl⟩ := parameters word among sub inside
  exact .refl (fun _ => rfl) moment.scope

/-- The first expression sets a variable that the frame of the command does not bind yet. The later
    ones set variables that it binds, and the last one fails. A command without expressions leaves
    no trace. -/
theorem evaluate_command_scope_failing_word :
    let substituter : Substituter Unit := fun script scope memory =>
      (.ok script, scope.set "y" script, memory)
    let sets : String → Scope → Unit → List (String × String) := fun script _ _ => [("y", script)]
    let world : World Unit Unit :=
      ⟨⟨fun _ => pure (.exited 0), fun _ => pure (.exited 0), fun _ => pure (.ok 1)⟩,
        some substituter, "1"⟩
    let command : Command :=
      { assignments := [⟨"x", ⟨"\x01", [.arithmetic "x = 5"]⟩⟩, ⟨"z", .literal "2"⟩]
        words := [⟨"\x01", [.command "date"]⟩, ⟨"\x01", [.arithmetic "z = n = x = 7"]⟩,
          ⟨"\x01", [.arithmetic "1 / 0"]⟩] }
    let plain : Command :=
      { assignments := [⟨"x", ⟨"\x01", [.parameter "y"]⟩⟩], words := [⟨"\x01", [.parameter "x"]⟩] }
    let session : Session Unit Unit :=
      { scope := .ofVariables [("x", "1"), ("y", "1"), ("z", "1")], spawner := (), substituter := () }
    let (outcome, after) := (evaluate world 0 (.command command)).run.run session
    world.SetsOnly sets ∧ outcome = .error (.error (.arithmetic .divisionByZero)) ∧
      after.scope.frames = [⟨[("x", "5"), ("y", "date"), ("z", "1")]⟩] ∧
      List.Forall₂ (fun old new : Bindings => ∀ name, new.contains name = old.contains name)
        session.scope.frames after.scope.frames ∧
      (∃ sub moment, Resolves world command session.openFrame sub moment ∧
        "y" ∈ Scope.outside (settings world sets moment sub) moment.scope) ∧
      ((evaluate world 0 (.command plain)).run.run session).2.scope = session.scope := by
  intro substituter sets world command plain session
  have setsOnly : world.SetsOnly sets := by
    rintro _ ⟨rfl⟩ script scope memory
    rfl
  have kept := (evaluate_command_scope setsOnly (show command.words ≠ [] by decide) 0 session).1
  have left : ((evaluate world 0 (.command command)).run.run session).2.scope.frames =
      [⟨[("x", "5"), ("y", "date"), ("z", "1")]⟩] := by decide +kernel
  refine ⟨setsOnly, by decide +kernel, left, kept.imp fun _ _ keeps name => (keeps name).1, ?_, ?_⟩
  · rw [left, show session.scope.frames = [⟨[("x", "1"), ("y", "1"), ("z", "1")]⟩] by
      decide +kernel, List.forall₂_cons] at kept
    obtain ⟨sub, moment, resolves, -, member⟩ := (kept.1 "y").2 (by decide)
    exact ⟨sub, moment, resolves, member⟩
  · refine (evaluate_command_scope setsOnly (show plain.words ≠ [] by decide) 0 session).2.2 ?_
    intro word among sub inside
    have among : word = ⟨"\x01", [.parameter "y"]⟩ ∨ word = ⟨"\x01", [.parameter "x"]⟩ := by
      simpa [plain, Command.allWords] using among
    rcases among with rfl | rfl
    · exact ⟨"y", List.mem_singleton.mp inside⟩
    · exact ⟨"x", List.mem_singleton.mp inside⟩

end EvalM

end Shell
