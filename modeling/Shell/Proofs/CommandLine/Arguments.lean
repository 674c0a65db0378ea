import Mathlib.Control.Monad.Basic
import Mathlib.Data.List.TakeDrop
import Shell.CommandLine
import Shell.Proofs.CommandLine.Quoting
import Shell.Proofs.Eval.Laws
import Shell.Proofs.Eval.Runs
import Shell.Proofs.Scope.Environment

/-! # Arguments that are passed on

An argument is written between double quotes and scanned. If nothing is to be put into it, it comes
back as it was, whatever else it contains. So the arguments of a command line become the words and
the variables of one command, character for character.
-/

namespace Shell

/-- A character that puts nothing into a word. -/
def Plain (c : Char) : Prop :=
  c ≠ '$' ∧ c ≠ '`' ∧ c ≠ marker

instance (c : Char) : Decidable (Plain c) :=
  inferInstanceAs (Decidable (_ ∧ _))

/-! ## One argument -/

namespace Scan

theorem leads_spell {text : List Char} (plain : ∀ c ∈ text, Plain c) (place opened : Place)
    (draft : Draft) :
    Leads place (.double draft opened) (Argument.spell text ++ ['"'])
      (.word (draft.append text)) := by
  induction text generalizing place draft with
  | nil =>
      rw [Draft.append_nil]
      exact .cons _ rfl .nil
  | cons c text ih =>
      obtain ⟨here, plain⟩ := List.forall_mem_cons.mp plain
      have lone : Argument.Lone c text := fun _ d next =>
        ⟨(plain d (List.mem_of_mem_head? next)).1, (plain d (List.mem_of_mem_head? next)).2.1⟩
      rw [Argument.spell_char lone, List.append_assoc, Draft.append_cons]
      split
      next special =>
        -- the backslash is taken away again
        refine .cons (.doubleEscape draft opened) rfl ?_
        refine .cons (.double (draft.push c) opened) ?_ (ih plain _ _)
        rcases special with rfl | rfl <;> rfl
      next ordinary =>
        refine .cons (.double (draft.push c) opened) ?_ (ih plain _ _)
        obtain ⟨noBackslash, noQuote⟩ := not_or.mp ordinary
        simp only [step, doubleChar, if_neg noQuote, if_neg noBackslash, if_neg here.1,
          if_neg here.2.1, if_neg here.2.2]

end Scan

namespace Argument

variable {argument : String} (plain : ∀ c ∈ argument.toList, Plain c)
include plain

/-- An argument between double quotes is one word and nothing more. -/
theorem scan_quote :
    scan (quote argument) = [
      .ok { token := .word, start := {}, value := argument, quoted := true },
      .ok (Scan.finishItem (({} : Place).past (quote argument).toList))] := by
  have leads : Scan.Leads {} .between (quote argument).toList
      (.word ((Draft.quote { start := {} }).append argument.toList)) := by
    rw [quote, String.toList_ofList, List.append_assoc]
    exact .cons (.double (Draft.quote { start := {} }) {}) rfl (Scan.leads_spell plain _ _ _)
  have found := leads []
  rw [List.append_nil] at found
  rw [scan, found, Scan.run, Scan.finish, Scan.Context.finish, Draft.append, Draft.toItem]
  simp [Draft.quote]

theorem read_of_plain : read argument = .ok (.literal argument) :=
  read_of_word { start := {}, text := argument, quoted := true } (scan_quote plain)

end Argument

/-! ## Bindings before the words -/

namespace Assignment

def spell (entry : String × String) : String :=
  entry.1 ++ "=" ++ entry.2

def literal (entry : String × String) : Assignment :=
  ⟨entry.1, .literal entry.2⟩

def Binds (argument : String) : Prop :=
  ∃ entry, argument = spell entry ∧ Name.isValid entry.1.toList = true

theorem ofText?_spell {entry : String × String} (valid : Name.isValid entry.1.toList = true) :
    ofText? (spell entry) = some (literal entry) := by
  obtain ⟨name, value⟩ := entry
  have inName : ∀ c ∈ name.toList, (!decide (c = '=')) = true := by
    intro c member
    have part := Name.isPart_of_isValid valid c member
    rw [Bool.not_eq_true', decide_eq_false_iff_not]
    rintro rfl
    exact absurd part (by decide)
  simp [ofText?, spell, literal, List.span_eq_takeWhile_dropWhile,
    List.takeWhile_append_of_pos inName, List.dropWhile_append_of_pos inName, valid]

theorem of_ofText? {argument : String} {binding : Assignment}
    (read : ofText? argument = some binding) :
    ∃ entry, binding = literal entry ∧ argument = spell entry ∧
      Name.isValid entry.1.toList = true := by
  have parts : argument.toList.takeWhile (· ≠ '=') ++ argument.toList.dropWhile (· ≠ '=') =
      argument.toList := List.takeWhile_append_dropWhile
  have next := List.head?_dropWhile_not (· ≠ '=') argument.toList
  rw [ofText?, List.span_eq_takeWhile_dropWhile] at read
  generalize argument.toList.takeWhile (· ≠ '=') = name at parts read
  generalize argument.toList.dropWhile (· ≠ '=') = rest at parts next read
  cases rest with
  | nil => exact absurd read (Option.some_ne_none _).symm
  | cons sign value =>
      have equals : sign = '=' := by simpa using next
      subst equals
      dsimp only at read
      split at read
      next valid =>
        refine ⟨(String.ofList name, String.ofList value), (Option.some.inj read).symm, ?_, ?_⟩
        · simp [spell, String.ext_iff, parts]
        · rwa [String.toList_ofList]
      next => exact absurd read (Option.some_ne_none _).symm

theorem ofText?_eq_none_iff {argument : String} : ofText? argument = none ↔ ¬ Binds argument := by
  constructor
  · rintro none ⟨entry, rfl, valid⟩
    rw [ofText?_spell valid] at none
    exact Option.some_ne_none _ none
  · intro other
    by_contra some
    obtain ⟨binding, read⟩ := Option.ne_none_iff_exists'.mp some
    obtain ⟨entry, -, spelled, valid⟩ := of_ofText? read
    exact other ⟨entry, spelled, valid⟩

end Assignment

namespace CommandLine

/-- Arguments are bindings, as many as there are at the front, and then words. -/
structure Divides (arguments : List String) (bindings : List (String × String))
    (words : List String) : Prop where
  spelled : arguments = bindings.map Assignment.spell ++ words
  names : ∀ entry ∈ bindings, Name.isValid entry.1.toList = true
  longest : ∀ word ∈ words.head?, ¬ Assignment.Binds word

theorem exists_divides (arguments : List String) :
    ∃ bindings words, Divides arguments bindings words := by
  induction arguments with
  | nil => exact ⟨[], [], rfl, by simp, by simp⟩
  | cons argument rest ih =>
      by_cases binds : Assignment.Binds argument
      · obtain ⟨entry, rfl, valid⟩ := binds
        obtain ⟨bindings, words, divides⟩ := ih
        refine ⟨entry :: bindings, words, ?_, ?_, divides.longest⟩
        · rw [divides.spelled, List.map_cons, List.cons_append]
        · exact List.forall_mem_cons.mpr ⟨valid, divides.names⟩
      · exact ⟨[], argument :: rest, rfl, by simp, by simpa using binds⟩

theorem divide_of_divides {arguments : List String} {bindings : List (String × String)}
    {words : List String} (divides : Divides arguments bindings words) :
    divide arguments = (bindings.map Assignment.literal, words) := by
  obtain ⟨rfl, names, longest⟩ := divides
  induction bindings with
  | nil =>
      cases words with
      | nil => rfl
      | cons word words =>
          have none := Assignment.ofText?_eq_none_iff.mpr (longest word rfl)
          rw [List.map_nil, List.nil_append, divide, none]
          rfl
  | cons entry bindings ih =>
      obtain ⟨valid, names⟩ := List.forall_mem_cons.mp names
      rw [List.map_cons, List.cons_append, divide, Assignment.ofText?_spell valid, ih names]
      rfl

end CommandLine

namespace Argument

theorem mapM_read_of_plain {arguments : List String}
    (plain : ∀ argument ∈ arguments, ∀ c ∈ argument.toList, Plain c) :
    arguments.mapM read = .ok (arguments.map Word.literal) := by
  induction arguments with
  | nil => rfl
  | cons argument arguments ih =>
      obtain ⟨here, plain⟩ := List.forall_mem_cons.mp plain
      rw [List.mapM_cons, read_of_plain here, ih plain]
      rfl

theorem mapM_readBinding_of_plain {entries : List (String × String)}
    (plain : ∀ entry ∈ entries, ∀ c ∈ entry.2.toList, Plain c) :
    (entries.map Assignment.literal).mapM readBinding = .ok (entries.map Assignment.literal) := by
  induction entries with
  | nil => rfl
  | cons entry entries ih =>
      obtain ⟨here, plain⟩ := List.forall_mem_cons.mp plain
      rw [List.map_cons, List.mapM_cons, ih plain, readBinding]
      rw [show read (Assignment.literal entry).value.raw = .ok (.literal entry.2) from
        read_of_plain here]
      rfl

end Argument

/-! ## The command -/

/-- The command that binds names to texts and consists of words, all standing for themselves. -/
def Command.literal (bindings : List (String × String)) (words : List String) : Command :=
  ⟨bindings.map Assignment.literal, words.map Word.literal⟩

namespace EvalM

variable {σ τ : Type} (world : World σ τ)

theorem run_assign_literal (bindings : List (String × String)) (session : Session σ τ) :
    (forIn (bindings.map Assignment.literal) PUnit.unit fun assignment _ => do
      let value ← expand world assignment.value
      modifyScope (Scope.setLocal assignment.name value)
      pure (ForInStep.yield PUnit.unit) : EvalM σ τ PUnit).run.run session =
      (.ok .unit, { session with scope := session.scope.setLocals bindings }) := by
  induction bindings generalizing session with
  | nil => rfl
  | cons entry bindings ih =>
      rw [List.map_cons, List.forIn_cons]
      exact ih _

theorem run_prepare_literal (bindings : List (String × String)) (words : List String)
    (session : Session σ τ) :
    let scope := session.scope.setLocals bindings
    (prepare world (.literal bindings words)).run.run session =
      (.ok ⟨words, scope.environ.toList⟩, { session with scope }) := by
  have literal : ∀ word ∈ words.map Word.literal, word.isLiteral = true := by
    simp [Word.literal, Word.isLiteral]
  have raw : (words.map Word.literal).map Word.raw = words := by
    simp [Word.literal, Function.comp_def]
  rw [prepare, Command.literal, mapM_expand_literal literal, raw, run_bind, run_assign_literal]
  rfl

theorem closeFrame_setLocals (entries : List (String × String)) {session : Session σ τ}
    {scope : Scope} (inside : session.scope = scope.push.setLocals entries) :
    session.closeFrame = { session with
      scope, frameEvents := .closed scope.depth :: session.frameEvents } := by
  rw [Scope.setLocals_push] at inside
  rw [Session.closeFrame, inside]
  rfl

/-- A command with words is asked to be run once, in a frame of its own. -/
theorem run_evaluate_literal (limit : Nat) (bindings : List (String × String))
    {words : List String} (some : words ≠ []) (session : Session σ τ) :
    let invocation : Invocation :=
      ⟨words, (session.scope.push.setLocals bindings).environ.toList⟩
    let answer := (world.spawner.run invocation).run session.spawner
    (evaluate world limit (.command (.literal bindings words))).run.run session =
      (.ok answer.1.status, { session with
        spawner := answer.2
        lastStatus := answer.1.status
        requests := session.requests ++ [.run invocation]
        frameEvents := .closed session.scope.depth :: .opened (session.scope.depth + 1) ::
          session.frameEvents }) := by
  intro invocation answer
  have notEmpty : (Command.literal bindings words).words.isEmpty = false := by
    simpa [Command.literal] using some
  have inside : (do
      let invocation ← prepare world (.literal bindings words)
      let outcome ← ask (.run invocation) (world.spawner.run invocation)
      return outcome.status).run.run session.openFrame =
      (.ok answer.1.status, { session.openFrame with
        scope := session.scope.push.setLocals bindings
        spawner := answer.2
        requests := session.requests ++ [.run invocation] }) := by
    rw [run_bind, run_prepare_literal]
    rfl
  have ran : (runCommand world (.literal bindings words)).run.run session =
      (.ok answer.1.status, { session with
        spawner := answer.2
        requests := session.requests ++ [.run invocation]
        frameEvents := .closed session.scope.depth :: .opened (session.scope.depth + 1) ::
          session.frameEvents }) := by
    rw [runCommand, if_neg (by simp [notEmpty])]
    rw [run_inFrame, inside, closeFrame_setLocals bindings rfl]
    rfl
  rw [evaluate, run_complete, ran]

end EvalM

namespace CommandLine

theorem ofArguments_of_divides {arguments : List String} {bindings : List (String × String)}
    {words : List String} (plain : ∀ argument ∈ arguments, ∀ c ∈ argument.toList, Plain c)
    (divides : Divides arguments bindings words) :
    ofArguments ("exec" :: arguments) =
      if words = [] then .error .noCommand else .ok (.exec (.literal bindings words)) := by
  rw [divides.spelled, List.forall_mem_append, List.forall_mem_map] at plain
  have values : ∀ entry ∈ bindings, ∀ c ∈ entry.2.toList, Plain c := fun entry member c inside =>
    plain.1 entry member c (by simp [Assignment.spell, inside])
  have assignments := Argument.mapM_readBinding_of_plain values
  have read := Argument.mapM_read_of_plain plain.2
  rw [ofArguments, readCommand, divide_of_divides divides]
  cases words with
  | nil => rfl
  | cons word words =>
      simp only [assignments, read]
      rfl

/-- Arguments into which nothing is to be put are passed on as they are: those that bind names, up
    to the first that does not, as variables of the command, and the others as its words. The last
    binding of a name counts. -/
theorem exec_passes_arguments {arguments : List String}
    (plain : ∀ argument ∈ arguments, ∀ c ∈ argument.toList, Plain c) :
    (∀ argument ∈ arguments, Argument.read argument = .ok (.literal argument)) ∧
    (∃ bindings words, Divides arguments bindings words) ∧
    ∀ bindings words, Divides arguments bindings words →
      (words = [] → ofArguments ("exec" :: arguments) = .error .noCommand) ∧
      (words ≠ [] →
        ofArguments ("exec" :: arguments) = .ok (.exec (.literal bindings words)) ∧
        ∀ {σ τ : Type} (world : World σ τ) (limit : Nat) (session : Session σ τ),
          ∃ env : List (String × String),
            let answer := (world.spawner.run ⟨words, env⟩).run session.spawner
            (EvalM.evaluate world limit (.command (.literal bindings words))).run.run session =
              (.ok answer.1.status, { session with
                spawner := answer.2
                lastStatus := answer.1.status
                requests := session.requests ++ [.run ⟨words, env⟩]
                frameEvents := .closed session.scope.depth ::
                  .opened (session.scope.depth + 1) :: session.frameEvents }) ∧
            (∀ name, env.lookup name =
              (bindings.reverse.lookup name).or (session.scope.environ.get? name)) ∧
            (session.scope.root.IsOrdered → env.Pairwise fun entry next => entry.1 < next.1)) := by
  refine ⟨fun argument member => Argument.read_of_plain (plain argument member), ?_, ?_⟩
  · exact exists_divides arguments
  intro bindings words divides
  have read := ofArguments_of_divides plain divides
  refine ⟨fun none => by rw [read, if_pos none], fun some => ⟨by rw [read, if_neg some], ?_⟩⟩
  intro σ τ world limit session
  refine ⟨(session.scope.push.setLocals bindings).environ.toList, ?_, ?_, ?_⟩
  · exact EvalM.run_evaluate_literal world limit bindings some session
  · exact Scope.get?_environ_setLocals_push bindings session.scope
  · intro ordered
    rw [Scope.setLocals_push]
    exact Scope.isOrdered_environ ordered

/-- Quotes, a backslash before a quote, before a line break and at the end, operators, a binding
    after the first word, and a name that is bound twice. -/
theorem exec_passes_arguments_quoted :
    let bindings := [("A", "\"x\\"), ("B", "y=z"), ("A", "\\\"\n ü")]
    let words := ["printf", "%s\\", "a\\\nb;\\\" &&\t'", "C=1"]
    let arguments := ["A=\"x\\", "B=y=z", "A=\\\"\n ü"] ++ words
    let world : World Nat Unit := {
      spawner := {
        run := fun invocation => modifyGet fun calls => (.exited invocation.argv.length, calls + 1)
        runPipeline := fun _ => pure .notFound
        spawnBackground := fun _ => pure (.error .emptyPipeline) }
      substituter := none
      processId := "" }
    let session : Session Nat Unit := {
      scope := .ofVariables [("A", "old"), ("HOME", "/root")], spawner := 0, substituter := () }
    (∀ argument ∈ arguments, ∀ c ∈ argument.toList, Plain c) ∧
    ofArguments ("exec" :: arguments) = .ok (.exec (.literal bindings words)) ∧
    ∃ env : List (String × String),
      (let result :=
        (EvalM.evaluate world 0 (.command (.literal bindings words))).run.run session
       result.1 = .ok ⟨4⟩ ∧ result.2.requests = [.run ⟨words, env⟩]) ∧
      env.lookup "A" = some "\\\"\n ü" ∧ env.lookup "B" = some "y=z" ∧
      env.lookup "HOME" = some "/root" ∧ env.lookup "C" = none ∧
      env.Pairwise fun entry next => entry.1 < next.1 := by
  intro bindings words arguments world session
  have plain : ∀ argument ∈ arguments, ∀ c ∈ argument.toList, Plain c := by
    have all : (arguments.all fun argument => argument.toList.all fun c => Plain c) = true := by
      decide +kernel
    simpa only [List.all_eq_true, decide_eq_true_eq] using all
  have divides : Divides arguments bindings words := by
    refine ⟨by decide +kernel, by decide +kernel, ?_⟩
    intro word head
    obtain rfl : "printf" = word := Option.some.inj head
    exact Assignment.ofText?_eq_none_iff.mp (by decide +kernel)
  obtain ⟨-, -, passed⟩ := exec_passes_arguments plain
  obtain ⟨-, passed⟩ := passed bindings words divides
  obtain ⟨read, passed⟩ := passed (List.cons_ne_nil _ _)
  obtain ⟨env, evaluated, looked, ordered⟩ := passed world 0 session
  refine ⟨plain, read, env, ⟨by rw [evaluated]; rfl, by rw [evaluated]; rfl⟩, ?_⟩
  refine ⟨?_, ?_, ?_, ?_, ordered (Scope.isOrdered_root_ofVariables _)⟩
  all_goals exact (looked _).trans (by decide +kernel)

end CommandLine

end Shell
