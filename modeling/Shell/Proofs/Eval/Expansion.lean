import Mathlib.Control.Monad.Basic
import Shell.Proofs.Eval.Runs
import Shell.Proofs.Token.Markers

/-! # Expanding scanned words

A word whose markers and substitutions agree in number is expanded by resolving the
substitutions in order and putting each value in at its marker. One marker too many ends the
expansion, once all substitutions have been resolved. For a scanned word this happens exactly
where a marker is escaped outside quotes. Two words that agree and are written as one are expanded
one after the other.
-/

namespace Shell

/-- Pieces of text with a value after each, as long as there are values. -/
def Word.weave : List (List Char) → List (List Char) → List Char
  | [], _ => []
  | piece :: pieces, [] => piece ++ weave pieces []
  | piece :: pieces, value :: values => piece ++ value ++ weave pieces values

theorem Word.weave_cons (c : Char) {pieces : List (List Char)} (some : pieces ≠ [])
    (values : List (List Char)) :
    weave (pieces.modifyHead (List.cons c)) values = c :: weave pieces values := by
  cases pieces with
  | nil => exact absurd rfl some
  | cons piece pieces => cases values <;> rfl

def Word.append (first second : Word) : Word :=
  ⟨first.raw ++ second.raw, first.subs ++ second.subs⟩

instance : Append Word := ⟨Word.append⟩

theorem Word.isBalanced_iff {word : Word} :
    word.isBalanced = true ↔ word.raw.toList.count marker = word.subs.length := by
  simp [isBalanced, markers]

theorem Word.isBalanced_append {first second : Word} (balanced : first.isBalanced = true)
    (balanced' : second.isBalanced = true) : (first ++ second).isBalanced = true := by
  rw [isBalanced_iff] at *
  change (first.raw ++ second.raw).toList.count marker = (first.subs ++ second.subs).length
  rw [String.toList_append, List.count_append, List.length_append, balanced, balanced']

namespace EvalM

variable {σ τ : Type}

theorem expandFrom_eq (world : World σ τ) (word : Word) (text : List Char)
    (subs : List Substitution) (enough : subs.length ≤ text.count marker) :
    expandFrom world word text subs = (do
      let values ← subs.mapM (resolve world)
      if text.count marker = subs.length then return Word.weave (text.splitOn marker) values
      else throw (.shortWord word)) := by
  induction text generalizing subs with
  | nil =>
      obtain rfl := List.length_eq_zero_iff.mp (Nat.le_zero.mp enough)
      rfl
  | cons c rest ih =>
      by_cases same : c = marker
      · subst same
        cases subs with
        | nil => simp [expandFrom]
        | cons sub subs =>
            have fewer : subs.length ≤ rest.count marker := by simpa using enough
            simp only [expandFrom, if_true, ih subs fewer, List.mapM_cons, bind_assoc, pure_bind]
            refine bind_congr fun value => bind_congr fun values => ?_
            have split : (marker :: rest).splitOn marker = [] :: rest.splitOn marker := by
              simp [List.splitOn_cons_eq_if_modifyHead]
            by_cases all : rest.count marker = subs.length
            · simp [all, split, Word.weave]
            · simp [all]
      · have here : rest.count marker = (c :: rest).count marker := by simp [same]
        simp only [expandFrom, if_neg same]
        rw [ih subs (here ▸ enough), here, bind_assoc]
        refine bind_congr fun values => ?_
        have split :
            (c :: rest).splitOn marker = (rest.splitOn marker).modifyHead (List.cons c) := by
          simp [List.splitOn_cons_eq_if_modifyHead, same]
        rw [split, Word.weave_cons c (List.splitOn_ne_nil marker rest)]
        split <;> simp

/-! ## The faults of substitutions -/

/-- An action ends early only at certain faults, whatever the session. -/
def Raises {α : Type} (P : Fault → Prop) (action : EvalM σ τ α) : Prop :=
  ∀ session fault, (action.run.run session).1 = .error fault → P fault

section Raises

variable {α β : Type} {P : Fault → Prop}

theorem raises_pure (value : α) : Raises P (pure value : EvalM σ τ α) :=
  fun _ _ same => by cases same

theorem raises_get : Raises P (get : EvalM σ τ (Session σ τ)) :=
  fun _ _ same => by cases same

theorem raises_set (session : Session σ τ) : Raises P (set session : EvalM σ τ PUnit) :=
  fun _ _ same => by cases same

theorem raises_modifyScope (f : Scope → Scope) : Raises P (modifyScope f : EvalM σ τ Unit) :=
  fun _ _ same => by cases same

theorem raises_throw {fault : Fault} (allowed : P fault) :
    Raises P (throw fault : EvalM σ τ α) := by
  intro _ _ same
  cases same
  exact allowed

theorem Raises.bind {action : EvalM σ τ α} {further : α → EvalM σ τ β} (first : Raises P action)
    (next : ∀ value, Raises P (further value)) : Raises P (action >>= further) := by
  intro session fault
  have here := first session
  rw [run_bind]
  generalize action.run.run session = result at here ⊢
  obtain ⟨outcome, session'⟩ := result
  cases outcome with
  | error error => exact fun same => here fault (by cases same; rfl)
  | ok value => exact next value session' fault

theorem Raises.mapM {action : α → EvalM σ τ β} (each : ∀ item, Raises P (action item))
    (items : List α) : Raises P (items.mapM action) := by
  induction items with
  | nil => exact raises_pure []
  | cons item items ih =>
      rw [List.mapM_cons]
      exact .bind (each item) fun _ => .bind ih fun _ => raises_pure _

end Raises

structure Covers (world : World σ τ) (P : Fault → Prop) : Prop where
  arithmetic (cause : Arith.Error) : P (.error (.arithmetic cause))
  noSubstituter (script : String) : P (.error (.noSubstituter script))
  script {substituter : Substituter τ} (installed : world.substituter = some substituter)
    {script : String} {scope : Scope} {memory : τ} {error : EvalError}
    (failed : (substituter script scope memory).1 = .error error) : P (.error error)

section Covers

variable {world : World σ τ} {P : Fault → Prop} (covers : Covers world P)
include covers

theorem raises_arithmetic (expr : String) : Raises P (arithmetic expr : EvalM σ τ Int64) := by
  refine .bind raises_get fun session => ?_
  refine .bind (raises_modifyScope _) fun _ => ?_
  split
  · exact raises_pure _
  · exact raises_throw (covers.arithmetic _)

theorem raises_substitute (script : String) : Raises P (substitute world script) := by
  unfold substitute
  split
  · exact raises_throw (covers.noSubstituter script)
  · rename_i substituter installed
    refine .bind raises_get fun session => ?_
    cases ran : substituter script session.scope session.substituter with
    | mk answer rest =>
        refine .bind (raises_set _) fun _ => ?_
        cases answer with
        | ok output => exact raises_pure output
        | error error => exact raises_throw (covers.script installed (congrArg Prod.fst ran))

theorem raises_resolve (sub : Substitution) : Raises P (resolve world sub) := by
  cases sub with
  | parameter name => exact .bind raises_get fun _ => raises_pure _
  | arithmetic expr => exact .bind (raises_arithmetic covers expr) fun _ => raises_pure _
  | command script => exact .bind (raises_substitute covers script) fun _ => raises_pure _

end Covers

/-- An evaluation does not end at a marker without a substitution, whatever the session. -/
def Supplied {α : Type} (action : EvalM σ τ α) : Prop :=
  ∀ session word, (action.run.run session).1 ≠ .error (.shortWord word)

/-- Substitutions never find a marker too many. -/
theorem covers_supplied (world : World σ τ) :
    Covers world fun fault => ∀ word, fault ≠ .shortWord word where
  arithmetic _ _ same := by cases same
  noSubstituter _ _ same := by cases same
  script _ := nofun

/-! ## Whole words -/

/-- The text of a word with the value of each substitution at its marker. -/
def substituted (world : World σ τ) (word : Word) : EvalM σ τ String := do
  let values ← word.subs.mapM (resolve world)
  return String.ofList (Word.weave (word.raw.toList.splitOn marker) values)

theorem supplied_substituted (world : World σ τ) (word : Word) :
    Supplied (substituted world word) := by
  have raises : Raises (fun fault => ∀ word, fault ≠ .shortWord word) (substituted world word) :=
    .bind (.mapM (raises_resolve (covers_supplied world)) word.subs) fun _ => raises_pure _
  exact fun session other same => raises session _ same other rfl

theorem expand_of_balanced (world : World σ τ) {word : Word} (balanced : word.Exceeds 0) :
    expand world word = substituted world word := by
  obtain ⟨raw, subs⟩ := word
  have count : raw.toList.count marker = subs.length := balanced
  cases subs with
  | nil =>
      have plain : marker ∉ raw.toList := List.count_eq_zero.mp count
      simp [expand, Word.isLiteral, substituted, List.splitOn_eq_singleton plain, Word.weave]
  | cons sub subs =>
      simp only [expand, Word.isLiteral, List.isEmpty_cons, Bool.false_eq_true, if_false,
        substituted]
      rw [expandFrom_eq world _ _ _ (Nat.le_of_eq count.symm)]
      simp only [count, if_true, bind_assoc, pure_bind]

theorem expand_of_exceeds (world : World σ τ) {word : Word} {extra : Nat}
    (exceeds : word.Exceeds (extra + 1)) (nonliteral : word.subs ≠ []) :
    expand world word = (do
      let _ ← word.subs.mapM (resolve world)
      throw (.shortWord word)) := by
  obtain ⟨raw, subs⟩ := word
  have count : raw.toList.count marker = subs.length + (extra + 1) := exceeds
  have literal : Word.isLiteral ⟨raw, subs⟩ = false := by simpa [Word.isLiteral] using nonliteral
  have more : raw.toList.count marker ≠ subs.length := by omega
  rw [expand, if_neg (by simp [literal]), expandFrom_eq world _ _ _ (by simp only [count]; omega)]
  simp [more]

/-- A scanned word has one marker more than substitutions for each marker that is escaped in it
    outside quotes. If none is, it expands to its text with the value of each substitution at its
    marker, and never runs out of substitutions. Otherwise it does, as soon as all of them have been
    resolved, unless there are none at all: then its text stays as it is. In a text in which no
    backslash stands right before a marker none is escaped. -/
theorem expand_scanned (world : World σ τ) {text : String} {item : Item}
    (found : .ok item ∈ scan text) :
    item.toWord.Exceeds ((Scan.escapedMarkers {} .between text.toList).count item.start) ∧
      (item.start ∉ Scan.escapedMarkers {} .between text.toList →
        expand world item.toWord = substituted world item.toWord ∧
          Supplied (expand world item.toWord)) ∧
      (item.start ∈ Scan.escapedMarkers {} .between text.toList → item.subs ≠ [] →
        expand world item.toWord = (do
          let _ ← item.subs.mapM (resolve world)
          throw (.shortWord item.toWord))) ∧
      (item.subs = [] → expand world item.toWord = pure item.value) ∧
      (¬['\\', marker] <:+: text.toList →
        item.start ∉ Scan.escapedMarkers {} .between text.toList ∧
          item.toWord.isBalanced = true) := by
  have exceeds := Scan.exceeds_scan found
  refine ⟨exceeds, fun unescaped => ?_, fun escaped nonliteral => ?_, fun literal => ?_,
    fun plain => ⟨?_, Scan.isBalanced_scan plain found⟩⟩
  · rw [List.count_eq_zero.mpr unescaped] at exceeds
    have expands := expand_of_balanced world exceeds
    exact ⟨expands, expands ▸ supplied_substituted world item.toWord⟩
  · obtain ⟨extra, more⟩ :=
      Nat.exists_eq_succ_of_ne_zero (Nat.pos_iff_ne_zero.mp (List.count_pos_iff.mpr escaped))
    rw [more] at exceeds
    exact expand_of_exceeds world exceeds nonliteral
  · simp [expand, Word.isLiteral, Item.toWord, literal]
  · rw [Scan.escapedMarkers_eq_nil (fun escapes => by cases escapes) plain]
    exact List.not_mem_nil

/-- Markers that stand in a text by themselves, quoted or not, are dropped. -/
theorem expand_scanned_raw_markers :
    .ok ⟨.word, {}, "a\x01\x01", true, [.parameter "x", .parameter "y"]⟩ ∈
        scan "a\x01$x\"\x01$y\"" ∧
      ∀ world : World Unit Unit, expand world ⟨"a\x01\x01", [.parameter "x", .parameter "y"]⟩ =
        substituted world ⟨"a\x01\x01", [.parameter "x", .parameter "y"]⟩ ∧
      Word.isBalanced ⟨"a\x01\x01", [.parameter "x", .parameter "y"]⟩ = true := by
  have found : .ok ⟨.word, {}, "a\x01\x01", true, [.parameter "x", .parameter "y"]⟩ ∈
      scan "a\x01$x\"\x01$y\"" :=
    List.mem_cons_self
  refine ⟨found, fun world => ?_⟩
  obtain ⟨-, expands, -, -, plain⟩ := expand_scanned world found
  have none : '\\' ∉ "a\x01$x\"\x01$y\"".toList := by decide
  exact ⟨(expands (by decide)).1, (plain fun within => none (within.subset List.mem_cons_self)).2⟩

/-- A marker that is escaped outside quotes is taken for the place of a substitution. -/
theorem expand_escaped_marker :
    .ok ⟨.word, {}, "\x01\x01", true, [.parameter "x"]⟩ ∈ scan "\\\x01$x" ∧
      ∀ (world : World Unit Unit) (session : Session Unit Unit),
        ((expand world ⟨"\x01\x01", [.parameter "x"]⟩).run.run session).1 =
          .error (.shortWord ⟨"\x01\x01", [.parameter "x"]⟩) :=
  ⟨List.mem_cons_self, fun _ _ => rfl⟩

/-! ## Words one after the other -/

/-- The substitutions of the first part are put in before anything is done with the second. -/
theorem expandFrom_append (world : World σ τ) (word : Word) {text : List Char}
    {subs : List Substitution} (balanced : text.count marker = subs.length) (text' : List Char)
    (subs' : List Substitution) :
    expandFrom world word (text ++ text') (subs ++ subs') = (do
      let value ← expandFrom world word text subs
      let value' ← expandFrom world word text' subs'
      return value ++ value') := by
  induction text generalizing subs with
  | nil =>
      obtain rfl := List.length_eq_zero_iff.mp balanced.symm
      simp [expandFrom]
  | cons c text ih =>
      by_cases same : c = marker
      · subst same
        cases subs with
        | nil => simp at balanced
        | cons sub subs =>
            have fewer : text.count marker = subs.length := by simpa using balanced
            simp only [List.cons_append, expandFrom, if_true, ih fewer, bind_assoc, pure_bind,
              List.append_assoc]
      · have here : text.count marker = subs.length := by simpa [same] using balanced
        simp only [List.cons_append, expandFrom, if_neg same, ih here, bind_assoc, pure_bind]

/-- No fault names a balanced word, so another may stand in its place. -/
theorem expand_eq_expandFrom (world : World σ τ) {word : Word} (balanced : word.isBalanced = true)
    (other : Word) :
    expand world word = (do
      return String.ofList (← expandFrom world other word.raw.toList word.subs)) := by
  have count := Word.isBalanced_iff.mp balanced
  rw [expand_of_balanced world count, expandFrom_eq world other _ _ (Nat.le_of_eq count.symm)]
  simp only [count, if_true, bind_assoc, pure_bind, substituted]

/-- Two balanced words that are written as one are expanded one after the other, the second in the
    session that the first leaves, and their texts are joined. If the first fails, nothing is done
    for the second. Each substitution is resolved once, and what stands for it is put in as it is,
    markers and all. -/
theorem expand_append (world : World σ τ) {first second : Word}
    (balanced : first.isBalanced = true) (balanced' : second.isBalanced = true) :
    expand world (first ++ second) = (do
      let text ← expand world first
      let text' ← expand world second
      return text ++ text') ∧
    (∀ session fault session', (expand world first).run.run session = (.error fault, session') →
      (expand world (first ++ second)).run.run session = (.error fault, session')) ∧
    (∀ session text session', (expand world first).run.run session = (.ok text, session') →
      let result := (expand world second).run.run session'
      (expand world (first ++ second)).run.run session = (result.1.map (text ++ ·), result.2)) ∧
    expand world (first ++ second) = (do
      let values ← (first.subs ++ second.subs).mapM (resolve world)
      return String.ofList
        (Word.weave ((first.raw ++ second.raw).toList.splitOn marker) values)) := by
  have whole := Word.isBalanced_append balanced balanced'
  have joined : expand world (first ++ second) = (do
      let text ← expand world first
      let text' ← expand world second
      return text ++ text') := by
    have parts := expandFrom_append world first (Word.isBalanced_iff.mp balanced)
      second.raw.toList second.subs
    rw [← String.toList_append] at parts
    rw [expand_eq_expandFrom world whole first, expand_eq_expandFrom world balanced first,
      expand_eq_expandFrom world balanced' first]
    refine (congrArg (· >>= fun value => pure (String.ofList value)) parts).trans ?_
    simp only [bind_assoc, pure_bind, String.ofList_append]
  refine ⟨joined, fun session fault session' fails => ?_, fun session text session' yields => ?_,
    expand_of_balanced world (Word.isBalanced_iff.mp whole)⟩
  · rw [joined, run_bind, fails]
    rfl
  · rw [joined, run_bind, yields]
    change ((do
      let text' ← expand world second
      return text ++ text') : EvalM σ τ String).run.run session' = _
    rw [run_bind]
    generalize (expand world second).run.run session' = result
    obtain ⟨outcome, session''⟩ := result
    cases outcome with
    | error fault => rfl
    | ok text' => rfl

/-- A script changes a variable that the second word reads, and its output contains a marker, which
    is neither taken for the place of the substitution that follows nor expanded. -/
theorem expand_append_marker :
    let first : Word := ⟨"<\x01", [.command "s"]⟩
    let second : Word := ⟨"\x01|\x01>", [.parameter "x", .arithmetic "x = x + 1"]⟩
    let world : World Unit Unit := {
      spawner := {
        run := fun _ => pure .notFound
        runPipeline := fun _ => pure .notFound
        spawnBackground := fun _ => pure (.error .emptyPipeline) }
      substituter := some fun _ scope memory => (.ok "\x01$x\n", scope.set "x" "6", memory)
      processId := "" }
    let session : Session Unit Unit := {
      scope := .ofVariables [("x", "2")], spawner := (), substituter := () }
    first.isBalanced = true ∧ second.isBalanced = true ∧
      let result := (expand world (first ++ second)).run.run session
      result.1 = .ok "<\x01$x6|7>" ∧ result.2.scope.get? "x" = some "7" ∧
        result.2.requests = [.substitute "s"] := by
  intro first second world session
  have begun : ((expand world first).run.run session).1 = .ok "<\x01$x" := by decide +kernel
  have balanced : first.isBalanced = true := by decide +kernel
  have balanced' : second.isBalanced = true := by decide +kernel
  have parts := (expand_append world balanced balanced').2.2.1 session "<\x01$x"
    ((expand world first).run.run session).2 (Prod.ext begun rfl)
  refine ⟨balanced, balanced', ?_⟩
  rw [parts]
  exact ⟨by decide +kernel, by decide +kernel, by decide +kernel⟩

end EvalM

end Shell
