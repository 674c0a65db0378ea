import Shell.Process.Launcher

/-! # Pipelines that start as a whole

The stages of a pipeline are started one after the other, each fed by the one before it. When one
of them does not start, those before it are ended and waited for, and nothing else is asked of the
host. What is asked is noted by a host that answers as before and keeps a list, so every statement
is about any host and any answers that it may give.
-/

namespace Shell

/-- What is asked of a host. -/
inductive HostCall where
  | start (launch : Launch)
  | wait (child : Child)
  | poll (child : Child)
  | kill (child : Child)
deriving Repr, DecidableEq

namespace Host

variable {σ : Type}

def note {α : Type} (call : HostCall) (action : StateM σ α) : StateM (σ × List HostCall) α :=
  fun (state, calls) =>
    let (answer, state) := action.run state
    (answer, state, calls ++ [call])

/-- The same host, with a list of all that is asked of it. -/
def noting (host : Host σ) : Host (σ × List HostCall) where
  pathExists state := host.pathExists state.1
  isFile state := host.isFile state.1
  isExecutable state := host.isExecutable state.1
  start launch := note (.start launch) (host.start launch)
  wait child := note (.wait child) (host.wait child)
  poll child := note (.poll child) (host.poll child)
  kill child := note (.kill child) (host.kill child)

end Host

namespace Launcher

variable {σ : Type}

def noting (launcher : Launcher σ) (calls : List HostCall) : Launcher (σ × List HostCall) :=
  ⟨launcher.settings, launcher.jobs, launcher.host, calls⟩

/-- What a launcher answers and becomes, and all that it asks of the host meanwhile. -/
def Asks {α : Type} (action : {τ : Type} → Host τ → StateM (Launcher τ) α) (host : Host σ)
    (launcher : Launcher σ) (answer : α) (calls : List HostCall) (launcher' : Launcher σ) : Prop :=
  (action host).run launcher = (answer, launcher') ∧
  ∀ earlier, (action host.noting).run (launcher.noting earlier) =
    (answer, launcher'.noting (earlier ++ calls))

/-- With one more job, which has the next number and a stage for each child in order. -/
def withJob (launcher : Launcher σ) (command : String) (children : List Child) (host : σ) :
    Launcher σ :=
  { launcher with
    jobs := {
      last := launcher.jobs.last + 1
      jobs := launcher.jobs.jobs ++ [(launcher.jobs.last + 1,
        { command, stages := children.map fun child => { child, status := none } })] }
    host }

/-! ## Stages that start and stages that do not -/

def stageLaunch (settings : SpawnSettings) (before : Option Child) (isLast : Bool)
    (stage : Invocation) (path : String) : Launch :=
  { launch settings stage path with input := before, pipesOutput := !isLast }

def stageName (stage : Invocation) : String :=
  stage.program?.getD ""

/-- Some stages, to be followed by others, start one after the other: one call of the host for each,
    and a child that is the input of the next. -/
inductive Starts (host : Host σ) (settings : SpawnSettings) (later : List Invocation) :
    Option Child → σ → List Invocation → List HostCall → List Child → σ → Prop where
  | nil {before : Option Child} {state : σ} : Starts host settings later before state [] [] [] state
  | cons {before : Option Child} {state state' last : σ} {stage : Invocation}
    {stages : List Invocation} {path : String} {child : Child} {calls : List HostCall}
    {children : List Child} :
    resolve host settings state stage (stageName stage) = .ok path →
    (host.start (stageLaunch settings before (stages ++ later).isEmpty stage path)).run state =
      (.ok child, state') →
    Starts host settings later (some child) state' stages calls children last →
    Starts host settings later before state (stage :: stages)
      (.start (stageLaunch settings before (stages ++ later).isEmpty stage path) :: calls)
      (child :: children) last

/-- A stage does not start: what was asked of the host, how it is reported, and how it ends. -/
inductive Fails (host : Host σ) (settings : SpawnSettings) (before : Option Child) (state : σ)
    (isLast : Bool) (stage : Invocation) :
    List HostCall → SpawnError → Outcome → σ → Prop where
  | notFound : resolve host settings state stage (stageName stage) = .error .notFound →
    Fails host settings before state isLast stage [] (.notFound (stageName stage)) .notFound state
  | notExecutable : resolve host settings state stage (stageName stage) = .error .notExecutable →
    Fails host settings before state isLast stage [] (.notExecutable (stageName stage))
      .notExecutable state
  | start {path : String} {cause : StartError} {state' : σ} :
    resolve host settings state stage (stageName stage) = .ok path →
    (host.start (stageLaunch settings before isLast stage path)).run state =
      (.error cause, state') →
    Fails host settings before state isLast stage
      [.start (stageLaunch settings before isLast stage path)] (.start (stageName stage) cause)
      cause.outcome state'

section Runs

variable {host : Host σ} {settings : SpawnSettings} {before : Option Child} {state last : σ}
  {stages later : List Invocation} {calls : List HostCall} {children : List Child}

theorem run_startStage {isLast : Bool} {stage : Invocation} {path : String} {child : Child}
    {state' : σ} (found : resolve host settings state stage (stageName stage) = .ok path)
    (started : (host.start (stageLaunch settings before isLast stage path)).run state =
      (.ok child, state')) :
    (startStage host settings before isLast stage).run state = (.ok child, state') := by
  unfold stageName at found
  unfold stageLaunch at started
  simp only [startStage, StateT.run_bind, StateT.run_get, pure_bind, found, started]
  rfl

theorem Fails.run_startStage {isLast : Bool} {stage : Invocation} {error : SpawnError}
    {outcome : Outcome}
    (fails : Fails host settings before state isLast stage calls error outcome last) :
    (startStage host settings before isLast stage).run state = (.error error, last) := by
  simp only [startStage, StateT.run_bind, StateT.run_get, pure_bind]
  cases fails with
  | notFound missing =>
      unfold stageName at missing
      rw [missing]
      rfl
  | notExecutable denied =>
      unfold stageName at denied
      rw [denied]
      rfl
  | start found failed =>
      unfold stageName at found
      unfold stageLaunch at failed
      simp only [found, StateT.run_bind, failed]
      rfl

theorem starts_or_fails (host : Host σ) (settings : SpawnSettings) (before : Option Child)
    (state : σ) (isLast : Bool) (stage : Invocation) :
    (∃ path child state', resolve host settings state stage (stageName stage) = .ok path ∧
      (host.start (stageLaunch settings before isLast stage path)).run state =
        (.ok child, state')) ∨
    ∃ calls error outcome last,
      Fails host settings before state isLast stage calls error outcome last := by
  cases found : resolve host settings state stage (stageName stage) with
  | error failure =>
      cases failure with
      | notFound => exact .inr ⟨_, _, _, _, .notFound found⟩
      | notExecutable => exact .inr ⟨_, _, _, _, .notExecutable found⟩
  | ok path =>
      cases started : (host.start (stageLaunch settings before isLast stage path)).run state with
      | mk answer state' =>
          cases answer with
          | ok child => exact .inl ⟨path, child, state', rfl, started⟩
          | error cause => exact .inr ⟨_, _, _, _, .start found started⟩

theorem all_start_or_first_fails (host : Host σ) (settings : SpawnSettings)
    (before : Option Child) (state : σ) (stages : List Invocation) :
    (∃ calls children last, Starts host settings [] before state stages calls children last) ∨
    ∃ first stage rest calls children state' asked error outcome last,
      stages = first ++ stage :: rest ∧
      Starts host settings (stage :: rest) before state first calls children state' ∧
      Fails host settings (children.getLast?.or before) state' rest.isEmpty stage asked error
        outcome last := by
  induction stages generalizing before state with
  | nil => exact .inl ⟨[], [], state, .nil⟩
  | cons stage stages ih =>
      rcases starts_or_fails host settings before state stages.isEmpty stage with
        ⟨path, child, state', found, started⟩ | ⟨asked, error, outcome, last, fails⟩
      · rcases ih (some child) state' with ⟨calls, children, last, starts⟩ |
          ⟨first, failing, rest, calls, children, state'', asked, error, outcome, last, rfl, starts,
            fails⟩
        · refine .inl ⟨_, child :: children, last, .cons found ?_ starts⟩
          rwa [List.append_nil]
        · refine .inr ⟨stage :: first, failing, rest, _, child :: children, state'', asked, error,
            outcome, last, rfl, .cons found started starts, ?_⟩
          rw [List.getLast?_cons]
          cases children <;> simpa using fails
      · exact .inr ⟨[], stage, stages, [], [], state, asked, error, outcome, last, rfl, .nil, fails⟩

/-! ## What is done and what is asked -/

theorem Starts.run_startFrom {started : List Child}
    (starts : Starts host settings later before state stages calls children last)
    (fed : started.getLast? = before) :
    (startFrom host settings started (stages ++ later)).run state =
      (startFrom host settings (started ++ children) later).run last := by
  induction starts generalizing started with
  | nil => rw [List.append_nil]; rfl
  | @cons before state state' last stage stages path child calls children found launched _ ih =>
      subst fed
      have ran := run_startStage found launched
      rw [List.cons_append, startFrom, StateT.run_bind, ran]
      have further := @ih (started ++ [child]) (by simp)
      rw [List.append_assoc] at further
      exact further

theorem Fails.run_startFrom {stage : Invocation} {error : SpawnError} {outcome : Outcome}
    {started : List Child}
    (fails : Fails host settings started.getLast? state later.isEmpty stage calls error outcome
      last) :
    (startFrom host settings started (stage :: later)).run state =
      (.error error, ((abandon host started).run last).2) := by
  rw [startFrom, StateT.run_bind, fails.run_startStage]
  rfl

theorem Starts.run_startAll (nonempty : stages ≠ [])
    (starts : Starts host settings [] none state stages calls children last) :
    (startAll host settings stages).run state = (.ok children, last) := by
  have ran : (startFrom host settings [] (stages ++ [])).run state = _ := starts.run_startFrom rfl
  rw [List.append_nil] at ran
  rw [startAll, if_neg (by simpa using nonempty), ran]
  rfl

theorem Starts.run_startAll_of_fails {stage : Invocation} {asked : List HostCall}
    {error : SpawnError} {outcome : Outcome} {state' : σ}
    (starts : Starts host settings (stage :: later) none state stages calls children state')
    (fails : Fails host settings children.getLast? state' later.isEmpty stage asked error outcome
      last) :
    (startAll host settings (stages ++ stage :: later)).run state =
      (.error error, ((abandon host children).run last).2) := by
  have ran : (startFrom host settings [] (stages ++ stage :: later)).run state = _ :=
    starts.run_startFrom rfl
  rw [startAll, if_neg (by simp), ran]
  exact fails.run_startFrom

theorem Fails.outcome_eq {isLast : Bool} {stage : Invocation} {error : SpawnError}
    {outcome : Outcome}
    (fails : Fails host settings before state isLast stage calls error outcome last) :
    error.outcome = outcome := by
  cases fails <;> rfl

theorem run_note {α : Type} (call : HostCall) (action : StateM σ α) (state : σ)
    (earlier : List HostCall) : (Host.note call action).run (state, earlier) =
      ((action.run state).1, (action.run state).2, earlier ++ [call]) := rfl

theorem Starts.noting (starts : Starts host settings later before state stages calls children last)
    (earlier : List HostCall) :
    Starts host.noting settings later before (state, earlier) stages calls children
      (last, earlier ++ calls) := by
  induction starts generalizing earlier with
  | nil =>
      rw [List.append_nil]
      exact .nil
  | @cons before state state' last stage stages path child calls children found launched _ ih =>
      have further := ih (earlier ++
        [.start (stageLaunch settings before (stages ++ later).isEmpty stage path)])
      rw [List.append_assoc] at further
      refine .cons found ?_ further
      rw [Host.noting, run_note, launched]

theorem Fails.noting {isLast : Bool} {stage : Invocation} {error : SpawnError} {outcome : Outcome}
    (fails : Fails host settings before state isLast stage calls error outcome last)
    (earlier : List HostCall) :
    Fails host.noting settings before (state, earlier) isLast stage calls error outcome
      (last, earlier ++ calls) := by
  cases fails with
  | notFound missing =>
      rw [List.append_nil]
      exact .notFound missing
  | notExecutable denied =>
      rw [List.append_nil]
      exact .notExecutable denied
  | start found failed =>
      refine .start found ?_
      rw [Host.noting, run_note, failed]

def ending (children : List Child) : List HostCall :=
  children.flatMap fun child => [.kill child, .wait child]

theorem run_abandon_noting (host : Host σ) (children : List Child) (state : σ)
    (earlier : List HostCall) :
    ((abandon host.noting children).run (state, earlier)).2 =
      (((abandon host children).run state).2, earlier ++ ending children) := by
  induction children generalizing state earlier with
  | nil =>
      rw [ending, List.flatMap_nil, List.append_nil]
      rfl
  | cons child children ih =>
      have further := ih ((host.wait child).run ((host.kill child).run state).2).2
        ((earlier ++ [.kill child]) ++ [.wait child])
      refine further.trans ?_
      rw [List.append_assoc, List.append_assoc]
      rfl

theorem run_waitAll_noting (host : Host σ) (children : List Child) (outcome : Outcome) (state : σ)
    (earlier : List HostCall) :
    (waitAll host.noting children outcome).run (state, earlier) =
      (((waitAll host children outcome).run state).1, ((waitAll host children outcome).run state).2,
        earlier ++ children.map .wait) := by
  induction children generalizing outcome state earlier with
  | nil =>
      rw [List.map_nil, List.append_nil]
      rfl
  | cons child children ih =>
      have further := ih ((host.wait child).run state).1 ((host.wait child).run state).2
        (earlier ++ [.wait child])
      rw [List.append_assoc] at further
      exact further

variable {launcher : Launcher σ}

theorem run_onHost {α : Type} (action : StateM σ α) (launcher : Launcher σ) :
    (onHost action).run launcher =
      ((action.run launcher.host).1, { launcher with host := (action.run launcher.host).2 }) := rfl

theorem run_runPipeline_ok
    (started : (startAll host launcher.settings stages).run launcher.host = (.ok children, state)) :
    (runPipeline host stages).run launcher =
      (((waitAll host children (.exited 0)).run state).1,
        { launcher with host := ((waitAll host children (.exited 0)).run state).2 }) := by
  simp only [runPipeline, StateT.run_bind, StateT.run_get, pure_bind, run_onHost, started]
  rfl

theorem run_runPipeline_error {error : SpawnError}
    (failed : (startAll host launcher.settings stages).run launcher.host = (.error error, state)) :
    (runPipeline host stages).run launcher = (error.outcome, { launcher with host := state }) := by
  simp only [runPipeline, StateT.run_bind, StateT.run_get, pure_bind, run_onHost, failed]
  rfl

theorem run_spawnBackground_ok
    (started : (startAll host launcher.settings stages).run launcher.host = (.ok children, state)) :
    (spawnBackground host stages).run launcher =
      (.ok (launcher.jobs.last + 1), launcher.withJob (describe stages) children state) := by
  simp only [spawnBackground, StateT.run_bind, StateT.run_get, pure_bind, run_onHost, started]
  rfl

theorem run_spawnBackground_error {error : SpawnError}
    (failed : (startAll host launcher.settings stages).run launcher.host = (.error error, state)) :
    (spawnBackground host stages).run launcher =
      (.error error, { launcher with host := state }) := by
  simp only [spawnBackground, StateT.run_bind, StateT.run_get, pure_bind, run_onHost, failed]
  rfl

/-! ## Whole pipelines -/

/-- Where all stages start, their children are waited for or become a job. -/
theorem Starts.asks (nonempty : stages ≠ [])
    (starts : Starts host launcher.settings [] none launcher.host stages calls children last) :
    Asks (spawnBackground · stages) host launcher (.ok (launcher.jobs.last + 1)) calls
      (launcher.withJob (describe stages) children last) ∧
    Asks (runPipeline · stages) host launcher ((waitAll host children (.exited 0)).run last).1
      (calls ++ children.map .wait)
      { launcher with host := ((waitAll host children (.exited 0)).run last).2 } := by
  have noted : ∀ earlier, (startAll host.noting (launcher.noting earlier).settings stages).run
      (launcher.noting earlier).host = (.ok children, last, earlier ++ calls) :=
    fun earlier => (starts.noting earlier).run_startAll nonempty
  have started := starts.run_startAll nonempty
  refine ⟨⟨run_spawnBackground_ok started, fun earlier => run_spawnBackground_ok (noted earlier)⟩,
    run_runPipeline_ok started, fun earlier => ?_⟩
  rw [run_runPipeline_ok (noted earlier), run_waitAll_noting, List.append_assoc]
  rfl

/-- Where a stage does not start, those before it are ended and its failure is reported. -/
theorem Starts.asks_of_fails {first rest : List Invocation} {stage : Invocation}
    {asked : List HostCall} {error : SpawnError} {outcome : Outcome}
    (starts : Starts host launcher.settings (stage :: rest) none launcher.host first calls children
      state)
    (fails : Fails host launcher.settings children.getLast? state rest.isEmpty stage asked error
      outcome last) :
    ∃ final, Asks (runPipeline · (first ++ stage :: rest)) host launcher outcome
        (calls ++ asked ++ ending children) { launcher with host := final } ∧
      Asks (spawnBackground · (first ++ stage :: rest)) host launcher (.error error)
        (calls ++ asked ++ ending children) { launcher with host := final } := by
  have failed := starts.run_startAll_of_fails fails
  have noted : ∀ earlier,
      (startAll host.noting (launcher.noting earlier).settings (first ++ stage :: rest)).run
        (launcher.noting earlier).host =
      (.error error, ((abandon host children).run last).2,
        earlier ++ (calls ++ asked ++ ending children)) := by
    intro earlier
    have noted := (starts.noting earlier).run_startAll_of_fails (fails.noting (earlier ++ calls))
    refine noted.trans ?_
    rw [run_abandon_noting, List.append_assoc, List.append_assoc, List.append_assoc]
  refine ⟨((abandon host children).run last).2, ⟨?_, fun earlier => ?_⟩,
    run_spawnBackground_error failed, fun earlier => run_spawnBackground_error (noted earlier)⟩
  · rw [run_runPipeline_error failed, fails.outcome_eq]
  · rw [run_runPipeline_error (noted earlier), fails.outcome_eq]
    rfl

end Runs

/-- A pipeline starts as a whole or not at all. Without stages there is nothing to do, and nothing
    that could be a job. Otherwise all stages start, one call of the host for each, or there is a
    first that does not. If all start, their children in order are a new job under the next number,
    or they are waited for in order. If one does not, the children of those before it are each
    killed and waited for, nothing is asked about those after it, its failure is what is reported,
    and the jobs stay as they are. -/
theorem pipeline_starts_whole (host : Host σ) (launcher : Launcher σ) (stages : List Invocation) :
    (stages = [] →
      Asks (runPipeline · stages) host launcher (.exited 0) [] launcher ∧
      Asks (spawnBackground · stages) host launcher (.error .emptyPipeline) [] launcher) ∧
    ((∃ calls children last,
        Starts host launcher.settings [] none launcher.host stages calls children last) ∨
      ∃ first stage rest calls children state asked error outcome last,
        stages = first ++ stage :: rest ∧
        Starts host launcher.settings (stage :: rest) none launcher.host first calls children
          state ∧
        Fails host launcher.settings children.getLast? state rest.isEmpty stage asked error outcome
          last) ∧
    (∀ calls children last, stages ≠ [] →
      Starts host launcher.settings [] none launcher.host stages calls children last →
      Asks (spawnBackground · stages) host launcher (.ok (launcher.jobs.last + 1)) calls
        (launcher.withJob (describe stages) children last) ∧
      Asks (runPipeline · stages) host launcher ((waitAll host children (.exited 0)).run last).1
        (calls ++ children.map .wait)
        { launcher with host := ((waitAll host children (.exited 0)).run last).2 }) ∧
    ∀ first stage rest calls children state asked error outcome last,
      stages = first ++ stage :: rest →
      Starts host launcher.settings (stage :: rest) none launcher.host first calls children state →
      Fails host launcher.settings children.getLast? state rest.isEmpty stage asked error outcome
        last →
      ∃ final,
        Asks (runPipeline · stages) host launcher outcome (calls ++ asked ++ ending children)
          { launcher with host := final } ∧
        Asks (spawnBackground · stages) host launcher (.error error)
          (calls ++ asked ++ ending children) { launcher with host := final } := by
  refine ⟨?_, ?_, fun calls children last nonempty starts => starts.asks nonempty, ?_⟩
  · rintro rfl
    have nothing : ∀ {τ : Type} (host : Host τ) (launcher : Launcher τ),
        (startAll host launcher.settings []).run launcher.host =
          (.error .emptyPipeline, launcher.host) := fun _ _ => rfl
    refine ⟨⟨run_runPipeline_error (nothing host launcher), fun earlier => ?_⟩,
      run_spawnBackground_error (nothing host launcher), fun earlier => ?_⟩
    · rw [List.append_nil]
      exact run_runPipeline_error (nothing host.noting _)
    · rw [List.append_nil]
      exact run_spawnBackground_error (nothing host.noting _)
  · simpa using all_start_or_first_fails host launcher.settings none launcher.host stages
  · rintro first stage rest calls children state asked error outcome last rfl starts fails
    exact starts.asks_of_fails fails

/-- Two programs can be started here, a third is a file that the host cannot run. The stage after it
    is never tried. -/
theorem pipeline_starts_whole_broken :
    let present (path : String) : Bool := path = "/b/list" || path = "/b/count" || path = "/b/torn"
    let host : Host Nat := {
      pathExists := fun _ => present
      isFile := fun _ => present
      isExecutable := fun _ => present
      start := fun launch => modifyGet fun next =>
        if launch.path = "/b/torn" then (.error (.other "Exec format error (os error 8)"), next)
        else (.ok next, next + 1)
      wait := fun child => pure (.exited child)
      poll := fun _ => pure none
      kill := fun _ => pure () }
    let jobs : JobTable := ⟨4, [(3, ⟨"sleep 9", [⟨7, none⟩]⟩)]⟩
    let launcher : Launcher Nat := { jobs, host := 8 }
    let list : Invocation := ⟨["/b/list", "-a"], []⟩
    let count : Invocation := ⟨["/b/count"], [("UNIT", "lines")]⟩
    let torn : Invocation := ⟨["/b/torn"], []⟩
    let first : HostCall := .start ⟨"/b/list", ["-a"], [], false, none, true⟩
    let second (pipes : Bool) : HostCall :=
      .start ⟨"/b/count", [], [("UNIT", "lines")], false, some 8, pipes⟩
    let third : HostCall := .start ⟨"/b/torn", [], [], false, some 9, true⟩
    let broken : StartError := .other "Exec format error (os error 8)"
    (Starts host {} [] none 8 [list, count] [first, second false] [8, 9] 10 ∧
      Asks (spawnBackground · [list, count]) host launcher (.ok 5) [first, second false]
        { launcher with
          jobs := ⟨5, jobs.jobs ++ [(5, ⟨"/b/list -a | /b/count", [⟨8, none⟩, ⟨9, none⟩]⟩)]⟩
          host := 10 }) ∧
    Starts host {} [torn, list] none 8 [list, count] [first, second true] [8, 9] 10 ∧
    Fails host {} (some 9) 10 false torn [third] (.start "/b/torn" broken) broken.outcome 10 ∧
    ∃ final,
      Asks (runPipeline · [list, count, torn, list]) host launcher broken.outcome
        [first, second true, third, .kill 8, .wait 8, .kill 9, .wait 9]
        { launcher with host := final } ∧
      Asks (spawnBackground · [list, count, torn, list]) host launcher
        (.error (.start "/b/torn" broken))
        [first, second true, third, .kill 8, .wait 8, .kill 9, .wait 9]
        { launcher with host := final } := by
  intro present host jobs launcher list count torn first second third broken
  have listed (state : Nat) : resolve host {} state list "/b/list" = .ok "/b/list" := by
    simp [resolve, Search.program, host, present]
  have counted (state : Nat) : resolve host {} state count "/b/count" = .ok "/b/count" := by
    simp [resolve, Search.program, host, present]
  have refused (state : Nat) : resolve host {} state torn "/b/torn" = .ok "/b/torn" := by
    simp [resolve, Search.program, host, present]
  have all : Starts host {} [] none 8 [list, count] [first, second false] [8, 9] 10 :=
    .cons (listed 8) rfl (.cons (counted 9) rfl .nil)
  have both : Starts host {} [torn, list] none 8 [list, count] [first, second true] [8, 9] 10 :=
    .cons (listed 8) rfl (.cons (counted 9) rfl .nil)
  have fails : Fails host {} (some 9) 10 false torn [third] (.start "/b/torn" broken)
      broken.outcome 10 :=
    .start (refused 10) rfl
  exact ⟨⟨all, ((pipeline_starts_whole host launcher [list, count]).2.2.1 _ _ _ (by simp) all).1⟩,
    both, fails, (pipeline_starts_whole host launcher [list, count, torn, list]).2.2.2
      [list, count] torn [list] _ _ _ _ _ _ _ rfl both fails⟩

end Launcher

end Shell
