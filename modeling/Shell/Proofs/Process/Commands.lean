import Mathlib.Data.String.Basic
import Shell.Proofs.Process.Pipelines

/-! # One command by itself

Running a command and running it as the only stage of a pipeline are written twice, and come to the
same: the same program is looked for, the same is asked of the host, and every way in which a
command can fail is reported alike. Which program is started is said without the search, by the
parts of the search path.
-/

namespace Shell.Search

open String (utf8Len utf8Len_append utf8Len_cons utf8Len_nil)

/-! ## The parts of a search path -/

/-- From any place on, what is not yet divided is divided at its colons. -/
theorem splitOnAux_colon {text : String} {before part rest : List Char}
    (divided : text = String.ofList (before ++ part ++ rest)) (parts : List String) :
    text.splitOnAux ":" ⟨utf8Len before⟩ ⟨utf8Len before + utf8Len part⟩ 0 parts =
      parts.reverse ++ ((rest.splitOn ':').modifyHead (part ++ ·)).map String.ofList := by
  induction rest generalizing before part parts with
  | nil =>
      have ends := String.atEnd_of_valid (before ++ part) []
      have extract := String.extract_of_valid before part []
      rw [utf8Len_append, ← divided] at ends
      rw [← divided] at extract
      rw [String.splitOnAux, if_pos (ends.mpr rfl), extract]
      simp
  | cons c rest ih =>
      have ends := String.atEnd_of_valid (before ++ part) (c :: rest)
      have get := String.get_of_valid (before ++ part) (c :: rest)
      have next := String.next_of_valid (before ++ part) c rest
      have extract := String.extract_of_valid before part (c :: rest)
      rw [utf8Len_append, ← divided] at ends get next
      rw [← divided] at extract
      have first : String.Pos.Raw.get ":" 0 = ':' := by decide +kernel
      have single : String.Pos.Raw.atEnd ":" (String.Pos.Raw.next ":" 0) = true := by decide +kernel
      rw [String.splitOnAux, if_neg (mt ends.mp (List.cons_ne_nil _ _))]
      simp only [get, next, first, single, if_true, List.headD_cons, beq_iff_eq,
        List.splitOn_cons_eq_if_modifyHead]
      -- A colon is never matched in part, so what is next is a new part or more of this one.
      split
      next colon =>
        subst colon
        have anew := @ih (before ++ part ++ [':']) [] (by simpa using divided)
          (String.ofList part :: parts)
        have back : String.Pos.Raw.unoffsetBy ⟨utf8Len before + utf8Len part + Char.utf8Size ':'⟩
            (String.Pos.Raw.next ":" 0) = ⟨utf8Len before + utf8Len part⟩ := rfl
        simp only [utf8Len_append, utf8Len_cons, utf8Len_nil, Nat.add_zero, Nat.zero_add] at anew
        rw [back, extract, anew]
        cases rest.splitOn ':' <;> simp
      next other =>
        have further := @ih before (part ++ [c]) (by simpa using divided) parts
        have stays : String.Pos.Raw.unoffsetBy ⟨utf8Len before + utf8Len part⟩ 0 =
            ⟨utf8Len before + utf8Len part⟩ := rfl
        simp only [utf8Len_append, utf8Len_cons, utf8Len_nil, Nat.zero_add] at further
        rw [stays, next, Nat.add_assoc, further]
        cases rest.splitOn ':' <;> simp

theorem splitOn_colon (text : String) :
    text.splitOn ":" = (text.toList.splitOn ':').map String.ofList := by
  have whole : text = String.ofList ([] ++ [] ++ text.toList) := by simp
  have all := splitOnAux_colon whole []
  rw [String.splitOn, if_neg (by decide)]
  refine all.trans ?_
  cases text.toList.splitOn ':' <;> simp

/-- A search path consists of parts, with a colon between every two. -/
structure IsDivided (searchPath : String) (parts : List String) : Prop where
  nonempty : parts ≠ []
  plain : ∀ part ∈ parts, ':' ∉ part.toList
  joined : searchPath = ":".intercalate parts

theorem colon_notMem_of_mem_splitOn {text part : List Char} (member : part ∈ text.splitOn ':') :
    ':' ∉ part := by
  induction text generalizing part with
  | nil =>
      obtain rfl : part = [] := by simpa using member
      exact List.not_mem_nil
  | cons c rest ih =>
      obtain ⟨first, more, divided⟩ := List.exists_cons_of_ne_nil (List.splitOn_ne_nil ':' rest)
      rw [List.splitOn_cons_eq_if_modifyHead, divided] at member
      rw [divided] at ih
      split at member
      next =>
        rcases List.mem_cons.mp member with rfl | later
        · exact List.not_mem_nil
        · exact ih later
      next other =>
        rcases List.mem_cons.mp member with rfl | later
        · have different : ':' ≠ c := fun same => other (beq_iff_eq.mpr same.symm)
          exact List.not_mem_cons_of_ne_of_not_mem different (ih List.mem_cons_self)
        · exact ih (List.mem_cons_of_mem _ later)

theorem exists_isDivided (searchPath : String) : ∃ parts, IsDivided searchPath parts := by
  refine ⟨(searchPath.toList.splitOn ':').map String.ofList, by simp, ?_, ?_⟩
  · simpa [List.forall_mem_map] using fun part => colon_notMem_of_mem_splitOn
  · have parts : ((searchPath.toList.splitOn ':').map String.ofList).map String.toList =
        searchPath.toList.splitOn ':' := by simp [Function.comp_def]
    apply String.toList_injective
    rw [String.toList_intercalate, parts]
    exact (List.intercalate_splitOn ':').symm

theorem IsDivided.directories_eq {searchPath : String} {parts : List String}
    (divided : IsDivided searchPath parts) :
    directories searchPath = parts.filter fun part => !part.isEmpty := by
  have apart : ∀ part ∈ parts.map String.toList, ':' ∉ part := by
    simpa only [List.forall_mem_map] using divided.plain
  have joined : searchPath.toList = [':'].intercalate (parts.map String.toList) := by
    rw [divided.joined, String.toList_intercalate]
    rfl
  rw [directories, splitOn_colon, joined,
    List.splitOn_intercalate ':' apart (by simpa using divided.nonempty)]
  simp [Function.comp_def]

/-! ## Which program is found -/

section Program

variable {σ : Type} {host : Host σ} {state : σ} {name searchPath : String}

/-- A regular file stands at a path and can be executed. -/
def IsProgram (host : Host σ) (state : σ) (path : String) : Prop :=
  host.isFile state path = true ∧ host.isExecutable state path = true

/-- Where a name may stand: in every directory of a search path, with these parts. -/
def places (name : String) (parts : List String) : List String :=
  (parts.filter fun part => !part.isEmpty).map fun directory => join directory name

/-- A path is the first of some at which there is a program. -/
def IsFirst (host : Host σ) (state : σ) (path : String) (places : List String) : Prop :=
  ∃ before after, places = before ++ path :: after ∧ IsProgram host state path ∧
    ∀ earlier ∈ before, ¬IsProgram host state earlier

theorem inPath?_eq_some_iff {path : String} :
    inPath? host state name searchPath = some path ↔
      IsFirst host state path (candidates name searchPath) := by
  rw [inPath?, List.find?_eq_some_iff_append]
  simp only [IsFirst, IsProgram, ← Bool.and_eq_true, Bool.not_eq_true', Bool.not_eq_true]
  constructor
  · rintro ⟨here, before, after, divided, earlier⟩
    exact ⟨before, after, divided, here, earlier⟩
  · rintro ⟨before, after, divided, here, earlier⟩
    exact ⟨here, before, after, divided, earlier⟩

theorem inPath?_eq_none_iff :
    inPath? host state name searchPath = none ↔
      ∀ path ∈ candidates name searchPath, ¬IsProgram host state path := by
  simp only [inPath?, List.find?_eq_none, IsProgram, Bool.and_eq_true]

/-- What a name leads to, by the parts of a search path. A name with a slash is a path already. -/
inductive LeadsTo (host : Host σ) (state : σ) (name : String) (parts : List String) :
    Except Failure String → Prop where
  | itself : '/' ∈ name.toList → host.pathExists state name = true →
    host.isExecutable state name = true → LeadsTo host state name parts (.ok name)
  | itselfNotExecutable : '/' ∈ name.toList → host.pathExists state name = true →
    host.isExecutable state name = false → LeadsTo host state name parts (.error .notExecutable)
  | itselfMissing : '/' ∈ name.toList → host.pathExists state name = false →
    LeadsTo host state name parts (.error .notFound)
  /-- The first program of that name in the directories, in their order. -/
  | first {path : String} : '/' ∉ name.toList → IsFirst host state path (places name parts) →
    LeadsTo host state name parts (.ok path)
  /-- There are files of that name, but no program. -/
  | notExecutable {path : String} : '/' ∉ name.toList →
    (∀ place ∈ places name parts, ¬IsProgram host state place) →
    path ∈ places name parts → host.isFile state path = true →
    LeadsTo host state name parts (.error .notExecutable)
  | missing : '/' ∉ name.toList → (∀ place ∈ places name parts, host.isFile state place = false) →
    LeadsTo host state name parts (.error .notFound)

section Leads

variable {parts : List String}

theorem IsDivided.leadsTo_program (divided : IsDivided searchPath parts) :
    LeadsTo host state name parts (program host state name searchPath) := by
  have same : candidates name searchPath = places name parts := by
    rw [candidates, divided.directories_eq, places]
  rw [program, String.contains_char_eq]
  split
  · rename_i slash
    have slash : '/' ∈ name.toList := of_decide_eq_true slash
    cases present : host.pathExists state name with
    | false => exact .itselfMissing slash present
    | true =>
        cases executable : host.isExecutable state name with
        | false => exact .itselfNotExecutable slash present executable
        | true => exact .itself slash present executable
  · rename_i noSlash
    have noSlash : '/' ∉ name.toList := by simpa using noSlash
    cases found : inPath? host state name searchPath with
    | some path => exact .first noSlash (same ▸ inPath?_eq_some_iff.mp found)
    | none =>
        have no := inPath?_eq_none_iff.mp found
        rw [same] at no ⊢
        dsimp only
        split
        · rename_i file
          obtain ⟨path, place, file⟩ := List.any_eq_true.mp file
          exact .notExecutable noSlash no place file
        · rename_i file
          exact .missing noSlash (by simpa using file)

theorem IsFirst.eq {path path' : String} {places : List String}
    (first : IsFirst host state path places) (first' : IsFirst host state path' places) :
    path = path' := by
  obtain ⟨before, after, rfl, here, earlier⟩ := first
  obtain ⟨before', after', same, here', earlier'⟩ := first'
  obtain ⟨between, rfl, rest⟩ | ⟨between, rfl, rest⟩ := List.append_eq_append_iff.mp same
  · cases between with
    | nil => exact (List.cons.inj rest).1
    | cons head between =>
        obtain ⟨rfl, rfl⟩ := List.cons.inj rest
        exact absurd here (earlier' path (by simp))
  · cases between with
    | nil => exact (List.cons.inj rest).1.symm
    | cons head between =>
        obtain ⟨rfl, rfl⟩ := List.cons.inj rest
        exact absurd here' (earlier path' (by simp))

theorem IsFirst.exists_isProgram {path : String} {places : List String}
    (first : IsFirst host state path places) : ∃ place ∈ places, IsProgram host state place := by
  obtain ⟨before, after, rfl, here, -⟩ := first
  exact ⟨path, by simp, here⟩

theorem LeadsTo.eq {result result' : Except Failure String}
    (leads : LeadsTo host state name parts result)
    (leads' : LeadsTo host state name parts result') : result = result' := by
  -- Without a slash, a first program excludes the two other cases, and a file excludes the last.
  cases leads with
  | itself slash present executable => cases leads' <;> simp_all
  | itselfNotExecutable slash present executable => cases leads' <;> simp_all
  | itselfMissing slash missing => cases leads' <;> simp_all
  | first noSlash first =>
      obtain ⟨place, among, here⟩ := first.exists_isProgram
      cases leads' with
      | first _ first' => rw [first.eq first']
      | notExecutable _ none => exact absurd here (none place among)
      | missing _ none => exact absurd here.1 (by simp [none place among])
      | _ => contradiction
  | notExecutable noSlash none among file =>
      cases leads' with
      | first _ first =>
          obtain ⟨place, among, here⟩ := first.exists_isProgram
          exact absurd here (none place among)
      | notExecutable => rfl
      | missing _ none => simp [none _ among] at file
      | _ => contradiction
  | missing noSlash none =>
      cases leads' with
      | first _ first =>
          obtain ⟨place, among, here⟩ := first.exists_isProgram
          exact absurd here.1 (by simp [none place among])
      | notExecutable _ _ among file => simp [none _ among] at file
      | missing => rfl
      | _ => contradiction

theorem IsDivided.program_eq_iff (divided : IsDivided searchPath parts)
    {result : Except Failure String} :
    program host state name searchPath = result ↔ LeadsTo host state name parts result :=
  ⟨fun found => found ▸ divided.leadsTo_program, fun leads => divided.leadsTo_program.eq leads⟩

end Leads

end Program

end Shell.Search

namespace Shell

/-- Whoever waits for a child learns how it ended: with a code or by a signal. -/
def Host.TellsEnds {σ : Type} (host : Host σ) : Prop :=
  ∀ child state, (∃ code, ((host.wait child).run state).1 = .exited code) ∨
    ∃ signal, ((host.wait child).run state).1 = .signaled signal

namespace Launcher

variable {σ : Type} {host : Host σ} {launcher : Launcher σ} {invocation : Invocation}

/-! ## The two ways of running a command -/

def programOf (host : Host σ) (launcher : Launcher σ) (invocation : Invocation) :
    Except Search.Failure String :=
  resolve host launcher.settings launcher.host invocation (stageName invocation)

/-- Starting a command by itself, when its program is at a path. -/
def startAt (host : Host σ) (launcher : Launcher σ) (invocation : Invocation) (path : String) :
    Except StartError Child × σ :=
  (host.start (launch launcher.settings invocation path)).run launcher.host

/-- What becomes of a command: its program is found or not, starts or not, and is waited for. -/
theorem run_run_eq (nonempty : invocation.argv ≠ []) :
    (run host invocation).run launcher =
      match programOf host launcher invocation with
      | .error .notFound => (.notFound, launcher)
      | .error .notExecutable => (.notExecutable, launcher)
      | .ok path =>
        match startAt host launcher invocation path with
        | (.error cause, state) => (cause.outcome, { launcher with host := state })
        | (.ok child, state) =>
          (((host.wait child).run state).1,
            { launcher with host := ((host.wait child).run state).2 }) := by
  obtain ⟨name, arguments, words⟩ := List.exists_cons_of_ne_nil nonempty
  have named : invocation.program? = some name := by rw [Invocation.program?, words]; rfl
  have same : resolve host launcher.settings launcher.host invocation name =
      programOf host launcher invocation := by rw [programOf, stageName, named]; rfl
  simp only [run, named, StateT.run_bind, StateT.run_get, pure_bind, same]
  cases programOf host launcher invocation with
  | error failure => cases failure <;> rfl
  | ok path =>
      have started : (host.start (launch launcher.settings invocation path)).run launcher.host =
        startAt host launcher invocation path := rfl
      simp only [StateT.run_bind, run_onHost, started]
      cases startAt host launcher invocation path with
      | mk answer state => cases answer <;> rfl

theorem Fails.run_runPipeline {calls : List HostCall} {error : SpawnError} {outcome : Outcome}
    {last : σ}
    (fails : Fails host launcher.settings none launcher.host true invocation calls error outcome
      last) :
    (runPipeline host [invocation]).run launcher = (outcome, { launcher with host := last }) := by
  have nothing : Starts host launcher.settings [invocation] none launcher.host [] [] []
      launcher.host := .nil
  have failed := nothing.run_startAll_of_fails fails
  rw [← fails.outcome_eq]
  exact run_runPipeline_error failed

theorem run_runPipeline_single (nonempty : invocation.argv ≠ []) :
    (runPipeline host [invocation]).run launcher = (run host invocation).run launcher := by
  rw [run_run_eq nonempty]
  cases found : programOf host launcher invocation with
  | error failure =>
      cases failure with
      | notFound => exact (Fails.notFound found).run_runPipeline
      | notExecutable => exact (Fails.notExecutable found).run_runPipeline
  | ok path =>
      dsimp only
      cases started : startAt host launcher invocation path with
      | mk answer state =>
          cases answer with
          | error cause =>
              have fails : Fails host launcher.settings none launcher.host true invocation _ _
                  cause.outcome state := .start found started
              exact fails.run_runPipeline
          | ok child =>
              have starts : Starts host launcher.settings [] none launcher.host [invocation] _
                  [child] state := .cons found started .nil
              exact run_runPipeline_ok (starts.run_startAll (List.cons_ne_nil _ _))

/-- What is asked of the host when a command is run. -/
def callsOf (host : Host σ) (launcher : Launcher σ) (invocation : Invocation) : List HostCall :=
  ((run host.noting invocation).run (launcher.noting [])).2.host.2

theorem start_mem_callsOf (nonempty : invocation.argv ≠ []) {launched : Launch} :
    HostCall.start launched ∈ callsOf host launcher invocation ↔
      ∃ path, programOf host launcher invocation = .ok path ∧
        launched = launch launcher.settings invocation path := by
  have found : programOf host.noting (launcher.noting []) invocation =
      programOf host launcher invocation := rfl
  have started (path : String) : startAt host.noting (launcher.noting []) invocation path =
      ((startAt host launcher invocation path).1, (startAt host launcher invocation path).2,
        [.start (launch launcher.settings invocation path)]) := rfl
  have ended (child : Child) (state : σ × List HostCall) :
      ((host.noting.wait child).run state).2.2 = state.2 ++ [.wait child] := rfl
  rw [callsOf, run_run_eq nonempty, found]
  cases programOf host launcher invocation with
  | error failure => cases failure <;> simp [Launcher.noting]
  | ok path =>
      simp only [started]
      cases (startAt host launcher invocation path).1 <;> simp [ended]

/-! ## How a command ends -/

/-- How a command ends, and the code of its status, by what becomes of its program. -/
inductive EndsWith (host : Host σ) (launcher : Launcher σ) (invocation : Invocation) :
    Outcome → Int → Prop where
  /-- There is no such program. -/
  | notFound :
    programOf host launcher invocation = .error .notFound →
    EndsWith host launcher invocation .notFound 127
  /-- There is only something that is no program. -/
  | notExecutable :
    programOf host launcher invocation = .error .notExecutable →
    EndsWith host launcher invocation .notExecutable 126
  /-- Something that the program needs is not there when it is to start. -/
  | missing {path : String} {state : σ} :
    programOf host launcher invocation = .ok path →
    startAt host launcher invocation path = (.error .missing, state) →
    EndsWith host launcher invocation .notFound 127
  | denied {path : String} {state : σ} :
    programOf host launcher invocation = .ok path →
    startAt host launcher invocation path = (.error .denied, state) →
    EndsWith host launcher invocation .notExecutable 126
  | failed {path reason : String} {state : σ} :
    programOf host launcher invocation = .ok path →
    startAt host launcher invocation path = (.error (.other reason), state) →
    EndsWith host launcher invocation (.failed reason) 1
  | exited {path : String} {child : Child} {state : σ} {code : Int} :
    programOf host launcher invocation = .ok path →
    startAt host launcher invocation path = (.ok child, state) →
    ((host.wait child).run state).1 = .exited code →
    EndsWith host launcher invocation (.exited code) code
  | signaled {path : String} {child : Child} {state : σ} {signal : Int} :
    programOf host launcher invocation = .ok path →
    startAt host launcher invocation path = (.ok child, state) →
    ((host.wait child).run state).1 = .signaled signal →
    EndsWith host launcher invocation (.signaled signal) (128 + signal)

theorem EndsWith.run_run_fst {outcome : Outcome} {code : Int}
    (ends : EndsWith host launcher invocation outcome code) (nonempty : invocation.argv ≠ []) :
    ((run host invocation).run launcher).1 = outcome ∧ outcome.status.code = code := by
  rw [run_run_eq nonempty]
  cases ends with
  | notFound found | notExecutable found => rw [found]; exact ⟨rfl, rfl⟩
  | missing found started | denied found started | failed found started =>
      simp only [found, started]
      exact ⟨rfl, rfl⟩
  | exited found started ended | signaled found started ended =>
      simp only [found, started]
      exact ⟨ended, rfl⟩

theorem exists_endsWith (tells : host.TellsEnds) (launcher : Launcher σ) (invocation : Invocation) :
    ∃ outcome code, EndsWith host launcher invocation outcome code := by
  cases found : programOf host launcher invocation with
  | error failure =>
      cases failure with
      | notFound => exact ⟨_, _, .notFound found⟩
      | notExecutable => exact ⟨_, _, .notExecutable found⟩
  | ok path =>
      cases started : startAt host launcher invocation path with
      | mk answer state =>
          cases answer with
          | error cause =>
              cases cause with
              | missing => exact ⟨_, _, .missing found started⟩
              | denied => exact ⟨_, _, .denied found started⟩
              | other reason => exact ⟨_, _, .failed found started⟩
          | ok child =>
              obtain ⟨code, ended⟩ | ⟨signal, ended⟩ := tells child state
              · exact ⟨_, _, .exited found started ended⟩
              · exact ⟨_, _, .signaled found started ended⟩

/-- A command runs alone as it runs as the only stage of a pipeline. How it ends, and with which
    status, is decided by what its name leads to, by how the program there starts and by how its
    child ends. Nothing is started but that program. The name leads to itself if it has a slash, or
    else to the first program of that name in the parts of the search path that are not empty. -/
theorem run_alone_as_pipeline (host : Host σ) (tells : host.TellsEnds) (launcher : Launcher σ)
    (invocation : Invocation) (nonempty : invocation.argv ≠ []) :
    let found := programOf host launcher invocation
    let path := (invocation.env.lookup "PATH").getD launcher.settings.defaultPath
    let ran := (run host invocation).run launcher
    (runPipeline host [invocation]).run launcher = ran ∧
    (∀ outcome code, ran.1 = outcome ∧ ran.1.status.code = code ↔
      EndsWith host launcher invocation outcome code) ∧
    (∀ launched, .start launched ∈ callsOf host launcher invocation ↔
      ∃ path, found = .ok path ∧ launched = launch launcher.settings invocation path) ∧
    (∃ parts, Search.IsDivided path parts) ∧
    ∀ parts, Search.IsDivided path parts → ∀ result, found = result ↔
      Search.LeadsTo host launcher.host (stageName invocation) parts result := by
  intro found path ran
  refine ⟨run_runPipeline_single nonempty, fun outcome code => ?_,
    fun launched => start_mem_callsOf nonempty, Search.exists_isDivided path,
    fun parts divided result => divided.program_eq_iff⟩
  constructor
  · obtain ⟨outcome', code', ends⟩ := exists_endsWith tells launcher invocation
    obtain ⟨ended, status⟩ := ends.run_run_fst nonempty
    rintro ⟨rfl, rfl⟩
    rwa [ended, status]
  · intro ends
    obtain ⟨ended, status⟩ := ends.run_run_fst nonempty
    exact ⟨ended, ended ▸ status⟩

/-- The search path begins with an empty part. There is a file of the name in the next directory
    that is no program, and there are programs in the two after it. -/
theorem run_alone_as_pipeline_shadowed :
    let host : Host Nat := {
      pathExists := fun _ path => path = "/a/list" || path = "/b/list" || path = "/c/list"
      isFile := fun _ path => path = "/a/list" || path = "/b/list" || path = "/c/list"
      isExecutable := fun _ path => path = "/b/list" || path = "/c/list"
      start := fun _ => modifyGet fun next => (.ok next, next + 1)
      wait := fun child => pure (.exited child)
      poll := fun _ => pure none
      kill := fun _ => pure () }
    let launcher : Launcher Nat := { host := 8 }
    let invocation : Invocation := ⟨["list", "-a"], [("PATH", ":/a:/b:/c")]⟩
    host.TellsEnds ∧ invocation.argv ≠ [] ∧
    (runPipeline host [invocation]).run launcher = (run host invocation).run launcher ∧
    ((run host invocation).run launcher).1 = .exited 8 ∧
    programOf host launcher invocation = .ok "/b/list" ∧
    .start ⟨"/b/list", ["-a"], [("PATH", ":/a:/b:/c")], false, none, false⟩ ∈
      callsOf host launcher invocation := by
  intro host launcher invocation
  have tells : host.TellsEnds := fun child state => .inl ⟨child, rfl⟩
  have nonempty : invocation.argv ≠ [] := List.cons_ne_nil _ _
  obtain ⟨same, ends, starts, -, finds⟩ :=
    run_alone_as_pipeline host tells launcher invocation nonempty
  have places : Search.places "list" ["", "/a", "/b", "/c"] =
      ["/a/list", "/b/list", "/c/list"] := by decide +kernel
  have leads : Search.LeadsTo host 8 "list" ["", "/a", "/b", "/c"] (.ok "/b/list") := by
    refine .first (by decide) ⟨["/a/list"], ["/c/list"], places, ⟨rfl, rfl⟩, ?_⟩
    simp [Search.IsProgram, host]
  have divided : Search.IsDivided ":/a:/b:/c" ["", "/a", "/b", "/c"] :=
    ⟨List.cons_ne_nil _ _, by decide, by decide +kernel⟩
  have found := (finds _ divided _).mpr leads
  exact ⟨tells, nonempty, same, ((ends _ _).mpr (.exited found rfl rfl)).1, found,
    (starts _).mpr ⟨_, found, rfl⟩⟩

end Launcher

end Shell
