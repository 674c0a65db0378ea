import Mathlib.Data.List.Nodup
import Shell.Process.JobTable

/-! # What is seen of children

A child runs until some moment and then reports one outcome, whoever asks and however often. While
jobs are looked at time goes on, so what is seen of a job is how it stood at some moment between the
beginning and the end of the look.
-/

namespace Shell

/-- How each child has ended, if it has. -/
abbrev Endings := Child → Option Outcome

namespace Endings

/-- What has ended by the first moment has ended in the same way by the second. -/
def Later (first second : Endings) : Prop :=
  ∀ child outcome, first child = some outcome → second child = some outcome

theorem Later.refl (endings : Endings) : endings.Later endings :=
  fun _ _ => id

theorem Later.trans {first second third : Endings} (before : first.Later second)
    (after : second.Later third) : first.Later third :=
  fun child outcome ended => after child outcome (before child outcome ended)

/-- A moment that is neither before the first nor after the last. -/
def Between (first moment last : Endings) : Prop :=
  first.Later moment ∧ moment.Later last

theorem Between.later {first moment last : Endings} (between : first.Between moment last) :
    first.Later last :=
  between.1.trans between.2

/-- The status of stages after one that has ended with a status. -/
def verdictAfter (last : Status) (endings : Endings) (children : List Child) : JobStatus :=
  match children.mapM endings with
  | none => .running
  | some outcomes => .done ((outcomes.map Outcome.status).getLastD last)

/-- The status of a job. It has ended when all its children have, and its status is that of the
    last. Without children it has succeeded. -/
def verdict (endings : Endings) (children : List Child) : JobStatus :=
  endings.verdictAfter .success children

theorem verdictAfter_cons (last : Status) (endings : Endings) (child : Child)
    (children : List Child) :
    endings.verdictAfter last (child :: children) =
      match endings child with
      | none => .running
      | some outcome => endings.verdictAfter outcome.status children := by
  simp only [verdictAfter, List.mapM_cons]
  cases endings child with
  | none => rfl
  | some outcome =>
      cases children.mapM endings with
      | none => rfl
      | some outcomes => exact congrArg JobStatus.done List.getLastD_cons

theorem Later.verdictAfter_done {first second : Endings} (later : first.Later second)
    {children : List Child} {last status : Status}
    (done : first.verdictAfter last children = .done status) :
    second.verdictAfter last children = .done status := by
  induction children generalizing last with
  | nil => exact done
  | cons child children ih =>
      rw [verdictAfter_cons] at done ⊢
      cases ended : first child with
      | none => simp [ended] at done
      | some outcome =>
          rw [ended] at done
          rw [later child outcome ended]
          exact ih done

theorem Later.verdict_done {first second : Endings} (later : first.Later second)
    {children : List Child} {status : Status} (done : first.verdict children = .done status) :
    second.verdict children = .done status :=
  later.verdictAfter_done done

end Endings

variable {σ : Type} {host : Host σ} {ended : σ → Endings}

/-- A system on which each child runs until some moment and then reports one outcome. -/
structure Host.Reports (host : Host σ) (ended : σ → Endings) : Prop where
  /-- The answer to a look is how things stand at some moment while it is taken. -/
  poll (child : Child) (state : σ) : ∃ moment,
    (ended state).Between moment (ended ((host.poll child).run state).2) ∧
    ((host.poll child).run state).1 = moment child
  wait (child : Child) (state : σ) :
    (ended state).Later (ended ((host.wait child).run state).2) ∧
    ended ((host.wait child).run state).2 child = some ((host.wait child).run state).1

/-- The status that is known of a child is the one it reports. -/
def Stage.Sound (endings : Endings) (stage : Stage) : Prop :=
  ∀ status, stage.status = some status → (endings stage.child).map Outcome.status = some status

theorem Stage.Sound.later {first second : Endings} {stage : Stage} (sound : stage.Sound first)
    (later : first.Later second) : stage.Sound second := by
  intro status known
  obtain ⟨outcome, ended, rfl⟩ := Option.map_eq_some_iff.mp (sound status known)
  rw [later _ _ ended]
  rfl

/-! ## One job -/

namespace Job

def children (job : Job) : List Child :=
  job.stages.map Stage.child

/-- What is known of the children of a job is what they report. -/
def Sound (endings : Endings) (job : Job) : Prop :=
  ∀ stage ∈ job.stages, stage.Sound endings

theorem Sound.later {first second : Endings} {job : Job} (sound : job.Sound first)
    (later : first.Later second) : job.Sound second :=
  fun stage member => (sound stage member).later later

end Job

section

variable (reports : host.Reports ended)
include reports

theorem Stage.poll_seen {stage stage' : Stage} {state state' : σ}
    (sound : stage.Sound (ended state)) (polled : (stage.poll host).run state = (stage', state')) :
    stage'.child = stage.child ∧ stage'.Sound (ended state') ∧
    ∃ moment, (ended state).Between moment (ended state') ∧
      stage'.status = (moment stage.child).map Outcome.status := by
  obtain ⟨child, status⟩ := stage
  cases status with
  | some status =>
      obtain ⟨rfl, rfl⟩ := Prod.ext_iff.mp polled
      exact ⟨rfl, sound, ended state, ⟨.refl _, .refl _⟩, (sound status rfl).symm⟩
  | none =>
      obtain ⟨moment, between, answer⟩ := reports.poll child state
      obtain ⟨rfl, rfl⟩ := Prod.ext_iff.mp polled
      have seen := congrArg (Option.map Outcome.status) answer
      refine ⟨rfl, fun status known => ?_, moment, between, seen⟩
      obtain ⟨outcome, there, rfl⟩ := Option.map_eq_some_iff.mp (seen.symm.trans known)
      exact congrArg (Option.map Outcome.status) (between.2 child outcome there)

theorem Stage.wait_seen {stage : Stage} {status : Status} {state state' : σ}
    (sound : stage.Sound (ended state)) (waited : (stage.wait host).run state = (status, state')) :
    (ended state).Later (ended state') ∧
    (ended state' stage.child).map Outcome.status = some status := by
  obtain ⟨child, known⟩ := stage
  cases known with
  | some known =>
      obtain ⟨rfl, rfl⟩ := Prod.ext_iff.mp waited
      exact ⟨.refl _, sound known rfl⟩
  | none =>
      obtain ⟨later, there⟩ := reports.wait child state
      obtain ⟨rfl, rfl⟩ := Prod.ext_iff.mp waited
      exact ⟨later, congrArg (Option.map Outcome.status) there⟩

namespace Job

omit reports in
theorem run_pollStages_cons (stage : Stage) (rest : List Stage) (last : Status) (state : σ) :
    (pollStages host (stage :: rest) last).run state =
      let (stage, state) := (stage.poll host).run state
      match stage.status with
      | none => ((stage :: rest, .running), state)
      | some status =>
        let ((rest, answer), state) := (pollStages host rest status).run state
        ((stage :: rest, answer), state) := by
  rw [pollStages, StateT.run_bind]
  generalize (stage.poll host).run state = result
  obtain ⟨⟨child, status⟩, state'⟩ := result
  cases status <;> rfl

/-- What a look at stages finds, and what it leaves behind. -/
structure Seen (before after : Endings) (stages stages' : List Stage) (last : Status)
    (answer : JobStatus) : Prop where
  children : stages'.map Stage.child = stages.map Stage.child
  sound : ∀ stage ∈ stages', stage.Sound after
  answer : ∃ moment, before.Between moment after ∧
    answer = moment.verdictAfter last (stages.map Stage.child)

theorem pollStages_seen {stages stages' : List Stage} {last : Status} {answer : JobStatus}
    {state state' : σ} (sound : ∀ stage ∈ stages, stage.Sound (ended state))
    (polled : (pollStages host stages last).run state = ((stages', answer), state')) :
    Seen (ended state) (ended state') stages stages' last answer := by
  induction stages generalizing last state stages' with
  | nil =>
      cases (polled : (([], JobStatus.done last), state) = ((stages', answer), state'))
      exact ⟨rfl, by simp, ended _, ⟨.refl _, .refl _⟩, rfl⟩
  | cons stage stages ih =>
      obtain ⟨here, sound⟩ := List.forall_mem_cons.mp sound
      rw [run_pollStages_cons] at polled
      generalize first : (stage.poll host).run state = result at polled
      obtain ⟨stage', middle⟩ := result
      obtain ⟨child, known, moment, between, seen⟩ := Stage.poll_seen reports here first
      have sound' : ∀ stage ∈ stages, stage.Sound (ended middle) := fun stage member =>
        (sound stage member).later between.later
      cases noted : stage'.status with
      | none =>
          rw [noted] at seen
          simp only [noted] at polled
          cases polled
          -- the look ends here, and the job still runs at the moment of this stage
          refine ⟨by simp [child], List.forall_mem_cons.mpr ⟨known, sound'⟩, moment, between, ?_⟩
          rw [List.map_cons, Endings.verdictAfter_cons, Option.map_eq_none_iff.mp seen.symm]
      | some status =>
          rw [noted] at seen
          simp only [noted] at polled
          generalize second : (pollStages host stages status).run middle = result at polled
          obtain ⟨⟨rest, answer⟩, state''⟩ := result
          cases polled
          obtain ⟨outcome, there, rfl⟩ := Option.map_eq_some_iff.mp seen.symm
          obtain ⟨children, soundRest, moment', between', answered⟩ := ih sound' second
          -- at the moment of the other stages this one has still ended
          have there' := between'.1 _ _ (between.2 _ _ there)
          refine ⟨by simp [child, children], ?_, moment', ?_, ?_⟩
          · exact List.forall_mem_cons.mpr ⟨known.later between'.later, soundRest⟩
          · exact ⟨between.later.trans between'.1, between'.2⟩
          · rw [answered, List.map_cons, Endings.verdictAfter_cons, there']

theorem waitStages_seen {stages : List Stage} {last status : Status} {state state' : σ}
    (sound : ∀ stage ∈ stages, stage.Sound (ended state))
    (waited : (waitStages host stages last).run state = (status, state')) :
    (ended state).Later (ended state') ∧
    (ended state').verdictAfter last (stages.map Stage.child) = .done status := by
  induction stages generalizing last state with
  | nil =>
      cases (waited : (last, state) = (status, state'))
      exact ⟨.refl _, rfl⟩
  | cons stage stages ih =>
      obtain ⟨here, sound⟩ := List.forall_mem_cons.mp sound
      generalize first : (stage.wait host).run state = result
      obtain ⟨answer, middle⟩ := result
      obtain ⟨later, seen⟩ := Stage.wait_seen reports here first
      have waited' : (waitStages host stages answer).run middle = (status, state') := by
        rw [waitStages, StateT.run_bind, first] at waited
        exact waited
      obtain ⟨later', done⟩ := ih (fun stage member => (sound stage member).later later) waited'
      obtain ⟨outcome, there, rfl⟩ := Option.map_eq_some_iff.mp seen
      refine ⟨later.trans later', ?_⟩
      rw [List.map_cons, Endings.verdictAfter_cons, later' _ _ there]
      exact done

/-- A look at a job answers how it stood at some moment of the look. -/
theorem poll_seen {job job' : Job} {answer : JobStatus} {state state' : σ}
    (sound : job.Sound (ended state))
    (polled : (job.poll host).run state = ((job', answer), state')) :
    job'.command = job.command ∧ job'.children = job.children ∧ job'.Sound (ended state') ∧
    ∃ moment, (ended state).Between moment (ended state') ∧
      answer = moment.verdict job.children := by
  generalize first : (pollStages host job.stages .success).run state = result
  obtain ⟨⟨stages, answer'⟩, state''⟩ := result
  rw [poll, StateT.run_bind, first] at polled
  cases (polled : (({ job with stages }, answer'), state'') = ((job', answer), state'))
  obtain ⟨children, sound', seen⟩ := pollStages_seen reports sound first
  exact ⟨rfl, children, sound', seen⟩

theorem wait_seen {job : Job} {status : Status} {state state' : σ} (sound : job.Sound (ended state))
    (waited : (job.wait host).run state = (status, state')) :
    (ended state).Later (ended state') ∧ (ended state').verdict job.children = .done status :=
  waitStages_seen reports sound waited

end Job

end

/-! ## All jobs of a table -/

structure Started where
  command : String
  children : List Child
deriving DecidableEq

def Job.started (job : Job) : Started :=
  ⟨job.command, job.children⟩

namespace JobTable

def started (jobs : List (JobId × Job)) : List (JobId × Started) :=
  jobs.map fun entry => (entry.1, entry.2.started)

theorem started_cons (id : JobId) (job : Job) (jobs : List (JobId × Job)) :
    started ((id, job) :: jobs) = (id, job.started) :: started jobs := rfl

theorem map_fst_started (jobs : List (JobId × Job)) :
    (started jobs).map (·.1) = jobs.map (·.1) := by
  simp [started]

theorem lookup_started (jobs : List (JobId × Job)) (id : JobId) :
    (started jobs).lookup id = (jobs.lookup id).map Job.started := by
  induction jobs with
  | nil => rfl
  | cons entry jobs ih =>
      rw [started, List.map_cons, List.lookup_cons, List.lookup_cons]
      split
      · rfl
      · exact ih

theorem lookup_iff_mem {α : Type} {entries : List (JobId × α)}
    (distinct : (entries.map (·.1)).Nodup) {id : JobId} {value : α} :
    entries.lookup id = some value ↔ (id, value) ∈ entries := by
  induction entries with
  | nil => simp
  | cons entry entries ih =>
      obtain ⟨other, first⟩ := entry
      obtain ⟨fresh, rest⟩ := List.nodup_cons.mp distinct
      rw [List.lookup_cons, List.mem_cons, ← ih rest]
      by_cases same : id = other
      · subst same
        have absent : entries.lookup id ≠ some value := fun found =>
          fresh (List.mem_map.mpr ⟨(id, value), (ih rest).mp found, rfl⟩)
        simp [absent, eq_comm]
      · rw [beq_false_of_ne same]
        simp [same]

theorem started_replace {table : JobTable} {id : JobId} {job : Job}
    (only : ∀ entry ∈ table.jobs, entry.1 = id → entry.2.started = job.started) :
    started (table.replace id job).jobs = started table.jobs := by
  rw [started, started, replace, List.map_map]
  refine List.map_congr_left fun entry member => ?_
  dsimp only [Function.comp_apply]
  split
  next same => rw [only entry member same, same]
  next => rfl

theorem started_erase (table : JobTable) (id : JobId) :
    started (table.erase id).jobs = (started table.jobs).filter fun entry => entry.1 ≠ id := by
  rw [started, started, erase, List.filter_map]
  rfl

/-- A job that has ended, with its status. -/
def ended? (id : JobId) : JobStatus → Option (JobId × Status)
  | .running => none
  | .done status => some (id, status)

def finished (moment : JobId → Endings) (entry : JobId × Started) : Option (JobId × Status) :=
  ended? entry.1 ((moment entry.1).verdict entry.2.children)

theorem finished_fst {moment : JobId → Endings} {entry : JobId × Started}
    {result : JobId × Status} (done : finished moment entry = some result) :
    result.1 = entry.1 := by
  rw [finished] at done
  cases verdict : (moment entry.1).verdict entry.2.children with
  | running => simp [verdict, ended?] at done
  | done status =>
      rw [verdict, ended?, Option.some.injEq] at done
      rw [← done]

theorem finished_sublist (moment : JobId → Endings) (entries : List (JobId × Started)) :
    ((entries.filterMap (finished moment)).map (·.1)).Sublist (entries.map (·.1)) := by
  induction entries with
  | nil => exact .slnil
  | cons entry entries ih =>
      cases done : finished moment entry with
      | none =>
          rw [List.filterMap_cons_none done]
          exact ih.cons _
      | some result =>
          rw [List.filterMap_cons_some done, List.map_cons, List.map_cons, finished_fst done]
          exact ih.cons_cons _

theorem filter_finished {moment : JobId → Endings} {entries : List (JobId × Started)}
    (distinct : (entries.map (·.1)).Nodup) :
    (entries.filter fun entry => finished moment entry = none) =
      entries.filter fun entry =>
        entry.1 ∉ (entries.filterMap (finished moment)).map (·.1) := by
  refine List.filter_congr fun entry member => ?_
  rw [decide_eq_decide]
  constructor
  · intro none listed
    obtain ⟨result, there, same⟩ := List.mem_map.mp listed
    obtain ⟨other, member', done⟩ := List.mem_filterMap.mp there
    have equal : other = entry := List.inj_on_of_nodup_map distinct member' member
      ((finished_fst done).symm.trans same)
    rw [equal, none] at done
    exact Option.some_ne_none _ done.symm
  · intro unlisted
    by_contra some
    obtain ⟨result, done⟩ := Option.ne_none_iff_exists'.mp some
    exact unlisted (finished_fst done ▸
      List.mem_map_of_mem (List.mem_filterMap.mpr ⟨entry, member, done⟩))

/-- The moment of one job before those of the others. -/
theorem exists_moments {before middle after : Endings} {moment : Endings}
    {moments : JobId → Endings} {id : JobId} {jobs : List (JobId × Job)}
    (fresh : id ∉ jobs.map (·.1)) (first : before.Between moment middle)
    (others : ∀ other, middle.Between (moments other) after) :
    ∃ moments' : JobId → Endings, (∀ other, before.Between (moments' other) after) ∧
      moments' id = moment ∧
      ∀ entry ∈ started jobs, finished moments' entry = finished moments entry := by
  refine ⟨Function.update moments id moment, fun other => ?_, Function.update_self .., ?_⟩
  · by_cases same : other = id
    · rw [same, Function.update_self]
      exact ⟨first.1, first.2.trans (others id).later⟩
    · rw [Function.update_of_ne same]
      exact ⟨first.later.trans (others other).1, (others other).2⟩
  · intro entry member
    have other : entry.1 ≠ id := fun same => fresh <| by
      rw [← map_fst_started, ← same]
      exact List.mem_map_of_mem member
    rw [finished, Function.update_of_ne other, finished]

theorem run_sift_cons (id : JobId) (job : Job) (rest : List (JobId × Job)) (state : σ) :
    (sift host ((id, job) :: rest)).run state =
      let ((job, status), state) := (job.poll host).run state
      let ((ended, left), state) := (sift host rest).run state
      match status with
      | .done status => (((id, status) :: ended, left), state)
      | .running => ((ended, (id, job) :: left), state) := by
  rw [sift, StateT.run_bind]
  generalize (job.poll host).run state = result
  obtain ⟨⟨job, status⟩, state'⟩ := result
  cases status <;> rfl

/-- What a look at all jobs finds, and what it leaves behind. -/
structure Sifted (before after : Endings) (jobs left : List (JobId × Job))
    (answer : List (JobId × Status)) (moment : JobId → Endings) : Prop where
  between (id : JobId) : before.Between (moment id) after
  answered : answer = (started jobs).filterMap (finished moment)
  remaining : started left = (started jobs).filter fun entry => finished moment entry = none
  sound : ∀ entry ∈ left, entry.2.Sound after

theorem sift_seen (reports : host.Reports ended) {jobs left : List (JobId × Job)}
    {answer : List (JobId × Status)} {state state' : σ} (distinct : (jobs.map (·.1)).Nodup)
    (sound : ∀ entry ∈ jobs, entry.2.Sound (ended state))
    (sifted : (sift host jobs).run state = ((answer, left), state')) :
    ∃ moment, Sifted (ended state) (ended state') jobs left answer moment := by
  induction jobs generalizing state state' answer left with
  | nil =>
      cases (sifted : (([], []), state) = ((answer, left), state'))
      exact ⟨fun _ => ended _, fun _ => ⟨.refl _, .refl _⟩, rfl, rfl, by simp⟩
  | cons entry jobs ih =>
      obtain ⟨id, job⟩ := entry
      obtain ⟨here, sound⟩ := List.forall_mem_cons.mp sound
      obtain ⟨fresh, distinct⟩ := List.nodup_cons.mp distinct
      rw [run_sift_cons] at sifted
      generalize first : (job.poll host).run state = result at sifted
      obtain ⟨⟨job', status⟩, middle⟩ := result
      dsimp only at sifted
      generalize second : (sift host jobs).run middle = result at sifted
      obtain ⟨⟨answer', left'⟩, after⟩ := result
      obtain ⟨command, children, known, moment, between, seen⟩ := Job.poll_seen reports here first
      obtain ⟨moments, rest⟩ := ih distinct
        (fun entry member => (sound entry member).later between.later) second
      obtain ⟨moments', betweens, mine, tail⟩ := exists_moments fresh between rest.between
      have same : job'.started = job.started := by rw [Job.started, command, children]; rfl
      have head : finished moments' (id, job.started) = ended? id status := by
        rw [finished, mine, seen]
        rfl
      have answered : (started jobs).filterMap (finished moments') = answer' :=
        (List.filterMap_congr tail).trans rest.answered.symm
      have remaining : (started jobs).filter (finished moments' · = none) = started left' := by
        rw [rest.remaining]
        exact List.filter_congr fun entry member => by rw [tail entry member]
      cases status with
      | running =>
          cases sifted
          refine ⟨moments', betweens, ?_, ?_, ?_⟩
          · rw [started_cons, List.filterMap_cons_none head, answered]
          · rw [started_cons, started_cons, List.filter_cons_of_pos (by simp [head, ended?]),
              remaining, same]
          · exact List.forall_mem_cons.mpr ⟨known.later (rest.between id).later, rest.sound⟩
      | done status =>
          cases sifted
          refine ⟨moments', betweens, ?_, ?_, rest.sound⟩
          · rw [started_cons, List.filterMap_cons_some head, answered]
          · rw [started_cons, List.filter_cons_of_neg (by simp [head, ended?]), remaining]

end JobTable

end Shell
