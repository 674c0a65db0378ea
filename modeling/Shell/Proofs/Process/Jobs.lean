import Mathlib.Data.List.Range
import Shell.Proofs.Process.Polling

/-! # Background jobs are kept

Whatever is done with a table of jobs, and whenever their children end, numbers are given out in
order, a job stays in the table until it is returned, and it is returned once. What is answered
about a job in between is how its children stand.
-/

namespace Shell

/-! ## What happens to a table -/

/-- An operation with its answer, or time that passes without one. -/
inductive JobEvent where
  | inserted (id : JobId) (job : Started)
  | polled (id : JobId) (answer : Option JobStatus)
  | named (id : JobId) (answer : Option String)
  | reaped (answer : List (JobId × Status))
  | waited (id : JobId) (answer : Option Status)
  | listed (answer : List JobId)
  | counted (answer : Nat)
  | elapsed
deriving DecidableEq

namespace JobEvent

def incoming : JobEvent → List (JobId × Started)
  | inserted id job => [(id, job)]
  | _ => []

def outgoing : JobEvent → List (JobId × Status)
  | reaped answer => answer
  | waited id (some status) => [(id, status)]
  | _ => []

end JobEvent

namespace JobTable

def inserted (events : List JobEvent) : List (JobId × Started) :=
  events.flatMap JobEvent.incoming

def returned (events : List JobEvent) : List (JobId × Status) :=
  events.flatMap JobEvent.outgoing

/-- The jobs that have come into a table and have not been returned. -/
def live (events : List JobEvent) : List (JobId × Started) :=
  (inserted events).filter fun entry => entry.1 ∉ (returned events).map (·.1)

variable {σ : Type}

/-- One event. Any children may end in it. -/
inductive Step (host : Host σ) (ended : σ → Endings) :
    σ × JobTable → JobEvent → σ × JobTable → Prop where
  | insert (command : String) (children : List Child) (state : σ) (table : JobTable) :
    Step host ended (state, table)
      (.inserted (table.insert command children).1 ⟨command, children⟩)
      (state, (table.insert command children).2)
  | status {id : JobId} {answer : Option JobStatus} {state state' : σ} {table table' : JobTable} :
    (table.status host id).run state = ((answer, table'), state') →
      Step host ended (state, table) (.polled id answer) (state', table')
  | command (id : JobId) (state : σ) (table : JobTable) :
    Step host ended (state, table) (.named id (table.command? id)) (state, table)
  | reap {answer : List (JobId × Status)} {state state' : σ} {table table' : JobTable} :
    (table.reap host).run state = ((answer, table'), state') →
      Step host ended (state, table) (.reaped answer) (state', table')
  | wait {id : JobId} {answer : Option Status} {state state' : σ} {table table' : JobTable} :
    (table.wait host id).run state = ((answer, table'), state') →
      Step host ended (state, table) (.waited id answer) (state', table')
  | ids (state : σ) (table : JobTable) :
    Step host ended (state, table) (.listed table.ids) (state, table)
  | size (state : σ) (table : JobTable) :
    Step host ended (state, table) (.counted table.size) (state, table)
  | elapse {state state' : σ} (table : JobTable) :
    (ended state).Later (ended state') → Step host ended (state, table) .elapsed (state', table)

/-- What can have happened to a table that was empty, and what it has come to. -/
inductive History (host : Host σ) (ended : σ → Endings) : List JobEvent → σ × JobTable → Prop where
  | start (state : σ) : History host ended [] (state, {})
  | step {events : List JobEvent} {event : JobEvent} {now next : σ × JobTable} :
    History host ended events now → Step host ended now event next →
      History host ended (events ++ [event]) next

end JobTable

/-- An answer is right for the jobs in a table, given how children stand before and after. What is
    said of a job holds at some moment in between. -/
def JobEvent.IsRight (before after : Endings) (live : List (JobId × Started)) : JobEvent → Prop
  | inserted id _ => ∀ entry ∈ live, entry.1 < id
  | polled id answer => ∃ moment, before.Between moment after ∧
      answer = (live.lookup id).map fun job => moment.verdict job.children
  | named id answer => answer = (live.lookup id).map Started.command
  | reaped answer => (answer.map (·.1)).Pairwise (· < ·) ∧
      ∃ moment : JobId → Endings, (∀ id, before.Between (moment id) after) ∧
        answer = live.filterMap (JobTable.finished moment)
  | waited id answer => ∃ moment, before.Between moment after ∧
      answer.map JobStatus.done = (live.lookup id).map fun job => moment.verdict job.children
  | listed answer => answer = live.map (·.1)
  | counted answer => answer = live.length
  | elapsed => before.Later after

namespace JobTable

/-! ## What one event adds -/

theorem inserted_concat (events : List JobEvent) (event : JobEvent) :
    inserted (events ++ [event]) = inserted events ++ event.incoming := by
  simp [inserted]

theorem returned_concat (events : List JobEvent) (event : JobEvent) :
    returned (events ++ [event]) = returned events ++ event.outgoing := by
  simp [returned]

theorem live_concat {events : List JobEvent} {event : JobEvent} (nothing : event.incoming = []) :
    live (events ++ [event]) =
      (live events).filter fun entry => entry.1 ∉ event.outgoing.map (·.1) := by
  rw [live, live, inserted_concat, nothing, List.append_nil, List.filter_filter]
  refine List.filter_congr fun entry _ => ?_
  rw [Bool.eq_iff_iff]
  simp only [Bool.and_eq_true, decide_eq_true_eq, returned_concat, List.map_append,
    List.mem_append, not_or, and_comm]

theorem mem_live {events : List JobEvent} {entry : JobId × Started} :
    entry ∈ live events ↔
      entry ∈ inserted events ∧ entry.1 ∉ (returned events).map (·.1) := by
  rw [live, List.mem_filter, decide_eq_true_eq]

/-- A table after events, while children stand in some way. -/
structure Kept (endings : Endings) (events : List JobEvent) (table : JobTable) : Prop where
  numbered : (inserted events).map (·.1) = List.range' 1 table.last
  known : ∀ entry ∈ returned events, entry.1 ∈ (inserted events).map (·.1)
  once : ((returned events).map (·.1)).Nodup
  jobs : started table.jobs = live events
  sound : ∀ entry ∈ table.jobs, entry.2.Sound endings
  /-- What was said to have ended has ended. -/
  told : ∀ id status, JobEvent.polled id (some (.done status)) ∈ events →
    ∃ job, (id, job) ∈ inserted events ∧ endings.verdict job.children = .done status

namespace Kept

variable {endings : Endings} {events : List JobEvent} {table : JobTable}

theorem increasing (kept : Kept endings events table) :
    ((live events).map (·.1)).Pairwise (· < ·) := by
  have all : ((inserted events).map (·.1)).Pairwise (· < ·) :=
    kept.numbered ▸ List.pairwise_lt_range'
  exact all.sublist (List.filter_sublist.map _)

theorem get? (kept : Kept endings events table) (id : JobId) :
    (table.get? id).map Job.started = (live events).lookup id := by
  rw [← kept.jobs, lookup_started, JobTable.get?]

theorem distinct (kept : Kept endings events table) : ((live events).map (·.1)).Nodup :=
  kept.increasing.imp Nat.ne_of_lt

theorem distinct_jobs (kept : Kept endings events table) : (table.jobs.map (·.1)).Nodup := by
  rw [← map_fst_started, kept.jobs]
  exact kept.distinct

theorem next {after : Endings} {event : JobEvent} {table' : JobTable}
    (kept : Kept endings events table) (later : endings.Later after)
    (nothing : event.incoming = []) (last : table'.last = table.last)
    (leaving : (event.outgoing.map (·.1)).Sublist ((live events).map (·.1)))
    (jobs : started table'.jobs =
      (live events).filter fun entry => entry.1 ∉ event.outgoing.map (·.1))
    (sound : ∀ entry ∈ table'.jobs, entry.2.Sound after)
    (told : ∀ id status, event = .polled id (some (.done status)) →
      ∃ job, (id, job) ∈ inserted events ∧ after.verdict job.children = .done status) :
    Kept after (events ++ [event]) table' := by
  have same : inserted (events ++ [event]) = inserted events := by
    rw [inserted_concat, nothing, List.append_nil]
  -- what is returned now was in the table, so it has not been returned before
  have leaves : ∀ id ∈ event.outgoing.map (·.1),
      id ∈ (inserted events).map (·.1) ∧ id ∉ (returned events).map (·.1) := by
    intro id member
    obtain ⟨entry, there, rfl⟩ := List.mem_map.mp (leaving.subset member)
    obtain ⟨came, stayed⟩ := mem_live.mp there
    exact ⟨List.mem_map_of_mem came, stayed⟩
  constructor
  case numbered => rw [same, last, kept.numbered]
  case known =>
    rw [returned_concat, same, List.forall_mem_append]
    exact ⟨kept.known, fun entry member => (leaves _ (List.mem_map_of_mem member)).1⟩
  case once =>
    rw [returned_concat, List.map_append, List.nodup_append]
    refine ⟨kept.once, kept.distinct.sublist leaving, fun id before other now same => ?_⟩
    exact (leaves other now).2 (same ▸ before)
  case jobs => rw [jobs, live_concat nothing]
  case sound => exact sound
  case told =>
    intro id status said
    rw [same]
    rcases List.mem_append.mp said with before | now
    · obtain ⟨job, member, done⟩ := kept.told id status before
      exact ⟨job, member, later.verdict_done done⟩
    · exact told id status (List.mem_singleton.mp now).symm

theorem stay {after : Endings} {event : JobEvent} {table' : JobTable}
    (kept : Kept endings events table) (later : endings.Later after)
    (nothing : event.incoming = []) (none : event.outgoing = []) (last : table'.last = table.last)
    (jobs : started table'.jobs = live events) (sound : ∀ entry ∈ table'.jobs, entry.2.Sound after)
    (told : ∀ id status, event = .polled id (some (.done status)) →
      ∃ job, (id, job) ∈ inserted events ∧ after.verdict job.children = .done status) :
    Kept after (events ++ [event]) table' := by
  refine kept.next later nothing last ?_ ?_ sound told
  · simp [none]
  · simpa [none] using jobs

theorem idle {event : JobEvent} (kept : Kept endings events table) (nothing : event.incoming = [])
    (none : event.outgoing = []) (silent : ∀ id status, event ≠ .polled id (some (.done status))) :
    Kept endings (events ++ [event]) table :=
  kept.stay (.refl _) nothing none rfl kept.jobs kept.sound fun id status same =>
    absurd same (silent id status)

theorem lt_next (kept : Kept endings events table) {entry : JobId × Started}
    (member : entry ∈ inserted events) : entry.1 < table.last + 1 := by
  have inRange : entry.1 ∈ List.range' 1 table.last :=
    kept.numbered ▸ List.mem_map_of_mem member
  exact Nat.add_comm 1 table.last ▸ (List.mem_range'_1.mp inRange).2

theorem insert (kept : Kept endings events table) (command : String) (children : List Child) :
    Kept endings (events ++ [.inserted (table.insert command children).1 ⟨command, children⟩])
      (table.insert command children).2 := by
  have same : returned (events ++ [.inserted (table.last + 1) ⟨command, children⟩]) =
      returned events := (returned_concat ..).trans (List.append_nil _)
  have more : inserted (events ++ [.inserted (table.last + 1) ⟨command, children⟩]) =
      inserted events ++ [(table.last + 1, ⟨command, children⟩)] := inserted_concat ..
  -- the new number is above all that were given out, and only those are returned
  have unreturned : table.last + 1 ∉ (returned events).map (·.1) := by
    intro member
    obtain ⟨entry, there, next⟩ := List.mem_map.mp member
    obtain ⟨entry', there', same⟩ := List.mem_map.mp (kept.known entry there)
    exact absurd (kept.lt_next there') (by rw [same, next]; exact Nat.lt_irrefl _)
  constructor
  case numbered =>
    rw [JobTable.insert, more, List.map_append, kept.numbered, List.range'_1_concat, Nat.add_comm 1]
    rfl
  case known =>
    rw [JobTable.insert, same, more, List.map_append]
    exact fun entry member => List.mem_append_left _ (kept.known entry member)
  case once =>
    rw [JobTable.insert, same]
    exact kept.once
  case jobs =>
    have new : Job.started { command, stages := children.map fun child => { child } } =
        ⟨command, children⟩ := by
      simp [Job.started, Job.children, Function.comp_def]
    rw [JobTable.insert, live, same, more, List.filter_append, ← live, ← kept.jobs]
    rw [List.filter_cons_of_pos (by simpa using unreturned), started, List.map_append, ← started]
    exact congrArg (fun job => started table.jobs ++ [(table.last + 1, job)]) new
  case sound =>
    rw [JobTable.insert, List.forall_mem_append, List.forall_mem_singleton]
    refine ⟨kept.sound, fun stage member => ?_⟩
    obtain ⟨child, -, rfl⟩ := List.mem_map.mp member
    exact fun status known => absurd known.symm (Option.some_ne_none status)
  case told =>
    intro id status said
    rw [JobTable.insert, more]
    obtain ⟨job, member, done⟩ := kept.told id status (by simpa [JobTable.insert] using said)
    exact ⟨job, List.mem_append_left _ member, done⟩

end Kept

/-! ## The operations -/

variable {σ : Type} {host : Host σ} {ended : σ → Endings}

namespace Kept

variable {events : List JobEvent} {table table' : JobTable} {state state' : σ}

theorem mem_of_get? {endings : Endings} (kept : Kept endings events table) {id : JobId} {job : Job}
    (found : table.get? id = some job) : (id, job) ∈ table.jobs :=
  (lookup_iff_mem kept.distinct_jobs).mp found

theorem eq_of_get? {endings : Endings} (kept : Kept endings events table) {id : JobId} {job : Job}
    (found : table.get? id = some job) {entry : JobId × Job} (member : entry ∈ table.jobs)
    (same : entry.1 = id) : entry.2 = job := by
  subst same
  exact Option.some.inj (((lookup_iff_mem kept.distinct_jobs).mpr member).symm.trans found)

theorem live_of_get? {endings : Endings} (kept : Kept endings events table) {id : JobId} {job : Job}
    (found : table.get? id = some job) : (id, job.started) ∈ live events :=
  kept.jobs ▸ List.mem_map_of_mem (kept.mem_of_get? found)

variable (reports : host.Reports ended) (kept : Kept (ended state) events table)
include reports kept

theorem status {id : JobId} {answer : Option JobStatus}
    (polled : (table.status host id).run state = ((answer, table'), state')) :
    Kept (ended state') (events ++ [.polled id answer]) table' ∧
      (JobEvent.polled id answer).IsRight (ended state) (ended state') (live events) := by
  cases found : table.get? id with
  | none =>
      rw [JobTable.status, found] at polled
      cases (polled : ((none, table), state) = ((answer, table'), state'))
      refine ⟨?_, ended state, ⟨.refl _, .refl _⟩, by rw [← kept.get?, found]; rfl⟩
      exact kept.idle rfl rfl (by simp)
  | some job =>
      generalize first : (job.poll host).run state = result
      obtain ⟨⟨job', status⟩, after⟩ := result
      rw [JobTable.status, found] at polled
      dsimp only at polled
      rw [StateT.run_bind, first] at polled
      cases (polled : ((some status, table.replace id job'), after) = ((answer, table'), state'))
      have member := kept.mem_of_get? found
      obtain ⟨command, children, known, moment, between, seen⟩ :=
        Job.poll_seen reports (kept.sound _ member) first
      refine ⟨kept.stay between.later rfl rfl rfl ?_ ?_ ?_, moment, between, ?_⟩
      · rw [started_replace, kept.jobs]
        intro entry member same
        rw [kept.eq_of_get? found member same, Job.started, Job.started, command, children]
      · intro entry member
        obtain ⟨old, there, rfl⟩ := List.mem_map.mp member
        split
        · exact known
        · exact (kept.sound old there).later between.later
      · intro other result same
        cases same
        have done := between.2.verdict_done seen.symm
        exact ⟨_, (mem_live.mp (kept.live_of_get? found)).1, done⟩
      · rw [← kept.get?, found, seen]
        rfl

theorem reap {answer : List (JobId × Status)}
    (reaped : (table.reap host).run state = ((answer, table'), state')) :
    Kept (ended state') (events ++ [.reaped answer]) table' ∧
      (JobEvent.reaped answer).IsRight (ended state) (ended state') (live events) := by
  generalize sifted : (sift host table.jobs).run state = result
  obtain ⟨⟨answer', left⟩, after⟩ := result
  rw [JobTable.reap, StateT.run_bind, sifted] at reaped
  cases (reaped : ((answer', { table with jobs := left }), after) = ((answer, table'), state'))
  obtain ⟨moment, between, answered, remaining, sound⟩ :=
    sift_seen reports kept.distinct_jobs kept.sound sifted
  rw [kept.jobs] at answered remaining
  have leaving : (answer.map (·.1)).Sublist ((live events).map (·.1)) :=
    answered ▸ finished_sublist moment _
  refine ⟨?_, kept.increasing.sublist leaving, moment, between, answered⟩
  refine kept.next (between table.last).later rfl rfl leaving ?_ sound (by simp)
  rw [remaining, filter_finished kept.distinct, ← answered]
  rfl

theorem wait {id : JobId} {answer : Option Status}
    (waited : (table.wait host id).run state = ((answer, table'), state')) :
    Kept (ended state') (events ++ [.waited id answer]) table' ∧
      (JobEvent.waited id answer).IsRight (ended state) (ended state') (live events) := by
  cases found : table.get? id with
  | none =>
      rw [JobTable.wait, found] at waited
      cases (waited : ((none, table), state) = ((answer, table'), state'))
      refine ⟨?_, ended state, ⟨.refl _, .refl _⟩, by rw [← kept.get?, found]; rfl⟩
      exact kept.idle rfl rfl (by simp)
  | some job =>
      generalize first : (job.wait host).run state = result
      obtain ⟨status, after⟩ := result
      rw [JobTable.wait, found] at waited
      dsimp only at waited
      rw [StateT.run_bind, first] at waited
      cases (waited : ((some status, table.erase id), after) = ((answer, table'), state'))
      have member := kept.mem_of_get? found
      obtain ⟨later, done⟩ := Job.wait_seen reports (kept.sound _ member) first
      refine ⟨kept.next later rfl rfl ?_ ?_ ?_ ?_, ended after, ⟨later, .refl _⟩, ?_⟩
      · exact List.singleton_sublist.mpr (List.mem_map_of_mem (kept.live_of_get? found))
      · rw [started_erase, kept.jobs]
        simp [JobEvent.outgoing]
      · intro entry member
        exact (kept.sound entry (List.mem_of_mem_filter member)).later later
      · simp
      · rw [← kept.get?, found]
        exact congrArg some done.symm

/-- Any event leaves the table kept, and is right about it. -/
theorem step {event : JobEvent} (happens : Step host ended (state, table) event (state', table')) :
    Kept (ended state') (events ++ [event]) table' ∧
      event.IsRight (ended state) (ended state') (live events) := by
  cases happens with
  | insert command children =>
      exact ⟨kept.insert command children, fun entry member => kept.lt_next (mem_live.mp member).1⟩
  | status polled => exact kept.status reports polled
  | command id =>
      refine ⟨kept.idle rfl rfl (by simp), ?_⟩
      rw [JobEvent.IsRight, command?, ← kept.get?, Option.map_map]
      rfl
  | reap reaped => exact kept.reap reports reaped
  | wait waited => exact kept.wait reports waited
  | ids =>
      refine ⟨kept.idle rfl rfl (by simp), ?_⟩
      rw [JobEvent.IsRight, ← kept.jobs, map_fst_started, ids]
  | size =>
      refine ⟨kept.idle rfl rfl (by simp), ?_⟩
      rw [JobEvent.IsRight, ← kept.jobs, started, List.length_map, size]
  | elapse _ later =>
      refine ⟨kept.stay later rfl rfl rfl kept.jobs ?_ (by simp), later⟩
      exact fun entry member => (kept.sound entry member).later later

end Kept

theorem History.kept (reports : host.Reports ended) {events : List JobEvent} {now : σ × JobTable}
    (history : History host ended events now) : Kept (ended now.1) events now.2 := by
  induction history with
  | start state => exact ⟨rfl, by simp [returned], by simp [returned], rfl, by simp, by simp⟩
  | step _ event ih => exact (ih.step reports event).1

namespace Kept

variable {endings : Endings} {events : List JobEvent} {table : JobTable}

theorem ids_eq (kept : Kept endings events table) : table.ids = (live events).map (·.1) := by
  rw [← kept.jobs, map_fst_started, ids]

/-- A job that is still there has ended as it was once said to have. -/
theorem done_of_told (kept : Kept endings events table) {id : JobId} {status : Status}
    (told : .polled id (some (.done status)) ∈ events) (there : id ∈ table.ids) :
    ∃ job, (live events).lookup id = some job ∧ endings.verdict job.children = .done status := by
  obtain ⟨job, came, done⟩ := kept.told id status told
  obtain ⟨⟨_, other⟩, stayed, rfl⟩ := List.mem_map.mp (kept.ids_eq ▸ there)
  have distinct : ((inserted events).map (·.1)).Nodup := kept.numbered ▸ List.nodup_range'
  have same := List.inj_on_of_nodup_map distinct (mem_live.mp stayed).1 came rfl
  exact ⟨job, (lookup_iff_mem kept.distinct).mpr (same ▸ stayed), done⟩

end Kept

theorem lookup_of_returned {events : List JobEvent} {id : JobId}
    (gone : id ∈ (returned events).map (·.1)) : (live events).lookup id = none := by
  refine List.lookup_eq_none_iff.mpr fun entry member => ?_
  simp only [bne_iff_ne, ne_eq]
  rintro rfl
  exact (mem_live.mp member).2 gone

end JobTable

namespace JobEvent.IsRight

variable {before after : Endings} {live : List (JobId × Started)} {event : JobEvent} {id : JobId}

theorem of_absent (right : event.IsRight before after live) (absent : live.lookup id = none) :
    (∀ answer, event = .polled id answer → answer = none) ∧
    (∀ answer, event = .named id answer → answer = none) ∧
    ∀ answer, event = .waited id answer → answer = none := by
  refine ⟨?_, ?_, ?_⟩
  · rintro answer rfl
    obtain ⟨moment, -, answered⟩ := right
    rw [answered, absent, Option.map_none]
  · rintro answer rfl
    rw [show answer = _ from right, absent, Option.map_none]
  · rintro answer rfl
    obtain ⟨moment, -, answered⟩ := right
    rw [absent, Option.map_none, Option.map_eq_none_iff] at answered
    exact answered

theorem of_done {job : Started} {status : Status} (right : event.IsRight before after live)
    (found : live.lookup id = some job) (done : before.verdict job.children = .done status) :
    (∀ answer, event = .polled id answer → answer = some (.done status)) ∧
    (∀ answer, event = .waited id answer → answer = some status) ∧
    ∀ answer, event = .reaped answer → (id, status) ∈ answer := by
  refine ⟨?_, ?_, ?_⟩
  · rintro answer rfl
    obtain ⟨moment, between, answered⟩ := right
    rw [answered, found, Option.map_some, between.1.verdict_done done]
  · rintro answer rfl
    obtain ⟨moment, between, answered⟩ := right
    rw [found, Option.map_some, between.1.verdict_done done] at answered
    obtain ⟨status', rfl, same⟩ := Option.map_eq_some_iff.mp answered
    exact congrArg some (JobStatus.done.inj same)
  · rintro answer rfl
    obtain ⟨-, moment, between, rfl⟩ := right
    obtain ⟨before, after, rfl, -⟩ := List.lookup_eq_some_iff.mp found
    refine List.mem_filterMap.mpr ⟨(id, job), by simp, ?_⟩
    exact congrArg (JobTable.ended? id) ((between id).1.verdict_done done)

end JobEvent.IsRight

namespace JobTable

/-- Numbers are given out from one upwards, one after the other. The jobs in a table are those that
    came into it and have not been returned, and each is returned at most once. Whatever happens
    next, what is answered is right for these jobs. Of jobs that have been returned nothing more is
    known, and what was once said to have ended is not said to have ended otherwise. -/
theorem history_right (reports : host.Reports ended) {events : List JobEvent} {state : σ}
    {table : JobTable} (history : History host ended events (state, table)) :
    (inserted events).map (·.1) = List.range' 1 (inserted events).length ∧
    table.ids = ((inserted events).map (·.1)).filter (· ∉ (returned events).map (·.1)) ∧
    ((returned events).map (·.1)).Nodup ∧
    ∀ event state' table', Step host ended (state, table) event (state', table') →
      event.IsRight (ended state) (ended state') (live events) ∧
      (∀ id ∈ (returned events).map (·.1),
        (∀ answer, event = .polled id answer → answer = none) ∧
        (∀ answer, event = .named id answer → answer = none) ∧
        (∀ answer, event = .waited id answer → answer = none)) ∧
      ∀ id status, .polled id (some (.done status)) ∈ events → id ∈ table.ids →
        (∀ answer, event = .polled id answer → answer = some (.done status)) ∧
        (∀ answer, event = .waited id answer → answer = some status) ∧
        (∀ answer, event = .reaped answer → (id, status) ∈ answer) := by
  have kept := history.kept reports
  refine ⟨?_, ?_, kept.once, fun event state' table' step => ?_⟩
  · have length := congrArg List.length kept.numbered
    rw [List.length_map, List.length_range'] at length
    rw [length, kept.numbered]
  · rw [kept.ids_eq, live, List.filter_map]
    rfl
  have right := (kept.step reports step).2
  refine ⟨right, fun id gone => right.of_absent (lookup_of_returned gone), ?_⟩
  intro id status told there
  obtain ⟨job, found, done⟩ := kept.done_of_told told there
  exact right.of_done found done

/-- Here time is a number, a child ends at the time that is its own number, and a look takes a unit
    of time. Two stages end in the wrong order, one job has no children, and one still runs when the
    jobs that have ended are removed. -/
theorem history_right_clock :
    let ended : Nat → Endings := fun now child => if child ≤ now then some (.exited child) else none
    let host : Host Nat := {
      pathExists := fun _ _ => false
      isFile := fun _ _ => false
      isExecutable := fun _ _ => false
      start := fun _ => pure (.error .missing)
      wait := fun child => modifyGet fun now => (.exited child, max now child)
      poll := fun child => modifyGet fun now => (ended now child, now + 1)
      kill := fun _ => pure () }
    let events : List JobEvent := [
      .inserted 1 ⟨"a | b", [3, 1]⟩,
      .inserted 2 ⟨"c", []⟩,
      .polled 1 (some .running),
      .inserted 3 ⟨"d", [9]⟩,
      .elapsed,
      .polled 1 (some (.done ⟨1⟩))]
    let table : JobTable := ⟨3, [
      (1, ⟨"a | b", [⟨3, some ⟨3⟩⟩, ⟨1, some ⟨1⟩⟩]⟩), (2, ⟨"c", []⟩), (3, ⟨"d", [⟨9, none⟩]⟩)]⟩
    let event : JobEvent := .reaped [(1, ⟨1⟩), (2, .success)]
    let table' : JobTable := ⟨3, [(3, ⟨"d", [⟨9, none⟩]⟩)]⟩
    host.Reports ended ∧ History host ended events (6, table) ∧
      Step host ended (6, table) event (7, table') ∧
      event.IsRight (ended 6) (ended 7) (live events) ∧
      (inserted events).map (·.1) = [1, 2, 3] ∧ table.ids = [1, 2, 3] := by
  intro ended host events table event table'
  have later : ∀ now later, now ≤ later → (ended now).Later (ended later) := by
    intro now later before child outcome there
    simp only [ended] at there ⊢
    split at there
    next past => rw [if_pos (past.trans before), there]
    next => exact absurd there.symm (Option.some_ne_none _)
  have reports : host.Reports ended := by
    constructor
    · intro child now
      exact ⟨ended now, ⟨.refl _, later _ _ (Nat.le_succ now)⟩, rfl⟩
    · intro child now
      exact ⟨later _ _ (Nat.le_max_left now child), if_pos (Nat.le_max_right now child)⟩
  let one : JobTable := (JobTable.insert "a | b" [3, 1] {}).2
  let two : JobTable := (one.insert "c" []).2
  let three : JobTable := (two.insert "d" [9]).2
  have running : Step host ended (0, two) (.polled 1 (some .running)) (1, two) := .status rfl
  have done : Step host ended (4, three) (.polled 1 (some (.done ⟨1⟩))) (6, table) := .status rfl
  have history : History host ended events (6, table) :=
    ((((((History.start 0).step (.insert "a | b" [3, 1] 0 {})).step (.insert "c" [] 0 one)).step
      running).step (.insert "d" [9] 1 two)).step (.elapse three (later 1 4 (by decide)))).step done
  have step : Step host ended (6, table) event (7, table') := .reap rfl
  obtain ⟨numbers, ids, -, next⟩ := history_right reports history
  exact ⟨reports, history, step, (next _ _ _ step).1, numbers, ids⟩

end JobTable

end Shell
