import Mathlib.Logic.Relation
import Shell.Proofs.Token.Cursor

/-! # Every order of hand-overs

The replies that have been given and those of a stream which has at hand what is still to be handed over
are the same before and after each step of the two parties. Each step brings them nearer to where neither
can go on, and they stop nowhere else than at the end of the script.
-/

namespace Shell

open Scan

/-- Streams that have ended and differ only in what they have at hand. -/
def TokenStream.EndedAlike {σ : Type} (first second : TokenStream σ) : Prop :=
  (second.finished || second.cancelled) = true ∧ ∃ pending, first = { second with pending }

theorem TokenStream.replies_of_spent {σ : Type} {stream : TokenStream σ}
    (spent : (stream.finished || stream.cancelled) = true)
    (pending : List (Except ScanError Item)) (script : List (StreamOp σ)) :
    replies script { stream with pending } = replies script stream := by
  refine StreamOp.replies_congr EndedAlike ?_ ?_ script ⟨spent, pending, rfl⟩
  · rintro _ stream ⟨spent, pending, rfl⟩ op
    cases op with
    | pull =>
        simp only [perform, next, spent, if_true, true_and]
        exact ⟨rfl, pending, rfl⟩
    | setOptions | setHook => exact ⟨rfl, spent, pending, rfl⟩
    | cancel => exact ⟨rfl, rfl, pending, rfl⟩
    | requestCancel => exact ⟨rfl, Bool.or_true _, pending, rfl⟩
  · rintro _ stream ⟨-, pending, rfl⟩
    rfl

namespace Handover

variable {σ : Type} {state next : State σ}

/-- What has not been handed over. -/
def Producer.ahead : Producer → List (Except ScanError Item)
  | .scanning left => left
  | .holding found left | .offering found left => found :: left
  | .gone => []

namespace State

def stream (state : State σ) : TokenStream σ :=
  { pending := state.producer.ahead
    options := state.options
    hook := state.hook
    memory := state.memory
    finished := state.finished
    cancelled := state.cancelled }

/-- The replies that are still to come. -/
def remaining (state : State σ) : List Reply :=
  match state.consumer with
  | .ready => state.stream.replies state.script
  | .receiving =>
    let (handed, stream) := state.stream.pull state.producer.ahead
    ⟨handed, stream.finished⟩ :: stream.replies state.script
  | .closing | .joining => ⟨none, state.finished⟩ :: state.stream.replies state.script

/-- The replies that have been given and those to come. -/
def outcome (state : State σ) : List Reply :=
  state.replies ++ state.remaining

/-- What the parties know of each other. -/
structure Sound (state : State σ) : Prop where
  receiving : state.consumer = .receiving → (state.finished || state.cancelled) = false
  closing : state.consumer = .closing → state.cancelled = true
  joining : state.consumer = .joining → state.connected = false
  disconnected : state.connected = false → state.cancelled = true

theorem outcome_gone (sound : state.Sound) (cancelled : state.cancelled = true) :
    { state with producer := .gone }.outcome = state.outcome := by
  have same : { state with producer := .gone }.stream.replies state.script =
      state.stream.replies state.script :=
    state.stream.replies_of_spent (by simp [stream, cancelled]) [] state.script
  cases consumer : state.consumer with
  | receiving => simpa [cancelled] using sound.receiving consumer
  | ready =>
      simp only [outcome, remaining, consumer]
      exact congrArg (state.replies ++ ·) same
  | closing | joining =>
      simp only [outcome, remaining, consumer]
      exact congrArg (state.replies ++ ⟨none, state.finished⟩ :: ·) same

theorem outcome_reply (handed : Option (Except ScanError Item)) (state : State σ) :
    (state.reply handed).outcome =
      state.replies ++ ⟨handed, state.finished⟩ :: state.stream.replies state.script :=
  List.append_assoc state.replies [_] _

theorem outcome_begin {op : StreamOp σ} {script : List (StreamOp σ)} (ready : state.consumer = .ready)
    (first : state.script = op :: script) :
    ({ state with script }.begin op).outcome = state.outcome := by
  have before : state.outcome = state.replies ++ state.stream.replies (op :: script) := by
    simp only [outcome, remaining, ready, first]
  rw [before]
  cases op with
  | pull =>
      cases spent : state.finished || state.cancelled with
      | true =>
          simp [begin, spent, outcome_reply, TokenStream.replies, StreamOp.replies,
            TokenStream.perform, TokenStream.next, stream]
      | false =>
          simp [begin, spent, outcome, remaining, TokenStream.replies, StreamOp.replies,
            TokenStream.perform, TokenStream.next, stream]
  | setOptions options | setHook hook | requestCancel => exact outcome_reply none _
  | cancel => rfl

theorem receive_newline (state : State σ) {found : Except ScanError Item}
    (suppress : state.options.suppressNewlines = true) (newline : isNewline found = true) :
    state.receive found = state := by
  cases found with
  | error error => cases newline
  | ok item =>
      have token : item.token = .newline := by simpa [isNewline] using newline
      simp [receive, token, suppress]

theorem receive_other (state : State σ) {found : Except ScanError Item}
    (other : ¬(state.options.suppressNewlines = true ∧ isNewline found = true)) :
    state.receive found =
      { state with
        memory := (state.stream.present found).2
        finished := isEnd found || state.finished }.reply (some (state.stream.present found).1) := by
  cases found with
  | error error => rfl
  | ok item =>
      by_cases finish : item.token = .finish
      · simp [receive, stream, TokenStream.present, TokenStream.resolve, Item.isPlainWord, isEnd,
          finish]
      · have kept : ¬(item.token = .newline ∧ state.options.suppressNewlines = true) := by
          simpa [isNewline, and_comm] using other
        have unequal : (item.token == .finish) = false := by simpa using finish
        simp [receive, stream, TokenStream.present, isEnd, finish, kept, unequal]

theorem outcome_receive {found : Except ScanError Item} {left : List (Except ScanError Item)}
    (offering : state.producer = .offering found left) (receiving : state.consumer = .receiving) :
    ({ state with producer := .scanning left }.receive found).outcome = state.outcome := by
  by_cases leftOut : state.options.suppressNewlines = true ∧ isNewline found = true
  · rw [receive_newline { state with producer := .scanning left } leftOut.1 leftOut.2]
    simp only [outcome, remaining, receiving, offering, Producer.ahead]
    rw [TokenStream.pull_cons_newline leftOut.1 leftOut.2, TokenStream.pull_eq,
      TokenStream.pull_eq]
    rfl
  · rw [receive_other { state with producer := .scanning left } leftOut, outcome_reply]
    simp only [outcome, remaining, receiving, offering, Producer.ahead]
    rw [TokenStream.pull_cons_other leftOut]
    rfl

/-- No step changes the outcome. -/
theorem outcome_of_step (sound : state.Sound) (step : Step state next) :
    next.outcome = state.outcome := by
  cases step with
  | scan scanning => simp [outcome, remaining, stream, Producer.ahead, scanning]
  | exhaust scanning => simp [outcome, remaining, stream, Producer.ahead, scanning]
  | stop _ cancelled => exact outcome_gone sound cancelled
  | offer holding _ => simp [outcome, remaining, stream, Producer.ahead, holding]
  | refuse _ disconnected => exact outcome_gone sound (sound.disconnected disconnected)
  | handOver offering receiving => exact outcome_receive offering receiving
  | begin ready first => exact outcome_begin ready first
  | disconnect receiving gone =>
      simp only [outcome, remaining, receiving, gone]
      rfl
  | close closing => simp [outcome, remaining, stream, closing]
  | join joining _ =>
      rw [outcome_reply]
      simp only [outcome, remaining, joining]

theorem sound_reply (handed : Option (Except ScanError Item))
    (disconnected : state.connected = false → state.cancelled = true) :
    (state.reply handed).Sound :=
  ⟨nofun, nofun, nofun, disconnected⟩

theorem sound_begin (state : State σ) (disconnected : state.connected = false → state.cancelled = true)
    (op : StreamOp σ) : (state.begin op).Sound := by
  cases op with
  | pull =>
      cases spent : state.finished || state.cancelled with
      | true =>
          simp only [State.begin, spent, if_true]
          exact sound_reply none disconnected
      | false =>
          simp only [State.begin, spent, Bool.false_eq_true, if_false]
          exact ⟨fun _ => spent, nofun, nofun, disconnected⟩
  | setOptions | setHook => exact sound_reply none disconnected
  | cancel => exact ⟨nofun, fun _ => rfl, nofun, fun _ => rfl⟩
  | requestCancel => exact sound_reply none fun _ => rfl

theorem Sound.receive (sound : state.Sound) (found : Except ScanError Item) :
    (state.receive found).Sound := by
  by_cases leftOut : state.options.suppressNewlines = true ∧ isNewline found = true
  · rwa [receive_newline state leftOut.1 leftOut.2]
  · rw [receive_other state leftOut]
    exact sound_reply _ sound.disconnected

/-- A step keeps what the parties know of each other. -/
theorem Sound.step (sound : state.Sound) (step : Step state next) : next.Sound := by
  -- What does not name the producer holds of a state with another producer.
  have other (producer : Producer) : { state with producer }.Sound :=
    ⟨sound.receiving, sound.closing, sound.joining, sound.disconnected⟩
  cases step with
  | scan | exhaust | stop | offer | refuse => exact other _
  | handOver => exact (other _).receive _
  | @begin op script _ _ => exact sound_begin { state with script } sound.disconnected op
  | disconnect => exact ⟨nofun, fun _ => rfl, nofun, fun _ => rfl⟩
  | close closing => exact ⟨nofun, nofun, fun _ => rfl, fun _ => sound.closing closing⟩
  | join => exact sound_reply none sound.disconnected

/-- Where no step is possible, the script has been done. -/
theorem Sound.done_of_stuck (sound : state.Sound) (stuck : ∀ next, ¬Step state next) :
    state.consumer = .ready ∧ state.script = [] := by
  -- The producer waits with an item, or it is gone.
  have waits : (∃ found left, state.producer = .offering found left) ∨ state.producer = .gone := by
    cases producer : state.producer with
    | scanning left =>
        cases left with
        | nil => exact absurd (.exhaust producer) (stuck _)
        | cons => exact absurd (.scan producer) (stuck _)
    | holding found left =>
        cases cancelled : state.cancelled with
        | true => exact absurd (.stop producer cancelled) (stuck _)
        | false => exact absurd (.offer producer cancelled) (stuck _)
    | offering found left => exact .inl ⟨found, left, rfl⟩
    | gone => exact .inr rfl
  cases consumer : state.consumer with
  | ready =>
      cases script : state.script with
      | nil => exact ⟨rfl, rfl⟩
      | cons => exact absurd (.begin consumer script) (stuck _)
  | receiving =>
      obtain ⟨found, left, offering⟩ | gone := waits
      · exact absurd (.handOver offering consumer) (stuck _)
      · exact absurd (.disconnect consumer gone) (stuck _)
  | closing => exact absurd (.close consumer) (stuck _)
  | joining =>
      obtain ⟨found, left, offering⟩ | gone := waits
      · exact absurd (.refuse offering (sound.joining consumer)) (stuck _)
      · exact absurd (.join consumer gone) (stuck _)

end State

def Producer.weight : Producer → Nat
  | .scanning left => 3 * left.length + 1
  | .holding _ left => 3 * left.length + 3
  | .offering _ left => 3 * left.length + 2
  | .gone => 0

/-- How many steps the consumer has before it in an operation, apart from what it leaves out. -/
def Consumer.weight : Consumer → Nat
  | .ready => 0
  | .joining => 1
  | .closing => 2
  | .receiving => 3

/-- A bound on the number of steps. -/
def State.weight (state : State σ) : Nat :=
  state.producer.weight + state.consumer.weight + 4 * state.script.length

namespace State

theorem weight_begin (op : StreamOp σ) (state : State σ) :
    (state.begin op).weight ≤ state.producer.weight + 3 + 4 * state.script.length := by
  cases op with
  | pull =>
      cases spent : state.finished || state.cancelled with
      | true => simp [begin, spent, weight, reply, Consumer.weight]
      | false => simp [begin, spent, weight, Consumer.weight]
  | setOptions | setHook | cancel | requestCancel =>
      simp [weight, begin, reply, Consumer.weight]

theorem weight_receive (found : Except ScanError Item) (state : State σ) :
    (state.receive found).weight ≤ state.weight := by
  by_cases leftOut : state.options.suppressNewlines = true ∧ isNewline found = true
  · exact Nat.le_of_eq (congrArg weight (receive_newline state leftOut.1 leftOut.2))
  · rw [receive_other state leftOut]
    simp [weight, reply, Consumer.weight]

theorem weight_of_step (step : Step state next) : next.weight < state.weight := by
  cases step with
  | scan scanning => simp [weight, scanning, Producer.weight]; omega
  | exhaust scanning => simp [weight, scanning, Producer.weight]
  | stop holding _ | offer holding _ => simp [weight, holding, Producer.weight]
  | refuse offering _ => simp [weight, offering, Producer.weight]
  | @handOver found left offering _ =>
      refine Nat.lt_of_le_of_lt (weight_receive found _) ?_
      simp [weight, offering, Producer.weight]
  | @begin op script ready first =>
      refine Nat.lt_of_le_of_lt (weight_begin op _) ?_
      simp [weight, ready, first, Consumer.weight]
      omega
  | disconnect receiving gone => simp [weight, receiving, gone, Consumer.weight]
  | close closing => simp [weight, closing, Consumer.weight]
  | join joining gone => simp [weight, reply, joining, gone, Consumer.weight]

end State

theorem wellFounded_step : WellFounded fun next state : State σ => Step state next :=
  Subrelation.wf State.weight_of_step (measure State.weight).wf

theorem sound_start (text : String) (options : StreamOptions) (memory : σ)
    (script : List (StreamOp σ)) : (State.start text options memory script).Sound :=
  ⟨nofun, nofun, nofun, nofun⟩

theorem outcome_of_run (sound : state.Sound) (run : Relation.ReflTransGen Step state next) :
    next.Sound ∧ next.outcome = state.outcome := by
  induction run with
  | refl => exact ⟨sound, rfl⟩
  | tail _ step ih => exact ⟨ih.1.step step, (State.outcome_of_step ih.1 step).trans ih.2⟩

/-- In whatever order the two parties take their steps, a run comes to an end, the script is done
    then, and the replies are those of a cursor into the items of the text. -/
theorem replies_in_any_order (text : String) (options : StreamOptions) (memory : σ)
    (script : List (StreamOp σ)) :
    (TokenStream.ofText text options memory).replies script =
        Cursor.replies (scan text) script { options, memory } ∧
      WellFounded (fun next state : State σ => Step state next) ∧
      (∀ state, Relation.ReflTransGen Step (State.start text options memory script) state →
        state.replies <+: Cursor.replies (scan text) script { options, memory } ∧
          ((∀ next, ¬Step state next) →
            state.script = [] ∧
              state.replies = Cursor.replies (scan text) script { options, memory })) ∧
      Terminated (scan text) ∧
      ∀ before later : List (StreamOp σ),
        Cursor.Stands (scan text) before later { options, memory } := by
  have sequential := TokenStream.replies_ofText text options memory script
  refine ⟨sequential, wellFounded_step, ?_, terminated_scan text,
    Cursor.stands (terminated_scan text) options memory⟩
  intro state run
  obtain ⟨sound, same⟩ := outcome_of_run (sound_start text options memory script) run
  have outcome : state.replies ++ state.remaining =
      Cursor.replies (scan text) script { options, memory } := same.trans sequential
  refine ⟨⟨_, outcome⟩, fun stuck => ?_⟩
  obtain ⟨ready, done⟩ := sound.done_of_stuck stuck
  have nothing : state.remaining = [] := by
    simp only [State.remaining, ready, done]
    rfl
  rw [nothing, List.append_nil] at outcome
  exact ⟨done, outcome⟩

theorem replies_in_any_order_noticed :
    ∃ state : State Unit,
      Relation.ReflTransGen Step
        (State.start "\n!" { suppressNewlines := true } () [.pull, .requestCancel, .pull]) state ∧
      (∀ next, ¬Step state next) ∧
      state.replies = [
        ⟨some (.ok { token := .bang, start := ⟨1, 2⟩, value := "!" }), false⟩,
        ⟨none, false⟩, ⟨none, true⟩] := by
  let last : State Unit :=
    { producer := .gone
      cancelled := true
      options := { suppressNewlines := true }
      memory := ()
      finished := true
      script := []
      replies := [
        ⟨some (.ok { token := .bang, start := ⟨1, 2⟩, value := "!" }), false⟩,
        ⟨none, false⟩, ⟨none, true⟩] }
  have run : Relation.ReflTransGen Step
      (State.start "\n!" { suppressNewlines := true } () [.pull, .requestCancel, .pull]) last :=
    .head (.scan rfl) (.head (.offer rfl rfl) (.head (.begin rfl rfl) (.head (.handOver rfl rfl)
      (.head (.scan rfl) (.head (.offer rfl rfl) (.head (.handOver rfl rfl)
      (.head (.begin rfl rfl) (.head (.scan rfl) (.head (.stop rfl rfl)
      (.head (.begin rfl rfl) .refl))))))))))
  have stuck : ∀ next, ¬Step last next := by
    intro next step
    cases step with
    | scan at_hand | exhaust at_hand | stop at_hand _ | offer at_hand _ | refuse at_hand _
    | handOver at_hand _ => cases at_hand
    | begin _ first => cases first
    | disconnect busy _ | close busy | join busy _ => cases busy
  have replied := ((replies_in_any_order "\n!" { suppressNewlines := true } ()
    [.pull, .requestCancel, .pull]).2.2.1 last run).2 stuck
  exact ⟨last, run, stuck, replied.2.trans rfl⟩

end Handover

end Shell
