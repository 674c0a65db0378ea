import Shell.Token.Stream

/-! # Handing items over

A stream is fed by a producer that scans on its own, beside the consumer that pulls. Items go through a
channel that holds none, so the producer waits with each until it is taken. A flag tells it to stop, and
so does the loss of the other end of the channel. Each look at the flag, each move of an item and each wait
is a step of its own, and the steps of the two parties may come in any order.
-/

namespace Shell

/-- What a consumer may do with a stream. A hook may remember something of type `σ` between calls. -/
inductive StreamOp (σ : Type) where
  | pull
  | setOptions (options : StreamOptions)
  | setHook (hook : AliasHook σ)
  /-- Ends the stream and waits for the producer. -/
  | cancel
  /-- Raises the flag through a handle, and does nothing else. -/
  | requestCancel

/-- What the consumer learns from an operation. -/
structure Reply where
  /-- What a pull hands out. -/
  handed : Option (Except ScanError Item)
  /-- Whether the stream says afterwards that it is finished. -/
  finished : Bool

/-- The replies to operations, given what each hands out and leaves behind. -/
def StreamOp.replies {σ α : Type}
    (perform : StreamOp σ → α → Option (Except ScanError Item) × α) (finished : α → Bool) :
    List (StreamOp σ) → α → List Reply
  | [], _ => []
  | op :: script, state =>
    let (handed, state') := perform op state
    ⟨handed, finished state'⟩ :: replies perform finished script state'

namespace TokenStream

variable {σ : Type}

/-- Does an operation with a stream that has all its items at hand. -/
def perform : StreamOp σ → TokenStream σ → Option (Except ScanError Item) × TokenStream σ
  | .pull, stream => stream.next
  | .setOptions options, stream => (none, stream.setOptions options)
  | .setHook hook, stream => (none, stream.setHook hook)
  | .cancel, stream => (none, stream.cancel)
  | .requestCancel, stream => (none, stream.requestCancel)

/-- The replies of a stream that has all its items at hand. -/
def replies (script : List (StreamOp σ)) (stream : TokenStream σ) : List Reply :=
  StreamOp.replies perform finished script stream

end TokenStream

namespace Handover

/-- What the producer is about to do. -/
inductive Producer where
  /-- To scan the next item, of those that are left. -/
  | scanning (left : List (Except ScanError Item))
  /-- To look at the flag, with an item in its hands. -/
  | holding (found : Except ScanError Item) (left : List (Except ScanError Item))
  /-- To hand an item over, once it is taken. -/
  | offering (found : Except ScanError Item) (left : List (Except ScanError Item))
  /-- Nothing. Its end of the channel is lost. -/
  | gone

/-- What the consumer is about to do. -/
inductive Consumer where
  /-- The next operation. -/
  | ready
  /-- To take an item, in a pull. -/
  | receiving
  /-- To give up its end of the channel, the flag being raised. -/
  | closing
  /-- To see the producer gone. -/
  | joining
deriving DecidableEq

/-- The two parties and what they share. -/
structure State (σ : Type) where
  producer : Producer
  consumer : Consumer := .ready
  /-- The flag that tells the producer to stop. -/
  cancelled : Bool := false
  /-- The consumer still has its end of the channel. -/
  connected : Bool := true
  options : StreamOptions
  hook : Option (AliasHook σ) := none
  memory : σ
  finished : Bool := false
  /-- The operations that have not begun. -/
  script : List (StreamOp σ)
  /-- The replies so far. -/
  replies : List Reply := []

namespace State

variable {σ : Type}

/-- The parties before their first steps. -/
def start (text : String) (options : StreamOptions) (memory : σ) (script : List (StreamOp σ)) :
    State σ :=
  { producer := .scanning (scan text), options, memory, script }

/-- Completes an operation. -/
def reply (handed : Option (Except ScanError Item)) (state : State σ) : State σ :=
  { state with consumer := .ready, replies := state.replies ++ [⟨handed, state.finished⟩] }

/-- Begins an operation. All but a pull from a live stream and a direct cancellation are completed at once. -/
def begin : StreamOp σ → State σ → State σ
  | .pull, state =>
    if state.finished || state.cancelled then reply none { state with finished := true }
    else { state with consumer := .receiving }
  | .setOptions options, state => reply none { state with options }
  | .setHook hook, state => reply none { state with hook := some hook }
  | .cancel, state => { state with finished := true, cancelled := true, consumer := .closing }
  | .requestCancel, state => reply none { state with cancelled := true }

/-- Takes an item in a pull. A line break that is to be left out is followed by another attempt. -/
def receive (found : Except ScanError Item) (state : State σ) : State σ :=
  match found with
  | .error error => reply (some (.error error)) { state with finished := true }
  | .ok item =>
    if item.token = .finish then reply (some (.ok item)) { state with finished := true }
    else if item.token = .newline ∧ state.options.suppressNewlines then state
    else
      let (item', memory) := TokenStream.resolve state.options state.hook item state.memory
      reply (some (.ok item')) { state with memory }

end State

/-- One step of one party, or of both at once. -/
inductive Step {σ : Type} : State σ → State σ → Prop where
  | scan {state : State σ} {found : Except ScanError Item} {left : List (Except ScanError Item)} :
    state.producer = .scanning (found :: left) →
      Step state { state with producer := .holding found left }
  | exhaust {state : State σ} :
    state.producer = .scanning [] → Step state { state with producer := .gone }
  /-- The flag is raised. -/
  | stop {state : State σ} {found : Except ScanError Item} {left : List (Except ScanError Item)} :
    state.producer = .holding found left → state.cancelled = true →
      Step state { state with producer := .gone }
  | offer {state : State σ} {found : Except ScanError Item} {left : List (Except ScanError Item)} :
    state.producer = .holding found left → state.cancelled = false →
      Step state { state with producer := .offering found left }
  /-- There is nobody left to take the item. -/
  | refuse {state : State σ} {found : Except ScanError Item} {left : List (Except ScanError Item)} :
    state.producer = .offering found left → state.connected = false →
      Step state { state with producer := .gone }
  | handOver {state : State σ} {found : Except ScanError Item}
    {left : List (Except ScanError Item)} :
    state.producer = .offering found left → state.consumer = .receiving →
      Step state ({ state with producer := .scanning left }.receive found)
  | begin {state : State σ} {op : StreamOp σ} {script : List (StreamOp σ)} :
    state.consumer = .ready → state.script = op :: script →
      Step state ({ state with script }.begin op)
  /-- The producer is gone, and there is nothing more to take. -/
  | disconnect {state : State σ} :
    state.consumer = .receiving → state.producer = .gone →
      Step state { state with finished := true, cancelled := true, consumer := .closing }
  | close {state : State σ} :
    state.consumer = .closing → Step state { state with connected := false, consumer := .joining }
  | join {state : State σ} :
    state.consumer = .joining → state.producer = .gone → Step state (state.reply none)

end Handover

end Shell
