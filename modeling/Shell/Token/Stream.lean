import Shell.Token.Scan

/-! # Token streams

A stream hands out the items of a scan one at a time. Switches that can be changed between two pulls decide
whether line breaks are left out, reserved words recognised and other plain words offered to a hook.
-/

namespace Shell

/-- What a stream does to the items it hands out. -/
structure StreamOptions where
  /-- Leaves out line breaks. -/
  suppressNewlines : Bool := false
  /-- Turns plain words spelled like reserved words into those. -/
  resolveKeywords : Bool := true
  /-- Offers other plain words to the hook. -/
  resolveAliases : Bool := true
deriving Repr, DecidableEq, Inhabited

/-- Replaces a plain word or leaves it. A hook may remember something of type `σ` between calls. -/
abbrev AliasHook (σ : Type) := Item → σ → Option Item × σ

/-- A stream of items, with what its hook remembers. -/
structure TokenStream (σ : Type) where
  /-- What has not been handed out. -/
  pending : List (Except ScanError Item)
  options : StreamOptions
  hook : Option (AliasHook σ) := none
  memory : σ
  finished : Bool := false
  cancelled : Bool := false

namespace TokenStream

variable {σ : Type}

def ofText (text : String) (options : StreamOptions) (memory : σ) : TokenStream σ :=
  { pending := scan text, options, memory }

/-- Changes the switches for later pulls. -/
def setOptions (options : StreamOptions) (stream : TokenStream σ) : TokenStream σ :=
  { stream with options }

/-- Installs a hook, instead of the one before. -/
def setHook (hook : AliasHook σ) (stream : TokenStream σ) : TokenStream σ :=
  { stream with hook := some hook }

/-- Ends the stream at once. -/
def cancel (stream : TokenStream σ) : TokenStream σ :=
  { stream with finished := true, cancelled := true }

/-- Asks the stream to end, which it does at the next pull. -/
def requestCancel (stream : TokenStream σ) : TokenStream σ :=
  { stream with cancelled := true }

/-- Puts a reserved word or a replacement in the place of a plain word. -/
def resolve (options : StreamOptions) (hook : Option (AliasHook σ)) (item : Item) (memory : σ) :
    Item × σ :=
  if !item.isPlainWord then (item, memory)
  else
    match options.resolveKeywords, Token.ofReserved? item.value with
    | true, some token => ({ item with token }, memory)
    | _, _ =>
      match options.resolveAliases, hook with
      | true, some hook =>
        match hook item memory with
        | (some replacement, memory') => (replacement, memory')
        | (none, memory') => (item, memory')
      | _, _ => (item, memory)

/-- Hands out the next item of a scan that stands behind a stream which has not ended. -/
def pull (stream : TokenStream σ) :
    List (Except ScanError Item) → Option (Except ScanError Item) × TokenStream σ
  | [] => (none, { stream with pending := [], finished := true, cancelled := true })
  | .error error :: rest => (some (.error error), { stream with pending := rest, finished := true })
  | .ok item :: rest =>
    match item.token with
    | .finish => (some (.ok item), { stream with pending := rest, finished := true })
    | .newline =>
      if stream.options.suppressNewlines then pull stream rest
      else (some (.ok item), { stream with pending := rest })
    | _ =>
      let (item', memory) := resolve stream.options stream.hook item stream.memory
      (some (.ok item'), { stream with pending := rest, memory })

/-- Hands out the next item. After the end of the text, an error or a cancellation there is none. -/
def next (stream : TokenStream σ) : Option (Except ScanError Item) × TokenStream σ :=
  if stream.finished || stream.cancelled then (none, { stream with finished := true })
  else pull stream stream.pending

/-- Takes all that a stream hands out, in at most so many pulls. -/
def drain : Nat → TokenStream σ → List (Except ScanError Item)
  | 0, _ => []
  | pulls + 1, stream =>
    match stream.next with
    | (none, _) => []
    | (some item, stream') => item :: drain pulls stream'

/-- Everything that a stream hands out. -/
def toList (stream : TokenStream σ) : List (Except ScanError Item) :=
  stream.drain stream.pending.length

end TokenStream

/-- The tokens of a text, without replacements. The last is the end of the text or an error. -/
def tokenize (text : String) (options : StreamOptions) : List (Except ScanError Item) :=
  (TokenStream.ofText text options ()).toList

/-- The tokens of a text up to its end, or the error that ends it. -/
def tokenizeAll (text : String) (options : StreamOptions) : Except ScanError (List Item) :=
  (tokenize text options).mapM id

end Shell
