import Shell.Machine.Regex.Read
import Shell.Machine.Tools.Lines

/-! # Programs that turn things round

Records from the last one to the first one, and the characters of lines in reverse. Records end with a separator or
begin with one.
-/

namespace Shell.Machine

namespace Records

/-- What separates records. -/
inductive Separator where
  | text (chars : List Char)
  | matching (regex : Regex)

/-- Where separators stand in a text: for each its start and its stop, the last one first. -/
def places (text : Array Char) (separator : Separator) : Nat → Nat → List Regex.Span
  | 0, _ => []
  | fuel + 1, limit =>
    match lastBefore limit limit with
    | none => []
    | some span => span :: places text separator fuel span.start
where
  /-- The last separator that begins before a place and ends at a limit at the latest. -/
  lastBefore (limit : Nat) : Nat → Option Regex.Span
    | 0 => none
    | start + 1 =>
      let stop? : Option Nat := match separator with
        | .text chars =>
          if start + chars.length ≤ limit && (text.extract start (start + chars.length)).toList = chars then
            some (start + chars.length)
          else none
        | .matching regex =>
          (Regex.matchAt { text := text.extract 0 limit } [regex] start).map fun found => found.span.stop
      match stop? with
      | some stop => some ⟨start, stop⟩
      | none => lastBefore limit start

/-- A text as records from the last one to the first one. -/
def reversed (text : String) (before : Bool) (separator : Separator) : String :=
  let chars := text.toList.toArray
  let spans := places chars separator (chars.size + 1) chars.size
  let cuts := spans.map fun span => if before then span.start else span.stop
  let (parts, limit) := cuts.foldl
    (fun (parts, limit) cut => (String.ofList (chars.extract cut limit).toList :: parts, cut))
    (([] : List String), chars.size)
  String.join (String.ofList (chars.extract 0 limit).toList :: parts).reverse

end Records

namespace ToolM

/-- Writes records from the last one to the first one. -/
def tac : ToolM Unit := do
  let arguments ← readArguments 1 false ["b,before", "r,regex", "s,separator,:"]
  let text := (arguments.value? "s").getD "\n"
  if arguments.has "r" && text.isEmpty then fail 1 "separator cannot be empty"
  let separator : Records.Separator ←
    if arguments.has "r" then
      match Regex.read {} text with
      | .ok (regex, _) => pure (.matching regex)
      | .error fault => fail 1 fault.message
    else pure (.text (if text.isEmpty then ['\x00'] else text.toList))
  for path in if arguments.operands.isEmpty then ["-"] else arguments.operands do
    match ← openInput path with
    | .error error =>
      complain ("failed to open " ++ Quote.always path ++ " for reading: " ++ error.text)
    | .ok descriptor =>
      let (text, error) ← readAll descriptor
      closeInput descriptor
      match error with
      | some error => complain (Quote.ifNeeded path ++ ": read error: " ++ error.text)
      | none => print (Records.reversed text (arguments.has "b") separator)

/-- Writes the characters of each line in reverse. -/
def rev : ToolM Unit := do
  let arguments ← readArguments 1 false []
  let refuse (path : String) (_ : Bool) (error : SystemError) : ToolM Unit :=
    complain ("cannot open " ++ path ++ ": " ++ error.text)
  forInputs arguments.operands refuse fun _ descriptor => do
    let (_, error) ← forLines descriptor newline
      (fun line _ => do
        let body := withoutEnd '\n' line
        let chars := ((Octets.toString? body).getD body).toList.reverse
        let text := Octets.ofString (String.ofList chars)
        print (text ++ (if line.endsWith "\n" then "\n" else ""))
        return (true, ()))
      patience ()
    return error

end ToolM

end Shell.Machine
