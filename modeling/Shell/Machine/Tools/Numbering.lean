import Shell.Machine.Regex.Read
import Shell.Machine.Tools.Lines

/-! # Numbering lines

The program that writes numbers before lines. A text may be divided into pages of three sections, and each section has
its own way of numbering.
-/

namespace Shell.Machine

namespace LineNumbers

/-- Which lines of a section are numbered. -/
inductive Style where
  | all
  | filled
  | none
  | matching (regex : Regex)

/-- The style that a text names, or why it names none. -/
def Style.ofText? (text : String) : Option (Except Regex.Fault Style) :=
  match text.toList with
  | 'a' :: _ => some (.ok .all)
  | 't' :: _ => some (.ok .filled)
  | 'n' :: _ => some (.ok .none)
  | 'p' :: pattern =>
    match Regex.read {} (String.ofList pattern) with
    | .ok (regex, _) => some (.ok (.matching regex))
    | .error fault => some (.error fault)
  | _ => Option.none

/-- The sections of a page. -/
inductive Section where
  | header
  | body
  | footer
deriving Repr, DecidableEq, Inhabited

/-- How numbers are written. -/
structure Format where
  width : Nat
  separator : String
  /-- `ln`, `rn` or `rz`: on the left, on the right, or on the right after zeros. -/
  place : String

def Format.number (format : Format) (value : Int) : String :=
  let text := toString value
  let shown :=
    if format.place = "ln" then Numeral.padRight format.width text
    else if format.place = "rz" then
      (if value < 0 then "-" ++ Numeral.padLeft (format.width - 1) '0' (toString value.natAbs)
      else Numeral.padLeft format.width '0' text)
    else Numeral.padLeft format.width ' ' text
  shown ++ format.separator

/-- What stands in the place of a number. -/
def Format.blank (format : Format) : String :=
  "".pushn ' ' (format.width + format.separator.length)

/-- How lines are numbered. -/
structure Plan where
  format : Format
  styles : Section → Style
  first : Int
  step : Int
  /-- So many empty lines in a row count as one. -/
  group : Nat
  /-- The mark that is repeated to begin a section. -/
  mark : List Char
  restarts : Bool

/-- How far the numbering is. -/
structure Progress where
  part : Section := .body
  next : Int
  empties : Nat := 0

def Plan.section? (plan : Plan) (line : List Char) : Option Section :=
  if plan.mark.length < 2 then none
  else if line = plan.mark ++ plan.mark ++ plan.mark then some .header
  else if line = plan.mark ++ plan.mark then some .body
  else if line = plan.mark then some .footer
  else none

def Plan.line (plan : Plan) (progress : Progress) (line : String) : String × Progress :=
  match plan.section? line.toList with
  | some part => ("\n", { progress with part, next := if plan.restarts then plan.first else progress.next })
  | none =>
    let numbered : String × Progress :=
      (plan.format.number progress.next ++ line ++ "\n", { progress with next := progress.next + plan.step })
    let plain : String × Progress := (plan.format.blank ++ line ++ "\n", progress)
    match plan.styles progress.part with
    | .none => plain
    | .filled => if line.isEmpty then plain else numbered
    | .matching regex =>
      if (Regex.find? { text := line.toList.toArray } [regex] 0).isSome then numbered else plain
    | .all =>
      if plan.group ≤ 1 then numbered
      else if !line.isEmpty || progress.empties + 1 = plan.group then
        (numbered.1, { numbered.2 with empties := 0 })
      else (plain.1, { progress with empties := progress.empties + 1 })

end LineNumbers

namespace ToolM

open LineNumbers

/-- Writes numbers before lines. -/
def nl : ToolM Unit := do
  let arguments ← readArguments 1 false
    ["b,body-numbering,:", "d,section-delimiter,:", "f,footer-numbering,:", "h,header-numbering,:",
      "i,line-increment,:", "l,join-blank-lines,:", "n,number-format,:", "p,no-renumber",
      "s,number-separator,:", "v,starting-line-number,:", "w,number-width,:"]
  let style (name default kind : String) : ToolM Style := do
    let text := (arguments.value? name).getD default
    match Style.ofText? text with
    | some (.ok style) => return style
    | some (.error fault) => fail 1 fault.message
    | none => misuse 1 ("invalid " ++ kind ++ " numbering style: " ++ Quote.text text)
  let number (name : String) (default : Int) (least : Option Int) (kind : String) : ToolM Int := do
    match arguments.value? name with
    | none => return default
    | some text =>
      match Numeral.whole? text with
      | some value => if least.all (· ≤ value) then return value
      | none => pure ()
      fail 1 ("invalid " ++ kind ++ ": " ++ Quote.text text)
  let header ← style "h" "n" "header"
  let body ← style "b" "t" "body"
  let footer ← style "f" "n" "footer"
  let first ← number "v" 1 none "starting line number"
  let step ← number "i" 1 none "line number increment"
  let group ← number "l" 1 (some 1) "line number of blank lines"
  let width ← number "w" 6 (some 1) "line number field width"
  let place := (arguments.value? "n").getD "rn"
  if !(["ln", "rn", "rz"].contains place) then
    misuse 1 ("invalid line numbering format: " ++ Quote.text place)
  let mark := ((arguments.value? "d").getD "\\:").toList
  let plan : Plan := {
    format := { width := width.toNat, separator := (arguments.value? "s").getD "\t", place }
    styles := fun
      | .header => header
      | .body => body
      | .footer => footer
    first, step
    group := group.toNat
    mark := if mark.length = 1 then mark ++ [':'] else mark
    restarts := !arguments.has "p" }
  let lines ← allLines '\n' arguments.operands refuseInput
  let mut progress : Progress := { next := first }
  for line in lines do
    let (text, after) := plan.line progress line
    print text
    progress := after

end ToolM

end Shell.Machine
