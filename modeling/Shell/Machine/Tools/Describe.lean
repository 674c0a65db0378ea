import Shell.Machine.Tools.Listing

/-! # What files are

Programs that tell what is known of files: their sizes, permissions and times, and how much room directories take up.
-/

namespace Shell.Machine

namespace Describe

/-- The number of the device that all files are on. -/
def device : Nat := 64

def kindName (info : FileInfo) : String :=
  match info.sort with
  | .plain => if info.size = 0 then "regular empty file" else "regular file"
  | .directory => "directory"
  | .link => "symbolic link"
  | .device => "character special file"
  | .pipe => "fifo"

/-- The bits that tell the kind of a file, before its permissions. -/
def kindBits (info : FileInfo) : Nat :=
  match info.sort with
  | .plain => 0o100000
  | .directory => 0o040000
  | .link => 0o120000
  | .device => 0o020000
  | .pipe => 0o010000

/-- How much room a file takes up, in blocks of 512 bytes. -/
def blocks (info : FileInfo) : Nat :=
  match info.sort with
  | .plain => (info.size + 4095) / 4096 * 8
  | .directory => 8
  | _ => 0

/-- How a directive is written. -/
structure Field where
  flags : List Char := []
  width : Nat := 0
  precision : Option Nat := none

/-- A text as a directive asks for it. -/
def Field.text (field : Field) (text : String) : String :=
  let text := match field.precision with
    | some count => (text.take count).toString
    | none => text
  if field.flags.contains '-' then Numeral.padRight field.width text else Numeral.padLeft field.width ' ' text

/-- A number as a directive asks for it. -/
def Field.number (field : Field) (base : Nat) (value : Nat) : String :=
  let mark := if !field.flags.contains '#' then "" else if base = 8 then "0" else if base = 16 then "0x" else ""
  let digits := Numeral.padLeft (field.precision.getD 0) '0' (Numeral.inBase base value)
  if field.flags.contains '-' then Numeral.padRight field.width (mark ++ digits)
  else if field.flags.contains '0' then mark ++ Numeral.padLeft (field.width - mark.length) '0' digits
  else Numeral.padLeft field.width ' ' (mark ++ digits)

/-- Seconds with as many places as a directive asks for. -/
def Field.seconds (field : Field) (time : Nat) : String :=
  let whole := toString (time / 1000000)
  let text := match field.precision with
    | none => whole
    | some places =>
      let fraction := Numeral.padLeft 6 '0' (toString (time % 1000000))
      whole ++ "." ++ ((fraction.take places).toString.pushn '0' (places - 6))
  if field.flags.contains '-' then Numeral.padRight field.width text
  else Numeral.padLeft field.width (if field.flags.contains '0' then '0' else ' ') text

def timeText (time : Nat) : String :=
  Calendar.format "%Y-%m-%d %H:%M:%S.%N %z" (ToolM.momentOf time)

def directive (info : FileInfo) (path : String) (target : Option String) (field : Field) (letter : Char) : String :=
  let decimal (value : Nat) : String := field.number 10 value
  match letter with
  | 'a' => field.number 8 info.mode
  | 'A' => field.text (Listing.modeText info)
  | 'b' => decimal (blocks info)
  | 'B' => decimal 512
  | 'd' => decimal device
  | 'D' => field.number 16 device
  | 'f' => field.number 16 (kindBits info ||| info.mode)
  | 'F' => field.text (kindName info)
  | 'g' | 'u' => decimal 0
  | 'G' | 'U' => field.text "root"
  | 'h' => decimal info.names
  | 'i' => decimal info.id
  | 'm' => field.text "/"
  | 'n' => field.text path
  | 'N' =>
    field.text (Quote.always path ++ (target.elim "" fun target => " -> " ++ Quote.always target))
  | 'o' => decimal 4096
  | 's' => decimal info.size
  | 't' | 'T' => field.number 16 (if info.sort = .device then 1 else 0)
  | 'w' => field.text "-"
  | 'W' => decimal 0
  | 'x' | 'y' | 'z' => field.text (timeText info.modified)
  | 'X' | 'Y' | 'Z' => field.seconds info.modified
  | 'C' => field.text "?"
  | _ => "?"

/-- What a format says of a file. -/
def apply (info : FileInfo) (path : String) (target : Option String) (escapes : Bool) : Nat → List Char → String
  | 0, _ => ""
  | _, [] => ""
  | fuel + 1, '%' :: rest =>
    let flags := rest.takeWhile fun c => "'-+ #0I".contains c
    let (width, _, rest) := Numeral.digits 10 9 0 0 (rest.drop flags.length)
    let (precision, rest) := match rest with
      | '.' :: rest =>
        let (value, _, rest) := Numeral.digits 10 9 0 0 rest
        (some value, rest)
      | rest => (none, rest)
    match rest with
    | [] => "%"
    | '%' :: rest => "%" ++ apply info path target escapes fuel rest
    | 'H' :: c :: rest | 'L' :: c :: rest =>
      (if c = 'd' || c = 'r' then "0" else "?") ++ apply info path target escapes fuel rest
    | c :: rest =>
      directive info path target { flags, width, precision } c ++ apply info path target escapes fuel rest
  | fuel + 1, '\\' :: rest =>
    if !escapes then "\\" ++ apply info path target escapes fuel rest
    else
      match Escape.replace { hexadecimal := true, quotes := true } rest with
      | .text text rest => String.ofList text ++ apply info path target escapes fuel rest
      | .cut => ""
  | fuel + 1, c :: rest => String.singleton c ++ apply info path target escapes fuel rest

def fullFormat (info : FileInfo) : String :=
  "  File: %N\n  Size: %-10s\tBlocks: %-10b IO Block: %-6o %F\n" ++
    (if info.sort = .device then "Device: %Hd,%Ld\tInode: %-10i  Links: %-5h Device type: %Hr,%Lr\n"
      else "Device: %Hd,%Ld\tInode: %-10i  Links: %h\n") ++
    "Access: (%04a/%10.10A)  Uid: (%5u/%8U)   Gid: (%5g/%8G)\n" ++
    "Access: %x\nModify: %y\nChange: %z\n Birth: %w\n"

/-- The format that tells most in one line. -/
def shortFormat : String := "%n %s %b %f %u %g %D %i %h %t %T %X %Y %Z %W %o\n"

end Describe

namespace ToolM

/-- Tells what is known of files. -/
def stat : ToolM Unit := do
  let arguments ← readArguments 1 false
    ["c,format,:", ",printf,:", "L,dereference", "f,file-system", "t,terse", ",cached,:"]
  if arguments.operands.isEmpty then missingOperand
  for path in arguments.operands do
    let found ← if path = "-" then ask (.inspectOpen 0) else ask (.inspect path (arguments.has "L"))
    match found with
    | .error error => complain ("cannot statx " ++ Quote.always path ++ ": " ++ error.text)
    | .ok info =>
      let target : Option String ←
        if info.sort = .link then
          match ← ask (.readLink path) with
          | .ok target => pure (some target)
          | .error _ => pure none
        else pure none
      let (format, escapes) := match arguments.last? ["c", "printf"] with
        | some "c" => ((arguments.value? "c").getD "" ++ "\n", false)
        | some _ => ((arguments.value? "printf").getD "", true)
        | none => (if arguments.has "t" then Describe.shortFormat else Describe.fullFormat info, false)
      print (Describe.apply info path target escapes (format.length + 1) format.toList)

/-! ## Room -/

/-- How the room that directories take up is told. -/
structure RoomPlan where
  units : Listing.Units
  /-- Whether lengths count instead of room. -/
  apparent : Bool
  all : Bool
  depth : Option Nat
  /-- Whether directories count without those in them. -/
  separate : Bool
  last : String

/-- An amount of bytes as it is told. -/
def RoomPlan.shown (plan : RoomPlan) (size : Nat) : String :=
  match plan.units with
  | .plain => toString ((size + 1023) / 1024)
  | units => units.size size

/-- Tells how much room a file takes up, and what is in it. The files that were counted are not counted again. -/
def measure (plan : RoomPlan) : Nat → Nat → List FileId → String → ToolM (Nat × List FileId)
  | 0, _, seen, _ => return (0, seen)
  | fuel + 1, level, seen, path => do
    match ← ask (.inspect path false) with
    | .error error =>
      complain ("cannot access " ++ Quote.always path ++ ": " ++ error.text)
      return (0, seen)
    | .ok info =>
      if seen.contains info.id then return (0, seen)
      let own := if plan.apparent then (if info.sort = .device then 0 else info.size)
        else Describe.blocks info * 512
      let isTold := plan.depth.all (level ≤ ·)
      let tell (size : Nat) : ToolM Unit := print (plan.shown size ++ "\t" ++ path ++ plan.last)
      if info.sort = .directory then
        let names ← match ← namesIn path with
          | .ok names => pure names
          | .error error => do
            complain ("cannot read directory " ++ Quote.always path ++ ": " ++ error.text)
            pure []
        let mut total := own
        let mut direct := own
        let mut known := seen
        for name in names do
          let (size, after) ← measure plan fuel (level + 1) known (inside path name)
          known := after
          total := total + size
          if !(← isDirectoryAt (inside path name)) then direct := direct + size
        if isTold then tell (if plan.separate then direct else total)
        return (total, known)
      else
        if (plan.all && isTold) || level = 0 then tell own
        return (own, if 1 < info.names then info.id :: seen else seen)
where
  /-- True when a path is that of a directory. -/
  isDirectoryAt (path : String) : ToolM Bool := do
    return (← inspect? path false).any fun info => info.sort = .directory

/-- Tells how much room files take up. -/
def du : ToolM Unit := do
  let arguments ← readArguments 1 false
    ["a,all", "b,bytes", "c,total", "d,max-depth,:", "h,human-readable", "k,", "m,", "s,summarize", "S,separate-dirs",
      "0,null", ",apparent-size", "B,block-size,:", ",si", "D,dereference-args", "l,count-links", "x,one-file-system",
      ",exclude,:", "L,dereference", "P,no-dereference"]
  let depth ← match arguments.value? "d" with
    | none => pure (if arguments.has "s" then some 0 else none)
    | some text =>
      match text.toNat? with
      | some depth => pure (some depth)
      | none => misuse 1 ("invalid maximum depth " ++ Quote.text text)
  if arguments.has "s" then
    if arguments.has "a" then misuse 1 "cannot both summarize and show all entries"
    match depth with
    | some 0 =>
      if arguments.has "d" then report "warning: summarizing is the same as using --max-depth=0"
    | some depth => misuse 1 ("warning: summarizing conflicts with --max-depth=" ++ toString depth)
    | none => pure ()
  let units : Listing.Units := match arguments.last? ["b", "h", "k", "m", "B", "si"] with
    | some "b" => .block 1
    | some "h" => .binary
    | some "si" => .decimal
    | some "m" => .block 1048576
    | some "B" =>
      match ((arguments.value? "B").getD "").toList with
      | [c] =>
        if c.isAlpha then .block ((multiplier? [c]).getD 1024)
        else .block (max 1 ((String.singleton c).toNat?.getD 1024))
      | chars => .block (max 1 (((countFrom? (String.ofList chars)).map CountFrom.count).getD 1024))
    | _ => .plain
  let plan : RoomPlan := {
    units, depth
    apparent := arguments.has "b" || arguments.has "apparent-size"
    all := arguments.has "a"
    separate := arguments.has "S"
    last := if arguments.has "0" then "\x00" else "\n" }
  let mut total := 0
  let mut seen := []
  for path in if arguments.operands.isEmpty then ["."] else arguments.operands do
    let (size, after) ← measure plan maxDepth 0 seen path
    seen := after
    total := total + size
  if arguments.has "c" then print (plan.shown total ++ "\ttotal" ++ plan.last)

end ToolM

end Shell.Machine
