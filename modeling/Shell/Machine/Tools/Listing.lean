import Shell.Machine.Tools.Files
import Shell.Machine.Tools.Sort
import Shell.Machine.Utility.Calendar
import Shell.Machine.Script.Pattern

/-! # Listing

The program that lists files: which ones, in which order, what it shows of each, and how it arranges them on lines.
-/

namespace Shell.Machine

namespace Listing

/-- How names are arranged. -/
inductive Layout where
  | oneEach
  | long
  | commas
  | across
  | columns
deriving Repr, DecidableEq, Inhabited

/-- How names are written. -/
inductive Quoting where
  | literal
  | escape
  | c
  | shell
  | shellAlways
deriving Repr, DecidableEq, Inhabited

/-- What goes into the order of files. -/
inductive Order where
  | name
  | none
  | time
  | size
  | ending
  | version
  | width
deriving Repr, DecidableEq, Inhabited

/-- How sizes are written. -/
inductive Units where
  | plain
  | binary
  | decimal
  | block (size : Nat)
deriving Repr, DecidableEq, Inhabited

/-- How a listing is made. -/
structure Style where
  layout : Layout := .oneEach
  quoting : Quoting := .literal
  order : Order := .name
  reversed : Bool := false
  directoriesFirst : Bool := false
  hidden : Bool := false
  /-- Whether the directory itself and the one that it stands in are listed. -/
  dots : Bool := false
  backups : Bool := true
  ignored : List String := []
  hiddenPatterns : List String := []
  /-- Directories are listed as files. -/
  directoriesAsFiles : Bool := false
  recursive : Bool := false
  follows : Bool := false
  followsOperands : Bool := false
  /-- The sorts of files that are marked: `F` marks all, `t` all but programs, `p` only directories. -/
  marks : Option Char := none
  numbers : Bool := false
  blocks : Bool := false
  units : Units := .plain
  owner : Bool := true
  group : Bool := true
  author : Bool := false
  numericOwner : Bool := false
  /-- The formats of times long ago and of times not so long ago. -/
  times : String × String := ("%b %e  %Y", "%b %e %H:%M")
  colors : Bool := false
  width : Nat := 80
  tab : Nat := 8
  last : String := "\n"

/-- Something that is listed. -/
structure Entry where
  path : String
  name : String
  info : Option FileInfo := none
  /-- Where a link leads to. -/
  target : Option String := none
  /-- What is there where a link leads to. -/
  targetInfo : Option FileInfo := none

namespace Entry

def isDirectory (entry : Entry) : Bool :=
  entry.info.any fun info => info.sort = .directory

/-- True for a directory or a link to one. -/
def leadsToDirectory (entry : Entry) : Bool :=
  entry.isDirectory || entry.targetInfo.any fun info => info.sort = .directory

/-- The kilobytes that a file takes up. -/
def kilobytes (entry : Entry) : Nat :=
  match entry.info with
  | none => 0
  | some info =>
    match info.sort with
    | .directory => 4
    | .plain => (info.size + 4095) / 4096 * 4
    | _ => 0

/-- The last ending of the name with its point. -/
def ending (entry : Entry) : String :=
  let parts := entry.name.splitOn "."
  if parts.length ≤ 1 then "" else "." ++ parts.getLastD ""

end Entry

/-! ## Order -/

def compareNames (one other : String) : Ordering :=
  Sort.compareChars one.toList other.toList

/-- Compares files, by their names if nothing else tells them apart. -/
def Order.compare (order : Order) (one other : Entry) : Ordering :=
  let byName := compareNames one.name other.name
  let number (measure : FileInfo → Nat) (entry : Entry) : Nat := (entry.info.map measure).getD 0
  match order with
  | .none => .eq
  | .name => byName
  | .time =>
    (Ord.compare (number FileInfo.modified other) (number FileInfo.modified one)).then byName
  | .size => (Ord.compare (number FileInfo.size other) (number FileInfo.size one)).then byName
  | .ending => (compareNames one.ending other.ending).then byName
  | .version => (Sort.compareNames one.name.toList other.name.toList).then byName
  | .width => (Ord.compare one.name.length other.name.length).then byName

/-- Files in the order in which they are listed. -/
def Style.arrange (style : Style) (entries : List Entry) : List Entry :=
  let sorted := if style.order = .none then entries else entries.mergeSort fun one other =>
    let order := style.order.compare one other
    (if style.reversed then order.swap else order) ≠ .gt
  if style.directoriesFirst then
    let (directories, others) := sorted.partition Entry.leadsToDirectory
    directories ++ others
  else sorted

/-! ## What is shown -/

/-- A size with a unit, rounded up, to one place if that tells more. -/
def withUnit (base : Nat) (letters : List Char) (size : Nat) : String :=
  let rec go : List Char → Nat → String → String
    | [], _, text => text
    | letter :: rest, unit, text =>
      if size < unit then text
      else
        let tenths := (size * 10 + unit - 1) / unit
        let text :=
          if tenths < 100 then toString (tenths / 10) ++ "." ++ toString (tenths % 10)
          else toString ((size + unit - 1) / unit)
        let isOver := base * unit ≤ (size + unit - 1) / unit * unit && !rest.isEmpty
        if isOver then
          go rest (unit * base) ("1.0" ++ String.singleton (rest.headD letter))
        else go rest (unit * base) (text ++ String.singleton letter)
  go letters base (toString size)

/-- A size in bytes as it is shown. -/
def Units.size (units : Units) (size : Nat) : String :=
  match units with
  | .plain => toString size
  | .binary => withUnit 1024 "KMGTPE".toList size
  | .decimal => withUnit 1000 "kMGTPE".toList size
  | .block unit => toString ((size + unit - 1) / unit)

/-- A count of kilobytes as it is shown. -/
def Units.blocks (units : Units) (kilobytes : Nat) : String :=
  match units with
  | .plain => toString kilobytes
  | units => units.size (kilobytes * 1024)

/-- The type and the permissions of a file, in letters. -/
def modeText (info : FileInfo) : String :=
  let kind := match info.sort with
    | .directory => "d"
    | .link => "l"
    | .device => "c"
    | .pipe => "p"
    | .plain => "-"
  kind ++ Permissions.shown info.mode

def Style.mark (style : Style) (info : FileInfo) : String :=
  match style.marks, info.sort with
  | none, _ => ""
  | _, .directory => "/"
  | some 'p', _ => ""
  | _, .link => "@"
  | _, .pipe => "|"
  | some 'F', .plain => if info.mode &&& 0o111 ≠ 0 then "*" else ""
  | _, _ => ""

def Quoting.name (quoting : Quoting) (name : String) : String :=
  let escaped (quotes : Bool) : String :=
    String.join (name.toList.map fun c =>
      if c = '\\' then "\\\\"
      else if c = '"' && quotes then "\\\""
      else if c = ' ' && !quotes then "\\ "
      else if Quote.isVisible c then String.singleton c else Quote.escape c)
  match quoting with
  | .literal => name
  | .escape => escaped false
  | .c => "\"" ++ escaped true ++ "\""
  | .shell => Quote.ifNeeded name
  | .shellAlways => Quote.always name

def colorOf (info : FileInfo) : Option String :=
  let has (bits : Nat) : Bool := info.mode &&& bits = bits
  match info.sort with
  | .directory =>
    some (if has 0o1002 then "30;42" else if has 0o2 then "34;42" else if has 0o1000 then "37;44" else "01;34")
  | .link => some "01;36"
  | .pipe => some "33"
  | .device => some "01;33"
  | .plain =>
    if has 0o4000 then some "37;41" else if has 0o2000 then some "30;43"
    else if info.mode &&& 0o111 ≠ 0 then some "01;32" else none

def colored (color : Option String) (text : String) : String :=
  match color with
  | none => text
  | some color => "\x1b[" ++ color ++ "m" ++ text ++ "\x1b[0m"

/-- The name of a file in its color, and how wide it is. -/
def Style.name (style : Style) (entry : Entry) : String × Nat :=
  let text := style.quoting.name entry.name
  let shown := if style.colors then colored (entry.info.bind colorOf) text else text
  (shown, text.length)

/-- What comes before the names of all files. -/
structure Widths where
  number : Nat
  blocks : Nat
  names : Nat
  size : Nat

/-- The widths that some files need. -/
def Style.widths (style : Style) (entries : List Entry) : Widths :=
  let infos := entries.filterMap Entry.info
  let widest (texts : List String) : Nat := (texts.map String.length).foldl max 0
  { number := widest (infos.map fun info => toString info.id)
    blocks := widest (entries.map fun entry => style.units.blocks entry.kilobytes)
    names := widest (infos.map fun info => toString info.names)
    size := widest (infos.map fun info => style.units.size info.size) }

/-- The number and the size that come before a name. -/
def Style.front (style : Style) (widths : Option Widths) (entry : Entry) : String :=
  let number := if !style.numbers then ""
    else
      let text := (entry.info.map fun info => toString info.id).getD "?"
      Numeral.padLeft ((widths.map Widths.number).getD 0) ' ' text ++ " "
  let blocks := if !style.blocks then ""
    else Numeral.padLeft ((widths.map Widths.blocks).getD 0) ' ' (style.units.blocks entry.kilobytes) ++ " "
  number ++ blocks

/-- The time at which a file was changed, as it is shown. So long is not so long ago: half a year. -/
def Style.time (style : Style) (now : Nat) (info : FileInfo) : String :=
  let halfYear := 15778476000000
  let isRecent := info.modified ≤ now && now < info.modified + halfYear
  let moment : Calendar.Moment :=
    { seconds := (info.modified / 1000000 : Nat), nanos := info.modified % 1000000 * 1000 }
  Calendar.format (if isRecent then style.times.2 else style.times.1) moment

/-- What a file is listed as in a line of its own that tells much. -/
def Style.longLine (style : Style) (now : Nat) (widths : Widths) (entry : Entry) : String :=
  let (name, _) := style.name entry
  match entry.info with
  | none => style.front (some widths) entry ++ "?????????? ? ? ? ? ? " ++ name
  | some info =>
    let user := if style.numericOwner then "0 " else "root "
    let people := (if style.owner then user else "") ++ (if style.group then user else "") ++
      (if style.author then user else "")
    let mark := match entry.target with
      | none => style.mark info
      | some target =>
        let text := style.quoting.name target
        let shown := if style.colors then colored (entry.targetInfo.bind colorOf) text else text
        " -> " ++ shown ++ (entry.targetInfo.map style.mark).getD ""
    style.front (some widths) entry ++ modeText info ++ " " ++
      Numeral.padLeft widths.names ' ' (toString info.names) ++ " " ++ people ++
      Numeral.padLeft widths.size ' ' (style.units.size info.size) ++ " " ++ style.time now info ++ " " ++ name ++ mark

/-- What a file is listed as beside others, and how wide that is. -/
def Style.item (style : Style) (widths : Option Widths) (entry : Entry) : String × Nat :=
  let front := style.front widths entry
  let (name, width) := style.name entry
  let mark := (entry.info.map style.mark).getD ""
  (front ++ name ++ mark, front.length + width + mark.length)

/-! ## Lines -/

/-- Items in so many columns, which fill up one after another or all at once. -/
def inColumns {α : Type} (across : Bool) (items : List α) (columns : Nat) : List (List α) :=
  let height := (items.length + columns - 1) / columns
  (List.range columns).map fun column =>
    (items.zipIdx.filter fun (_, place) =>
      (if across then place % columns else place / height) = column).map (·.1)

/-- Blanks from one column to another, as tabs where that is possible. -/
def gap (tab : Nat) : Nat → Nat → Nat → String
  | 0, _, _ => ""
  | fuel + 1, start, stop =>
    if stop ≤ start then ""
    else if tab ≠ 0 && (start + 1) / tab < stop / tab then "\t" ++ gap tab fuel (start + tab - start % tab) stop
    else " " ++ gap tab fuel (start + 1) stop

/-- The rows of items in columns, in as few rows as fit. -/
def Style.rows (style : Style) (across : Bool) (items : List (String × Nat)) : List String :=
  let limit := if style.width = 0 then items.foldl (fun sum item => sum + item.2 + 2) 3 else style.width
  let most := max 1 (min items.length (limit / 3))
  let widths (columns : Nat) : List Nat :=
    let columns := inColumns across items columns
    columns.zipIdx.map fun (column, place) =>
      (column.map (·.2)).foldl max 0 + (if place + 1 < columns.length then 2 else 0)
  let fits (columns : Nat) : Bool := (widths columns).foldl (· + ·) 0 < limit
  let columns := (((List.range most).reverse.map (· + 1)).find? fits).getD 1
  let cells := inColumns across items columns
  let height := (cells.map List.length).foldl max 0
  let starts := (widths columns).foldl (fun starts width => starts ++ [starts.getLastD 0 + width]) [0]
  (List.range height).map fun row =>
    let items := (cells.zip starts).filterMap fun (column, start) =>
      (column[row]?).map fun item => (item, start)
    (items.foldl
      (fun (text, reached) ((item, width), start) =>
        (text ++ gap style.tab limit reached start ++ item, start + width))
      ("", 0)).1

/-- Items with commas between them, in lines that are not too long. -/
def commaRows (width : Nat) : String → Nat → List (String × Nat) → String
  | line, _, [] => if line.isEmpty then "" else line ++ "\n"
  | line, length, (item, size) :: rest =>
    let (ended, size) := if rest.isEmpty then (item, size) else (item ++ ",", size + 1)
    let own := if rest.isEmpty then size else size - 1
    if line.isEmpty then commaRows width ended size rest
    else if width = 0 || length + 1 + own < width then
      commaRows width (line ++ " " ++ ended) (length + 1 + size) rest
    else line ++ "\n" ++ commaRows width ended size rest

def Style.lines (style : Style) (now : Nat) (entries : List Entry) : String :=
  let widths := style.widths entries
  let items (widths : Option Widths) : List (String × Nat) := entries.map (style.item widths)
  let ended (rows : List String) : String := String.join (rows.map (· ++ style.last))
  match style.layout with
  | .long => ended (entries.map (style.longLine now widths))
  | .commas => commaRows style.width "" 0 (items none)
  | .across => ended (style.rows true (items (some widths)))
  | .columns => ended (style.rows false (items (some widths)))
  | .oneEach => ended ((items (some widths)).map (·.1))

/-! ## Options -/

def options : List String :=
  ["a,all", "A,almost-all", "l,", "1,", "d,directory", "R,recursive", "r,reverse", "t,", "S,",
    "F,classify,?", "p,", "i,inode", "U,", "f,", "h,human-readable", "n,numeric-uid-gid", "g,",
    "o,", "s,size", "c,", "u,", "C,", "x,", "m,", "q,hide-control-chars", "N,literal", "L,dereference",
    "H,dereference-command-line", "G,no-group", ",color,?", ",full-time", "B,ignore-backups", "X,", "v,",
    "k,kibibytes", "Q,quote-name", "b,escape", ",group-directories-first", ",sort,:", ",time,:", ",format,:",
    ",time-style,:", ",indicator-style,:", ",quoting-style,:", ",file-type", "I,ignore,:", ",hide,:", "w,width,:",
    "T,tabsize,:", ",author", ",si", ",block-size,:", ",zero", ",show-control-chars", "D,dired", "Z,context",
    ",dereference-command-line-symlink-to-dir", ",hyperlink,?"]

/-- The words that options may be given, and what each stands for. -/
def choices : List (String × List (String × String)) := [
  ("sort", [("none", "U"), ("time", "t"), ("size", "S"), ("extension", "X"), ("version", "v"), ("width", "width")]),
  ("format", [("verbose", "l"), ("long", "l"), ("commas", "m"), ("horizontal", "x"), ("across", "x"),
    ("vertical", "C"), ("single-column", "1")]),
  ("indicator-style", [("none", "none"), ("slash", "p"), ("file-type", "file-type"), ("classify", "F")]),
  ("quoting-style", [("literal", "N"), ("shell", "shell"), ("shell-always", "shell-always"),
    ("shell-escape", "shell"), ("shell-escape-always", "shell-always"), ("c", "Q"), ("escape", "b")])]

def colorTerminals : List String := [
  "Eterm", "ansi", "*color*", "con[0-9]*x[0-9]*", "cons25", "console", "cygwin", "*direct*", "dtterm", "gnome", "hurd",
  "jfbterm", "konsole", "kterm", "linux", "linux-c", "mlterm", "putty", "rxvt*", "screen*", "st", "terminator",
  "tmux*", "vt100", "xterm*"]

/-- The format of times that a style stands for, for times long ago and for others. -/
def timeFormats? (text : String) : Option (String × String) :=
  let text := if text.startsWith "posix-" then "locale" else text
  match text with
  | "full-iso" => some ("%Y-%m-%d %H:%M:%S.%N %z", "%Y-%m-%d %H:%M:%S.%N %z")
  | "long-iso" => some ("%Y-%m-%d %H:%M", "%Y-%m-%d %H:%M")
  | "iso" => some ("%Y-%m-%d ", "%m-%d %H:%M")
  | "locale" => some ("%b %e  %Y", "%b %e %H:%M")
  | text =>
    if !text.startsWith "+" then none
    else
      match (text.drop 1).toString.splitOn "\n" with
      | [one] => some (one, one)
      | one :: other :: _ => some (one, other)
      | [] => none

def Style.with (style : Style) (name value : String) : Style :=
  match name with
  | "a" => { style with hidden := true, dots := true }
  | "A" => { style with hidden := true, dots := false }
  | "f" => { style with hidden := true, dots := true, order := .none, colors := false }
  | "B" => { style with backups := false }
  | "I" => { style with ignored := value :: style.ignored }
  | "hide" => { style with hiddenPatterns := value :: style.hiddenPatterns }
  | "d" => { style with directoriesAsFiles := true }
  | "R" => { style with recursive := true }
  | "r" => { style with reversed := true }
  | "t" => { style with order := .time }
  | "S" => { style with order := .size }
  | "X" => { style with order := .ending }
  | "v" => { style with order := .version }
  | "U" => { style with order := .none }
  | "width" => { style with order := .width }
  | "group-directories-first" => { style with directoriesFirst := true }
  | "l" => { style with layout := .long }
  | "1" => if style.layout = .long then style else { style with layout := .oneEach }
  | "m" => { style with layout := .commas }
  | "x" => { style with layout := .across }
  | "C" => { style with layout := .columns }
  | "g" => { style with layout := .long, owner := false }
  | "o" => { style with layout := .long, group := false }
  | "G" => { style with group := false }
  | "n" => { style with layout := .long, numericOwner := true }
  | "author" => { style with author := true }
  | "full-time" =>
    { style with layout := .long, times := ("%Y-%m-%d %H:%M:%S.%N %z", "%Y-%m-%d %H:%M:%S.%N %z") }
  | "F" => { style with marks := if ["", "always", "yes", "force"].contains value then some 'F' else style.marks }
  | "p" => { style with marks := some 'p' }
  | "file-type" => { style with marks := some 't' }
  | "none" => { style with marks := none }
  | "i" => { style with numbers := true }
  | "s" => { style with blocks := true }
  | "h" => { style with units := .binary }
  | "si" => { style with units := .decimal }
  | "k" => { style with units := .plain }
  | "L" => { style with follows := true }
  | "H" => { style with followsOperands := true }
  | "N" => { style with quoting := .literal }
  | "b" => { style with quoting := .escape }
  | "Q" => { style with quoting := .c }
  | "shell" => { style with quoting := .shell }
  | "shell-always" => { style with quoting := .shellAlways }
  | "zero" => { style with layout := if style.layout = .long then .long else .oneEach, last := "\x00" }
  | "color" => { style with colors := ["", "always", "yes", "force"].contains value }
  | _ => style

end Listing

namespace ToolM

open Listing

/-- The number that an option is given. -/
def listingNumber (arguments : Arguments) (name what : String) (default : Nat) : ToolM Nat := do
  match arguments.value? name with
  | none => return default
  | some text =>
    match text.toNat? with
    | some value => return value
    | none => fail 2 ("invalid " ++ what ++ ": " ++ Quote.text text)

def listingStyle (arguments : Arguments) : ToolM Style := do
  let mut style : Style := {}
  for option in arguments.options do
    match choices.lookup option.name with
    | none => style := style.with option.name option.value
    | some words =>
      match words.filter fun word => word.1.startsWith option.value with
      | [] =>
        report ("invalid argument " ++ Quote.text option.value ++ " for " ++ Quote.text ("--" ++ option.name))
        explainChoices (words.map (·.1))
        advise 2
      | (_, name) :: _ => style := style.with name ""
  match arguments.value? "time-style" with
  | none => pure ()
  | some text =>
    match timeFormats? text with
    | some times => style := { style with times }
    | none =>
      report ("invalid argument " ++ Quote.text text ++ " for 'time style'")
      advise 2
  match arguments.value? "block-size" with
  | none => pure ()
  | some text =>
    match countFrom? text with
    | some { count, .. } => if count ≠ 0 then style := { style with units := .block count }
    | none => pure ()
  -- Colors are for those who have said which ones, or whose terminal has some.
  let hasColors ← ["LS_COLORS", "COLORTERM"].anyM fun name => do return ((← setting? name).getD "") ≠ ""
  let terminal := (← setting? "TERM").getD ""
  let isKnown := colorTerminals.any fun pattern => Wildcard.fits pattern terminal
  return { style with
    colors := style.colors && (hasColors || isKnown)
    width := ← listingNumber arguments "w" "line width" 80
    tab := ← listingNumber arguments "T" "tab size" 8 }

/-- Something to be listed, with what there is to know about it. -/
def listingEntry (style : Style) (path name : String) : ToolM Entry := do
  let info ← if style.follows then
      match ← inspect? path true with
      | some info => pure (some info)
      | none => inspect? path false
    else inspect? path false
  match info with
  | some { sort := .link, .. } =>
    let target ← match ← ask (.readLink path) with
      | .ok target => pure (some target)
      | .error _ => pure none
    return { path, name, info, target, targetInfo := ← inspect? path true }
  | info => return { path, name, info }

/-- Writes files as a listing. -/
def printListing (style : Style) (entries : List Entry) : ToolM Unit := do
  let now : Nat ← ask .clock
  let text := style.lines now (style.arrange entries)
  -- Colors begin with their being reset once.
  let isFirst := style.colors && !(← get).pending.contains '\x1b'
  let parts := text.splitOn "\x1b["
  print (if isFirst && 1 < parts.length then
    (parts.headD "") ++ "\x1b[0m\x1b[" ++ "\x1b[".intercalate (parts.drop 1) else text)

def isListed (style : Style) (name : String) : Bool :=
  let fits (pattern : String) : Bool := Wildcard.fitsName pattern name
  (style.hidden || !name.startsWith ".") && (style.backups || !name.endsWith "~") &&
    !style.ignored.any fits && (style.hidden || !style.hiddenPatterns.any fits)

/-- Lists directories, after each that is listed those in it if that is asked for. -/
def listDirectories (style : Style) (withNames : Bool) : Nat → Bool → List String → ToolM Unit
  | 0, _, _ => return
  | _, _, [] => return
  | fuel + 1, isFirst, path :: rest => do
    match ← ask (.list path) with
    | .error error =>
      modify fun tool => { tool with status := 2 }
      report ("cannot open directory " ++ Quote.always path ++ ": " ++ error.text)
      listDirectories style withNames fuel isFirst rest
    | .ok names =>
      if !isFirst then print "\n"
      if withNames then print (path ++ ":\n")
      let names := (if style.dots then [".", ".."] else []) ++ names.filter (isListed style)
      let entries ← names.mapM fun name => listingEntry style (inside path name) name
      if style.layout = .long || style.blocks then
        let total := (entries.map Entry.kilobytes).foldl (· + ·) 0
        print ("total " ++ style.units.blocks total ++ "\n")
      printListing style entries
      if style.recursive then
        let inner := (style.arrange entries).filter fun entry =>
          entry.name ≠ "." && entry.name ≠ ".." && entry.isDirectory
        listDirectories style withNames fuel false (inner.map Entry.path ++ rest)
      else listDirectories style withNames fuel false rest

/-- Lists files and what is in directories. -/
def ls : ToolM Unit := do
  let arguments ← readArguments 2 false Listing.options
  let style ← listingStyle arguments
  let operands := if arguments.operands.isEmpty then ["."] else arguments.operands
  let followsDirectories := style.layout ≠ .long && !style.directoriesAsFiles && style.marks ≠ some 'F'
  let mut files := []
  let mut directories := []
  for path in operands do
    let follows := style.follows || style.followsOperands
    match ← ask (.inspect path (follows || followsDirectories)) with
    | .ok info =>
      let entry ← listingEntry { style with follows } path path
      if info.sort = .directory && !style.directoriesAsFiles then directories := { entry with info } :: directories
      else files := entry :: files
    | .error error =>
      match ← inspect? path false with
      | some _ => files := (← listingEntry style path path) :: files
      | none =>
        modify fun tool => { tool with status := 2 }
        report ("cannot access " ++ Quote.always path ++ ": " ++ error.text)
  printListing style files.reverse
  let sorted := style.arrange directories.reverse
  let withNames := 1 < operands.length || style.recursive
  listDirectories style withNames patience files.isEmpty (sorted.map Entry.path)

end ToolM

end Shell.Machine
