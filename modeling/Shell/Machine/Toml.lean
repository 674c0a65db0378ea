import Shell.Config
import Shell.Text.Space

/-! # Reading TOML documents

A reader takes what it can from the front of a text and fails where the text is not of its form. A document is a
sequence of lines: values with their keys, and headers that say which table the values after them belong to.
`read?` answers with the entries of the whole document.
-/

namespace Shell.Machine.Toml

open Shell.Toml (Value)

/-! ## Tables that are still read -/

mutual

/-- A table that may still grow. -/
inductive Table where
  /-- `implicit` tables were only mentioned on the way to others, and `dotted` ones by the key of a
      value. -/
  | mk (implicit dotted : Bool) (entries : List (String × Entry))

/-- What a key of such a table stands for. -/
inductive Entry where
  | value (value : Value)
  | table (table : Table)
  /-- The tables of one `[[…]]` header. -/
  | tables (tables : List Table)

end

namespace Table

instance : Inhabited Table := ⟨.mk false false []⟩

/-- A table with a header of its own and nothing in it. -/
def empty : Table := .mk false false []

/-- True when the table was only mentioned on the way to others. -/
def isImplicit : Table → Bool
  | mk implicit _ _ => implicit

/-- True when the table was made by the key of a value. -/
def isDotted : Table → Bool
  | mk _ dotted _ => dotted

/-- The keys of a table with their meanings. -/
def entries : Table → List (String × Entry)
  | mk _ _ entries => entries

def get? (key : String) (table : Table) : Option Entry :=
  table.entries.lookup key

/-- Gives a key its meaning, instead of the one it has. -/
def put (key : String) (entry : Entry) : Table → Table
  | mk implicit dotted entries =>
    if entries.any fun other => other.1 == key then
      mk implicit dotted (entries.map fun other => if other.1 == key then (key, entry) else other)
    else mk implicit dotted (entries ++ [(key, entry)])

/-- Changes the last of some tables. -/
def updateLast (change : Table → Option Table) : List Table → Option (List Table)
  | [] => none
  | [table] => (change table).map fun table => [table]
  | table :: rest => (updateLast change rest).map (table :: ·)

/-- Changes the table at a path, which is made if it is not there. The keys of values (`dotted`) may
    not pass through a table that has a header, and nothing passes through a value. -/
def updateAt (dotted : Bool) (change : Table → Option Table) : List String → Table → Option Table
  | [], table => change table
  | key :: path, table =>
    match table.get? key with
    | none =>
      (updateAt dotted change path (mk true dotted [])).map fun inner => table.put key (.table inner)
    | some (.value _) => none
    | some (.table inner) =>
      if dotted && !inner.isImplicit then none
      else (updateAt dotted change path inner).map fun inner => table.put key (.table inner)
    | some (.tables inner) =>
      (updateLast (updateAt dotted change path) inner).map fun inner => table.put key (.tables inner)

/-- Adds a value under a dotted key, which may not be there yet. -/
def insertValue (path : List String) (key : String) (value : Value) (table : Table) :
    Option Table :=
  table.updateAt true
    (fun inner =>
      if inner.isDotted == path.isEmpty || (inner.get? key).isSome then none
      else some (inner.put key (.value value)))
    path

/-- The entries that a table under a header begins with: none, or those of tables mentioned before. -/
def openHeader (path : List String) (key : String) (root : Table) : Option Table := do
  let parent ← findAt path root
  match parent.get? key with
  | none => return empty
  | some (.table table) =>
    if table.isImplicit && !table.isDotted then return mk false false table.entries else none
  | some _ => none
where
  findAt : List String → Table → Option Table
    | [], table => some table
    | key :: path, table =>
      match table.get? key with
      | none => some empty
      | some (.value _) => none
      | some (.table inner) => findAt path inner
      | some (.tables inner) => inner.getLast?.bind (findAt path)

/-- Puts the table of a `[…]` header in its place. -/
def closeHeader (path : List String) (key : String) (root section_ : Table) : Option Table :=
  root.updateAt false (fun parent => some (parent.put key (.table section_))) path

/-- Adds the table of a `[[…]]` header to those with the same header. -/
def closeArrayHeader (path : List String) (key : String) (root section_ : Table) : Option Table :=
  root.updateAt false
    (fun parent =>
      match parent.get? key with
      | none => some (parent.put key (.tables [section_]))
      | some (.tables others) => some (parent.put key (.tables (others ++ [section_])))
      | some _ => none)
    path

mutual

def toEntries : Table → List (String × Value)
  | mk _ _ entries => entriesToValues entries

/-- Entries that have been read. -/
def entriesToValues : List (String × Entry) → List (String × Value)
  | [] => []
  | (key, entry) :: rest => (key, entryToValue entry) :: entriesToValues rest

def entryToValue : Entry → Value
  | .value value => value
  | .table table => .table (toEntries table)
  | .tables tables => .array (tablesToValues tables)

def tablesToValues : List Table → List Value
  | [] => []
  | table :: rest => .table (toEntries table) :: tablesToValues rest

end

end Table

/-! ## Pieces of text -/

/-- Takes something from the front of a text. -/
abbrev Reader := StateT (List Char) Option

namespace Reader

/-- The next character, which stays where it is. -/
def peek? : Reader (Option Char) := do return (← get).head?

/-- Takes one character that satisfies a condition. -/
def char (accept : Char → Bool) : Reader Char := do
  match ← get with
  | c :: rest =>
    if accept c then
      set rest
      return c
    else failure
  | [] => failure

def exactly (text : String) : Reader Unit := do
  match Text.after? text.toList (← get) with
  | some rest => set rest
  | none => failure

/-- Takes a text if it comes next. -/
def optionally (text : String) : Reader Bool := do
  match Text.after? text.toList (← get) with
  | some rest =>
    set rest
    return true
  | none => return false

/-- Takes as many characters as satisfy a condition. -/
def while_ (accept : Char → Bool) : Reader (List Char) :=
  modifyGet fun text => text.span accept

/-- Takes a given number of characters that satisfy a condition. -/
def times (accept : Char → Bool) : Nat → Reader (List Char)
  | 0 => return []
  | count + 1 => do return (← char accept) :: (← times accept count)

/-- Takes what a reader takes, or nothing where it fails. -/
def attempt? {α : Type} (reader : Reader α) : Reader (Option α) :=
  (some <$> reader) <|> pure none

/-! ## Blanks -/

/-- True for a blank or a tab. -/
def isBlank (c : Char) : Bool := c == ' ' || c == '\t'

def blanks : Reader Unit := discard (while_ isBlank)

/-- A line break. A carriage return alone is none. -/
def newline : Reader Unit := exactly "\n" <|> exactly "\r\n"

/-- True for what may stand in a comment, and between the quotes of a string on one line. -/
def isPlain (c : Char) : Bool := c == '\t' || (0x20 ≤ c.val && c.val != 0x7f)

/-- A comment, if one comes next. -/
def comment : Reader Unit := do
  if ← optionally "#" then discard (while_ isPlain)

/-- The end of a line or of the text. -/
def lineEnd : Reader Unit := do
  blanks
  comment
  if (← get).isEmpty then return
  newline

/-- Blanks, comments and line breaks, on at most so many lines. -/
def gap : Nat → Reader Unit
  | 0 => return
  | lines + 1 => do
    blanks
    comment
    match ← attempt? newline with
    | some _ => gap lines
    | none => return

/-- Blanks, comments and line breaks. -/
def anyGap : Reader Unit := do gap ((← get).length + 1)

/-! ## Strings -/

/-- The value of a hexadecimal digit. -/
def hexValue (c : Char) : Nat :=
  if c.isDigit then c.toNat - '0'.toNat
  else if 'a' ≤ c then c.toNat - 'a'.toNat + 10
  else c.toNat - 'A'.toNat + 10

def isHexDigit (c : Char) : Bool :=
  c.isDigit || ('a' ≤ c && c ≤ 'f') || ('A' ≤ c && c ≤ 'F')

/-- A character given by its number in so many digits. -/
def byNumber (count : Nat) : Reader Char := do
  let number := (← times isHexDigit count).foldl (fun sofar c => sofar * 16 + hexValue c) 0
  if number.isValidChar then return Char.ofNat number else failure

/-- What follows a backslash. -/
def escape : Reader Char := do
  match ← char fun _ => true with
  | 'b' => return '\x08'
  | 't' => return '\t'
  | 'n' => return '\n'
  | 'f' => return '\x0c'
  | 'r' => return '\r'
  | '"' => return '"'
  | '\\' => return '\\'
  | 'u' => byNumber 4
  | 'U' => byNumber 8
  | _ => failure

/-- The rest of a string on one line after its opening quote, in at most so many characters. -/
def basicRest : Nat → Reader (List Char)
  | 0 => failure
  | fuel + 1 => do
    match ← char isPlain with
    | '"' => return []
    | '\\' => return (← escape) :: (← basicRest fuel)
    | c => return c :: (← basicRest fuel)

/-- A string on one line. -/
def basic : Reader (List Char) := do
  exactly "\""
  basicRest ((← get).length + 1)

/-- A string on one line in which nothing is escaped. -/
def literal : Reader (List Char) := do
  exactly "'"
  let content ← while_ fun c => isPlain c && c != '\''
  exactly "'"
  return content

/-- A backslash at the end of a line, which takes away the blanks and breaks up to the next text. -/
def joinLines : Reader Unit := do
  blanks
  newline
  discard (while_ isBlank)
  let text ← get
  set (dropGap text)
where
  dropGap : List Char → List Char
    | '\r' :: '\n' :: rest => dropGap rest
    | c :: rest => if isBlank c || c == '\n' then dropGap rest else c :: rest
    | [] => []

/-- The rest of a string over several lines after its opening quotes. Up to two quotes may stand
    anywhere in it, also right before the closing ones. -/
def longRest (quote : Char) (escapes : Bool) : Nat → Reader (List Char)
  | 0 => failure
  | fuel + 1 => do
    match (← get).head? with
    | none => failure
    | some c =>
      if c == quote then
        let quotes ← while_ (· == quote)
        if quotes.length < 3 then return quotes ++ (← longRest quote escapes fuel)
        else if quotes.length ≤ 5 then return quotes.drop 3
        else failure
      else if c == '\\' && escapes then
        exactly "\\"
        match ← attempt? joinLines with
        | some _ => longRest quote escapes fuel
        | none => return (← escape) :: (← longRest quote escapes fuel)
      else if isPlain c then
        discard (char fun _ => true)
        return c :: (← longRest quote escapes fuel)
      else
        newline
        return '\n' :: (← longRest quote escapes fuel)

/-- A string over several lines. A line break right after the opening quotes does not count. -/
def long (quote : Char) (escapes : Bool) : Reader (List Char) := do
  exactly (String.ofList [quote, quote, quote])
  discard (attempt? newline)
  longRest quote escapes ((← get).length + 1)

def string : Reader String := do
  let content ← long '"' true <|> long '\'' false <|> basic <|> literal
  return String.ofList content

/-! ## Keys -/

/-- True for what may stand in a key without quotes. -/
def isKeyChar (c : Char) : Bool :=
  c.isAlphanum || c == '-' || c == '_'

/-- A key without quotes. -/
def bareKey : Reader (List Char) := do
  let key ← while_ isKeyChar
  if key.isEmpty then failure
  return key

def keyPart : Reader String := do
  blanks
  let part ← basic <|> literal <|> bareKey
  blanks
  return String.ofList part

/-- The parts of a dotted key after its first, at most so many. -/
def keyParts : Nat → Reader (List String)
  | 0 => failure
  | most + 1 => do
    if ← optionally "." then return (← keyPart) :: (← keyParts most) else return []

/-- How many parts a key may have, and how deep values may be nested. -/
def maxDepth : Nat := 79

/-- A dotted key: the path to a table, and the key in that table. -/
def key : Reader (List String × String) := do
  let first ← keyPart
  let parts := first :: (← keyParts maxDepth)
  return (parts.dropLast, parts.getLast?.getD first)

/-! ## Numbers and times -/

/-- Digits, with single underscores between them. -/
def digitGroups (accept : Char → Bool) : Reader (List Char) := do
  let text ← while_ fun c => accept c || c == '_'
  if text.head? == some '_' || text.getLast? == some '_' || text.isEmpty
      || hasDouble text then failure
  return text.filter (· != '_')
where
  hasDouble : List Char → Bool
    | '_' :: '_' :: _ => true
    | _ :: rest => hasDouble rest
    | [] => false

/-- An optional sign. -/
def sign : Reader (List Char) := do
  match ← peek? with
  | some '+' => exactly "+"; return ['+']
  | some '-' => exactly "-"; return ['-']
  | _ => return []

/-- A decimal number without a leading zero, after an optional sign. -/
def decimal : Reader (List Char) := do
  let sign ← sign
  if ← optionally "0" then return sign ++ ['0']
  return sign ++ (← digitGroups Char.isDigit)

def number (base : Nat) (digits : List Char) : Nat :=
  digits.foldl (fun sofar c => sofar * base + hexValue c) 0

/-- The largest integer that fits into 64 bits with a sign. -/
def maxInteger : Nat := 9223372036854775807

/-- An integer after a mark for its base. -/
def based (mark : String) (base : Nat) (accept : Char → Bool) : Reader Value := do
  exactly mark
  let digits ← digitGroups accept
  if number base digits ≤ maxInteger then return .integer (mark ++ String.ofList digits) else failure

/-- A decimal integer, which has to fit into 64 bits. -/
def decimalInteger : Reader Value := do
  let text ← decimal
  let digits := text.filter Char.isDigit
  let most := if text.head? == some '-' then maxInteger + 1 else maxInteger
  if number 10 digits ≤ most then return .integer (String.ofList text) else failure

def integer : Reader Value :=
  based "0x" 16 isHexDigit
    <|> based "0o" 8 (fun c => '0' ≤ c && c ≤ '7')
    <|> based "0b" 2 (fun c => c == '0' || c == '1')
    <|> decimalInteger

/-- True when digits, of which so many stand after the point, with a power of ten are too large for
    a double: when they are at least halfway from the largest one to the power of two after it. -/
def overflows (digits : List Char) (places : Nat) (exponent : Int) : Bool :=
  let digits := digits.dropWhile (· == '0')
  let shift := exponent - places
  let size := digits.length + shift
  if digits.isEmpty || size < 300 then false
  else if 400 < size then true
  else
    let bound := Nat.pow 2 1024 - Nat.pow 2 970
    if 0 ≤ shift then bound ≤ number 10 digits * Nat.pow 10 shift.toNat
    else bound * Nat.pow 10 (-shift).toNat ≤ number 10 digits

/-- The exponent of a floating-point number. -/
def exponent : Reader (List Char) := do
  discard (char fun c => c == 'e' || c == 'E')
  return (← sign) ++ (← digitGroups Char.isDigit)

/-- A floating-point number in digits. A positive one has to be finite. -/
def decimalFloat : Reader Value := do
  let whole ← decimal
  let fraction ← attempt? do
    exactly "."
    digitGroups Char.isDigit
  let power ← if fraction.isSome then attempt? exponent else some <$> exponent
  let fraction := fraction.getD []
  let power := power.getD []
  let size := number 10 (power.filter Char.isDigit)
  let exponent : Int := if power.head? == some '-' then -size else size
  if whole.head? != some '-'
      && overflows (whole.filter Char.isDigit ++ fraction) fraction.length exponent then failure
  return .float (String.ofList (whole ++ '.' :: fraction ++ 'e' :: power))

/-- Infinity or no number. -/
def specialFloat : Reader Value := do
  let sign ← sign
  if ← optionally "inf" then return .float (String.ofList (sign ++ ['i', 'n', 'f']))
  exactly "nan"
  return .float (String.ofList (sign ++ ['n', 'a', 'n']))

/-- A number of so many digits between two others. -/
def bounded (count low high : Nat) : Reader Nat := do
  let value := number 10 (← times Char.isDigit count)
  if low ≤ value && value ≤ high then return value else failure

def daysIn (year month : Nat) : Nat :=
  if month == 2 then
    if year % 4 == 0 && (year % 100 != 0 || year % 400 == 0) then 29 else 28
  else if [4, 6, 9, 11].contains month then 30
  else 31

/-- A day of the calendar. -/
def date : Reader Unit := do
  let year ← bounded 4 0 9999
  exactly "-"
  let month ← bounded 2 1 12
  exactly "-"
  discard (bounded 2 1 (daysIn year month))

def time : Reader Unit := do
  discard (bounded 2 0 23)
  exactly ":"
  discard (bounded 2 0 59)
  exactly ":"
  discard (bounded 2 0 60)
  if ← optionally "." then
    if (← while_ Char.isDigit).isEmpty then failure

/-- The distance of a local time from the universal one. -/
def offset : Reader Unit := do
  match ← char fun c => c == 'Z' || c == 'z' || c == '+' || c == '-' with
  | 'Z' | 'z' => return
  | _ =>
    discard (bounded 2 0 23)
    exactly ":"
    discard (bounded 2 0 59)

/-- A day, a time of day, or both. -/
def moment : Reader Value := do
  let before ← get
  dayAndTime <|> time
  return .moment (String.ofList (before.take (before.length - (← get).length)))
where
  dayAndTime : Reader Unit := do
    date
    discard <| attempt? do
      discard (char fun c => c == 'T' || c == 't' || c == ' ')
      time
      discard (attempt? offset)

/-- A value that holds no others. -/
def scalar : Reader Value := do
  match ← peek? with
  | some '"' | some '\'' => .text <$> string
  | some 't' => exactly "true"; return .flag true
  | some 'f' => exactly "false"; return .flag false
  | _ => moment <|> decimalFloat <|> specialFloat <|> integer

end Reader

/-! ## Documents -/

namespace Reader

/-- Items with commas between them, at most so many, up to a text that closes them. -/
def items {α : Type} (item : Reader α) (lastComma : Bool) (close : Reader Unit) :
    Nat → Reader (List α)
  | 0 => failure
  | most + 1 => do
    let first ← item
    if ← optionally "," then
      if lastComma then
        match ← attempt? close with
        | some _ => return [first]
        | none => return first :: (← items item lastComma close most)
      else return first :: (← items item lastComma close most)
    else
      close
      return [first]

/-- Items with commas between them after an opening bracket, or none. -/
def itemsOrNone {α : Type} (item : Reader α) (lastComma : Bool) (close : Reader Unit) :
    Reader (List α) := do
  match ← attempt? close with
  | some _ => return []
  | none => items item lastComma close ((← get).length + 1)

/-- A value, in which others may be nested so deep. -/
def value : Nat → Reader Value
  | 0 => scalar
  | levels + 1 => do
    match ← peek? with
    | some '[' =>
      exactly "["
      let item := do
        anyGap
        let value ← value levels
        anyGap
        return value
      let close := do
        anyGap
        exactly "]"
      return .array (← itemsOrNone item true close)
    | some '\x7b' =>
      exactly "\x7b"
      let item := do
        let key ← key
        exactly "="
        blanks
        let value ← value levels
        blanks
        return (key, value)
      let close := do
        blanks
        exactly "\x7d"
      let entries ← itemsOrNone item false close
      let add table := fun ((path, key), value) => Table.insertValue path key value table
      match entries.foldlM add Table.empty with
      | some table => return .table table.toEntries
      | none => failure
    | _ => scalar

/-- A line with a key and a value, which go into a table. -/
def entryLine (table : Table) : Reader Table := do
  let (path, key) ← key
  exactly "="
  blanks
  let value ← value maxDepth
  lineEnd
  match table.insertValue path key value with
  | some table => return table
  | none => failure

/-- Where the values of a section go. -/
inductive Header where
  | root
  | table (path : List String) (key : String)
  | tables (path : List String) (key : String)

def headerLine : Reader Header := do
  exactly "["
  if ← optionally "[" then
    let (path, key) ← key
    exactly "]]"
    lineEnd
    return .tables path key
  else
    let (path, key) ← key
    exactly "]"
    lineEnd
    return .table path key

def Header.close (root section_ : Table) : Header → Option Table
  | .root => some section_
  | .table path key => root.closeHeader path key section_
  | .tables path key => root.closeArrayHeader path key section_

def Header.begin (root : Table) : Header → Option Table
  | .root => some Table.empty
  | .table path key => root.openHeader path key
  | .tables _ _ => some Table.empty

/-- The lines of a document, at most so many, given what stands before the section, its header and
    what it holds so far. -/
def lines (root : Table) (header : Header) (section_ : Table) : Nat → Reader Table
  | 0 => failure
  | most + 1 => do
    blanks
    match ← peek? with
    | none =>
      match header.close root section_ with
      | some table => return table
      | none => failure
    | some '#' | some '\n' | some '\r' =>
      lineEnd
      lines root header section_ most
    | some '[' =>
      let next ← headerLine
      match header.close root section_ with
      | none => failure
      | some root =>
        match next.begin root with
        | some section_ => lines root next section_ most
        | none => failure
    | some _ =>
      let section_ ← entryLine section_
      lines root header section_ most

/-- A whole document. A mark for the order of bytes at its beginning does not count. -/
def document : Reader Table := do
  discard (optionally "\ufeff")
  lines .empty .root .empty ((← get).length + 1)

end Reader

/-- The entries of a document, if it is one. -/
def read? (text : String) : Option (List (String × Value)) :=
  (Reader.document.run text.toList).map fun (table, _) => table.toEntries

end Shell.Machine.Toml
