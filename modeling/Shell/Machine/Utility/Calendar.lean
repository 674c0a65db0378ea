import Shell.Machine.Utility.Numeral

/-! # The calendar

Moments as dates and times of day: which date a day has, how moments are written by a format, and how they are read.
Moments are counted from the beginning of 1970, in the time of Greenwich.
-/

namespace Shell.Machine.Calendar

/-- A date. -/
structure Date where
  year : Int
  month : Nat
  day : Nat
deriving Repr, DecidableEq, Inhabited

/-- A moment: seconds, and billionths of a second after them. -/
structure Moment where
  seconds : Int
  nanos : Nat := 0
deriving Repr, DecidableEq, Inhabited

/-- So many seconds make a day. -/
def daySeconds : Int := 86400

/-- The number of a date, where a month or a day may lie outside of a year or a month. -/
def dayNumber (year month day : Int) : Int :=
  let year := year + (month - 1).fdiv 12
  let month := (month - 1).fmod 12 + 1
  -- Years that begin in March have their additional day at the end.
  let shifted := if month ≤ 2 then year - 1 else year
  let era := shifted.fdiv 400
  let yearOfEra := shifted - era * 400
  let dayOfYear := (153 * (if 2 < month then month - 3 else month + 9) + 2) / 5
  let dayOfEra := yearOfEra * 365 + yearOfEra / 4 - yearOfEra / 100 + dayOfYear
  era * 146097 + dayOfEra - 719468 + (day - 1)

def dateOf (number : Int) : Date :=
  let number := number + 719468
  let era := number.fdiv 146097
  let dayOfEra := number - era * 146097
  let yearOfEra := (dayOfEra - dayOfEra / 1460 + dayOfEra / 36524 - dayOfEra / 146096) / 365
  let dayOfYear := dayOfEra - (365 * yearOfEra + yearOfEra / 4 - yearOfEra / 100)
  let shifted := (5 * dayOfYear + 2) / 153
  let month := if shifted < 10 then shifted + 3 else shifted - 9
  let year := yearOfEra + era * 400
  { year := if month ≤ 2 then year + 1 else year
    month := month.toNat, day := (dayOfYear - (153 * shifted + 2) / 5 + 1).toNat }

namespace Moment

def dayNumber (moment : Moment) : Int := moment.seconds.fdiv daySeconds

def secondOfDay (moment : Moment) : Nat := (moment.seconds.fmod daySeconds).toNat

def date (moment : Moment) : Date := dateOf moment.dayNumber

/-- The day of the week, counted from Sunday. -/
def weekday (moment : Moment) : Nat := ((moment.dayNumber + 4).fmod 7).toNat

/-- The day of the year, counted from zero. -/
def dayOfYear (moment : Moment) : Nat :=
  (moment.dayNumber - Calendar.dayNumber moment.date.year 1 1).toNat

end Moment

def dayNames : List String :=
  ["Sunday", "Monday", "Tuesday", "Wednesday", "Thursday", "Friday", "Saturday"]

def monthNames : List String :=
  ["January", "February", "March", "April", "May", "June", "July", "August", "September", "October",
    "November", "December"]

/-! ## Writing -/

/-- The year that a week belongs to, and its number in that year. Weeks belong where their Thursdays are. -/
def isoWeek (moment : Moment) : Int × Nat :=
  let weekday := (moment.weekday + 6) % 7
  let thursday := moment.dayNumber - weekday + 3
  let year := (dateOf thursday).year
  (year, ((thursday - dayNumber year 1 1) / 7 + 1).toNat)

/-- How a field is written. -/
structure FieldStyle where
  filler : Option Char := none
  /-- Whether nothing is filled up. -/
  bare : Bool := false
  upper : Bool := false
  swapped : Bool := false
  plus : Bool := false
  width : Option Nat := none
  colons : Nat := 0

def FieldStyle.number (style : FieldStyle) (width : Nat) (filler : Char) (value : Int) : String :=
  let filler := style.filler.getD filler
  let digits := toString value.natAbs
  let sign := if value < 0 then "-" else ""
  if style.bare && style.width.isNone then sign ++ digits
  else
    let width := style.width.getD width
    if filler = '0' then sign ++ Numeral.padLeft (width - sign.length) '0' digits
    else Numeral.padLeft width filler (sign ++ digits)

def FieldStyle.text (style : FieldStyle) (text : String) : String :=
  let text := if style.upper then text.toUpper else text
  Numeral.padLeft (style.width.getD 0) (if style.filler = some '0' then '0' else ' ') text

/-- Reads what may stand between the sign and the letter of a field. -/
def fieldStyle : Nat → FieldStyle → List Char → FieldStyle × List Char
  | 0, style, rest => (style, rest)
  | fuel + 1, style, c :: rest =>
    match c with
    | '-' => fieldStyle fuel { style with bare := true } rest
    | '_' => fieldStyle fuel { style with filler := some ' ' } rest
    | '0' => fieldStyle fuel { style with filler := some '0' } rest
    | '+' => fieldStyle fuel { style with filler := some '0', plus := true } rest
    | '^' => fieldStyle fuel { style with upper := true } rest
    | '#' => fieldStyle fuel { style with swapped := true } rest
    | _ =>
      let (width, count, rest) := Numeral.digits 10 9 0 0 (c :: rest)
      let style := if count = 0 then style else { style with width := some width }
      let colons := rest.takeWhile (· = ':')
      ({ style with colons := colons.length }, (rest.drop colons.length).dropWhile fun c => c = 'E' || c = 'O')
  | _, style, [] => (style, [])

def dialHour (hour : Nat) : Nat := if hour % 12 = 0 then 12 else hour % 12

/-- A field of a format, by its letter. Formats that stand for others are given as such. -/
def field (moment : Moment) (style : FieldStyle) (letter : Char) : Option (String ⊕ String) :=
  let date := moment.date
  let second := moment.secondOfDay
  let number (width : Nat) (value : Int) : Option (String ⊕ String) :=
    some (.inl (style.number width '0' value))
  let blank (value : Nat) : Option (String ⊕ String) := some (.inl (style.number 2 ' ' value))
  let text (text : String) : Option (String ⊕ String) :=
    some (.inl (style.text (if style.swapped then text.toUpper else text)))
  let hour := second / 3600
  let dayName := dayNames.getD moment.weekday ""
  let monthName := monthNames.getD (date.month - 1) ""
  let isoYear := (isoWeek moment).1
  match letter with
  | '%' => some (.inl "%")
  | 'n' => some (.inl "\n")
  | 't' => some (.inl "\t")
  | 'a' => text (dayName.take 3).toString
  | 'A' => text dayName
  | 'b' | 'h' => text (monthName.take 3).toString
  | 'B' => text monthName
  | 'C' => number 2 (date.year.fdiv 100)
  | 'd' => number 2 date.day
  | 'e' => blank date.day
  | 'g' => number 2 (isoYear.fmod 100)
  | 'G' => number 4 isoYear
  | 'H' => number 2 hour
  | 'I' => number 2 (dialHour hour)
  | 'j' => number 3 (moment.dayOfYear + 1)
  | 'k' => blank hour
  | 'l' => blank (dialHour hour)
  | 'm' => number 2 date.month
  | 'M' => number 2 (second / 60 % 60 : Nat)
  | 'N' =>
    let digits := Numeral.padLeft 9 '0' (toString moment.nanos)
    let width := style.width.getD 9
    some (.inl ((digits.take width).toString.pushn '0' (width - 9)))
  | 'p' => some (.inl (style.text (
      let half := if hour < 12 then "AM" else "PM"
      if style.swapped then half.toLower else half)))
  | 'P' => some (.inl (style.text (if hour < 12 then "am" else "pm")))
  | 'q' => number 1 ((date.month + 2) / 3 : Nat)
  | 's' => number 1 moment.seconds
  | 'S' => number 2 (second % 60 : Nat)
  | 'u' => number 1 (if moment.weekday = 0 then 7 else moment.weekday)
  | 'w' => number 1 moment.weekday
  | 'U' => number 2 ((moment.dayOfYear + 7 - moment.weekday) / 7 : Nat)
  | 'W' => number 2 ((moment.dayOfYear + 7 - (moment.weekday + 6) % 7) / 7 : Nat)
  | 'V' => number 2 (isoWeek moment).2
  | 'y' => number 2 (date.year.fmod 100)
  | 'Y' => number 4 date.year
  | 'z' =>
    some (.inl (match style.colons with
      | 0 => "+0000"
      | 1 => "+00:00"
      | 2 => "+00:00:00"
      | _ => "+00"))
  | 'Z' => some (.inl (style.text (if style.swapped then "utc" else "UTC")))
  | 'c' => some (.inr "%a %b %e %H:%M:%S %Y")
  | 'D' | 'x' => some (.inr "%m/%d/%y")
  | 'F' => some (.inr "%Y-%m-%d")
  | 'r' => some (.inr "%I:%M:%S %p")
  | 'R' => some (.inr "%H:%M")
  | 'T' | 'X' => some (.inr "%H:%M:%S")
  | _ => none

/-- Writes a moment by a format. A sign that begins no field stands for itself. -/
def formatFrom (moment : Moment) : Nat → List Char → List Char
  | 0, rest => rest
  | _, [] => []
  | fuel + 1, c :: rest =>
    if c ≠ '%' then c :: formatFrom moment fuel rest
    else
      let (style, after) := fieldStyle (rest.length + 1) {} rest
      match after with
      | letter :: after =>
        match field moment style letter with
        | some (.inl text) => text.toList ++ formatFrom moment fuel after
        | some (.inr inner) =>
          let text := String.ofList (formatFrom moment fuel inner.toList)
          (style.text text).toList ++ formatFrom moment fuel after
        | none => '%' :: formatFrom moment fuel rest
      | [] => '%' :: rest

def format (text : String) (moment : Moment) : String :=
  String.ofList (formatFrom moment (text.length + 100) text.toList)

/-! ## Reading -/

/-- A part of the text of a moment. -/
inductive Lexeme where
  | number (sign : Option Char) (digits fraction : String)
  | word (text : String)
  | mark (c : Char)
deriving Repr, DecidableEq, Inhabited

/-- Divides a text into its parts. Text in brackets does not count. -/
def lexemes : Nat → List Char → List Lexeme
  | 0, _ => []
  | _, [] => []
  | fuel + 1, c :: rest =>
    let numberOf (sign : Option Char) (chars : List Char) : List Lexeme :=
      let (digits, rest) := chars.span Char.isDigit
      let (fraction, rest) := match rest with
        | mark :: rest' =>
          if (mark = '.' || mark = ',') && rest'.head?.any Char.isDigit then rest'.span Char.isDigit
          else ([], rest)
        | [] => ([], [])
      .number sign (String.ofList digits) (String.ofList fraction) :: lexemes fuel rest
    if " \t\n\r\x0b\x0c".contains c then lexemes fuel rest
    else if c.isDigit then numberOf none (c :: rest)
    else if c = '+' || c = '-' then
      let after := rest.dropWhile Numeral.isBlank
      if after.head?.any Char.isDigit then numberOf (some c) after else lexemes fuel rest
    else if c.isAlpha then
      let (text, rest) := (c :: rest).span fun c => c.isAlpha || c = '.'
      .word ((String.ofList (text.filter (· ≠ '.'))).toLower) :: lexemes fuel rest
    else if c = '(' then lexemes fuel ((rest.dropWhile (· ≠ ')')).drop 1)
    else .mark c :: lexemes fuel rest

/-- What a text says of a moment. -/
structure Reading where
  epoch : Option Moment := none
  date : Option (Int × Nat × Nat) := none
  /-- Seconds since the day began, and billionths of a second. -/
  time : Option (Nat × Nat) := none
  /-- How many seconds the clocks that are meant are ahead. -/
  zone : Option Int := none
  /-- A day of the week, and which one of those that come. -/
  weekday : Option (Nat × Int) := none
  years : Int := 0
  months : Int := 0
  days : Int := 0
  seconds : Int := 0
  nanos : Int := 0
  isRelative : Bool := false

def valueOf (digits : String) : Nat := digits.toNat?.getD 0

/-- The billionths that the digits after a point stand for. -/
def nanosOf (fraction : String) : Nat :=
  valueOf ((fraction.take 9).toString.pushn '0' (9 - fraction.length))

/-- The year that a text of digits names. Two digits name one of the years around 2000. -/
def yearOf (digits : String) : Int :=
  let value := valueOf digits
  if digits.length = 2 then (if value < 69 then 2000 + value else 1900 + value) else value

/-- The number of a month by its name or the beginning of it. -/
def monthOf? (word : String) : Option Nat :=
  let names := monthNames.map String.toLower
  let found := names.zipIdx.find? fun (name, _) =>
    name = word || (name.take 3).toString = word || (word = "sept" && name = "september")
  found.map fun (_, place) => place + 1

/-- The number of a day of the week by its name or the beginning of it. -/
def weekdayOf? (word : String) : Option Nat :=
  let word := match word with
    | "tues" => "tue"
    | "wednes" => "wed"
    | "thur" | "thurs" => "thu"
    | word => word
  let names := dayNames.map String.toLower
  (names.zipIdx.find? fun (name, _) => name = word || (name.take 3).toString = word).map (·.2)

def ordinal? (word : String) : Option Int :=
  match word with
  | "last" => some (-1)
  | "this" => some 0
  | "next" => some 1
  | "first" => some 1
  | "third" => some 3
  | "fourth" => some 4
  | "fifth" => some 5
  | "sixth" => some 6
  | "seventh" => some 7
  | "eighth" => some 8
  | "ninth" => some 9
  | "tenth" => some 10
  | "eleventh" => some 11
  | "twelfth" => some 12
  | _ => none

/-- Adds so many units to what is said of a moment. -/
def Reading.addUnit (reading : Reading) (count : Int) (fraction : Nat) (unit : String) : Option Reading :=
  let unit := if unit.endsWith "s" then (unit.dropEnd 1).toString else unit
  let reading := { reading with isRelative := true }
  match unit with
  | "year" => some { reading with years := reading.years + count }
  | "month" => some { reading with months := reading.months + count }
  | "fortnight" => some { reading with days := reading.days + 14 * count }
  | "week" => some { reading with days := reading.days + 7 * count }
  | "day" => some { reading with days := reading.days + count }
  | "hour" => some { reading with seconds := reading.seconds + 3600 * count }
  | "minute" | "min" => some { reading with seconds := reading.seconds + 60 * count }
  | "second" | "sec" =>
    some { reading with
      seconds := reading.seconds + count
      nanos := reading.nanos + (if count < 0 then -(fraction : Int) else fraction) }
  | _ => none

/-- What is said of a moment, the other way round. -/
def Reading.reversed (reading : Reading) : Reading :=
  { reading with
    years := -reading.years, months := -reading.months, days := -reading.days, seconds := -reading.seconds
    nanos := -reading.nanos }

/-- How far the clocks of a zone are ahead. -/
def zoneOf? (word : String) : Option Int :=
  [("utc", 0), ("gmt", 0), ("ut", 0), ("z", 0), ("est", -18000), ("edt", -14400), ("cst", -21600),
    ("cdt", -18000), ("mst", -25200), ("mdt", -21600), ("pst", -28800), ("pdt", -25200), ("cet", 3600),
    ("cest", 7200), ("bst", 3600), ("jst", 32400), ("eet", 7200), ("msk", 10800), ("ist", 19800)].lookup word

/-- A number with a sign as the distance of a zone. -/
def zoneShift (sign : Char) (digits : String) (minutes : Option Nat) : Int :=
  let value := valueOf digits
  let total := match minutes with
    | some minutes => value * 60 + minutes
    | none => if digits.length ≤ 2 then value * 60 else value / 100 * 60 + value % 100
  (if sign = '-' then -1 else 1) * (total * 60 : Nat)

/-- Reads what may come after a time of day: which half of the day, and the zone. -/
def afterTime (reading : Reading) (hour minute second nanos : Nat) (rest : List Lexeme) :
    Option (Reading × List Lexeme) := do
  let (hour, rest) ← match rest with
    | .word "am" :: rest => if 1 ≤ hour && hour ≤ 12 then some (hour % 12, rest) else none
    | .word "pm" :: rest => if 1 ≤ hour && hour ≤ 12 then some (hour % 12 + 12, rest) else none
    | rest => if hour < 24 || (hour = 24 && minute = 0 && second = 0) then some (hour, rest) else none
  if 60 ≤ minute || 60 < second then none
  let reading := { reading with time := some (hour * 3600 + minute * 60 + second, nanos) }
  match rest with
  | .number (some sign) hours "" :: .mark ':' :: .number none minutes "" :: rest =>
    return ({ reading with zone := some (zoneShift sign hours (some (valueOf minutes))) }, rest)
  | .number (some sign) digits "" :: rest =>
    if digits.length ≤ 4 then return ({ reading with zone := some (zoneShift sign digits none) }, rest)
    else none
  | rest => return (reading, rest)

/-- Says the date of a moment. -/
def Reading.withDate (reading : Reading) (year : Int) (month day : Nat) : Option Reading :=
  if reading.date.isSome || month = 0 || 12 < month || day = 0 || 31 < day then none
  else some { reading with date := some (year, month, day) }

/-- Reads one item of the text of a moment. `now` is the current year. -/
def item (now : Int) (reading : Reading) : List Lexeme → Option (Reading × List Lexeme)
  | [] => none
  | .mark '@' :: .number sign digits fraction :: rest =>
    let seconds : Int := valueOf digits
    let nanos := nanosOf fraction
    let moment : Moment :=
      if sign = some '-' then
        (if nanos = 0 then { seconds := -seconds } else { seconds := -seconds - 1, nanos := 1000000000 - nanos })
      else { seconds, nanos }
    some ({ reading with epoch := some moment }, rest)
  | .mark ',' :: rest => some (reading, rest)
  | .number none hour "" :: .mark ':' :: .number none minute "" :: .mark ':' :: .number none second fraction :: rest =>
    afterTime reading (valueOf hour) (valueOf minute) (valueOf second) (nanosOf fraction) rest
  | .number none hour "" :: .mark ':' :: .number none minute "" :: rest =>
    afterTime reading (valueOf hour) (valueOf minute) 0 0 rest
  | .number none hour "" :: .word "am" :: rest => afterTime reading (valueOf hour) 0 0 0 (.word "am" :: rest)
  | .number none hour "" :: .word "pm" :: rest => afterTime reading (valueOf hour) 0 0 0 (.word "pm" :: rest)
  | .number none year "" :: .number (some '-') month "" :: .number (some '-') day "" :: rest => do
    return (← reading.withDate (yearOf year) (valueOf month) (valueOf day), rest)
  | .number none one "" :: .mark '/' :: .number none other "" :: .mark '/' :: .number none third "" :: rest => do
    if 4 ≤ one.length then return (← reading.withDate (yearOf one) (valueOf other) (valueOf third), rest)
    else return (← reading.withDate (yearOf third) (valueOf one) (valueOf other), rest)
  | .number none month "" :: .mark '/' :: .number none day "" :: rest => do
    return (← reading.withDate now (valueOf month) (valueOf day), rest)
  | .number sign digits fraction :: .word word :: rest =>
    match if sign.isNone then monthOf? word else none with
    | some month =>
      match rest with
      | .number sign year "" :: .mark ':' :: _ =>
        (reading.withDate now month (valueOf digits)).map fun reading =>
          (reading, .number sign year "" :: rest.drop 1)
      | .number _ year "" :: rest =>
        (reading.withDate (yearOf year) month (valueOf digits)).map (·, rest)
      | rest => (reading.withDate now month (valueOf digits)).map (·, rest)
    | none =>
      let count : Int := (if sign = some '-' then -1 else 1) * valueOf digits
      match reading.addUnit count (nanosOf fraction) word with
      | some reading => some (reading, .word word :: rest) |>.map fun (reading, rest) => (reading, rest.drop 1)
      | none =>
        match weekdayOf? word with
        | some day => some ({ reading with weekday := some (day, count) }, rest)
        | none => plainNumber reading sign digits (.word word :: rest)
  | .number sign digits _ :: rest => plainNumber reading sign digits rest
  | .word word :: rest =>
    match monthOf? word, rest with
    | some month, .number _ day "" :: .mark ',' :: .number none year "" :: rest =>
      (reading.withDate (yearOf year) month (valueOf day)).map (·, rest)
    | some month, .number _ day "" :: .number (some '-') year "" :: rest =>
      (reading.withDate (yearOf year) month (valueOf day)).map (·, rest)
    | some month, .number none day "" :: rest => (reading.withDate now month (valueOf day)).map (·, rest)
    | some _, _ => none
    | none, _ =>
      match word, weekdayOf? word, zoneOf? word, ordinal? word with
      | "now", _, _, _ | "today", _, _, _ => some ({ reading with isRelative := true }, rest)
      | "tomorrow", _, _, _ => some ({ reading with days := reading.days + 1, isRelative := true }, rest)
      | "yesterday", _, _, _ => some ({ reading with days := reading.days - 1, isRelative := true }, rest)
      | "ago", _, _, _ => some (reading.reversed, rest)
      | "t", _, _, _ => if rest.isEmpty then none else some (reading, rest)
      | _, some day, _, _ => some ({ reading with weekday := some (day, 0) }, rest)
      | _, none, some shift, _ => some ({ reading with zone := some shift }, rest)
      | _, none, none, some count =>
        match rest with
        | .word unit :: rest =>
          match reading.addUnit count 0 unit with
          | some reading => some (reading, rest)
          | none => (weekdayOf? unit).map fun day => ({ reading with weekday := some (day, count) }, rest)
        | _ => none
      | unit, none, none, none => (reading.addUnit 1 0 unit).map (·, rest)
  | _ => none
where
  /-- Reads a number that stands alone: a date, a time of day or a year. -/
  plainNumber (reading : Reading) (sign : Option Char) (digits : String) (rest : List Lexeme) :
      Option (Reading × List Lexeme) :=
    let part (start count : Nat) : Nat := valueOf ((digits.drop start).take count).toString
    if sign.isSome then none
    else
      match reading.date, reading.time with
      | some (_, month, day), some _ =>
        if digits.length ≤ 4 then some ({ reading with date := some (yearOf digits, month, day) }, rest) else none
      | date, _ =>
        if 4 < digits.length && date.isNone then
          let start := digits.length - 4
          (reading.withDate (yearOf (digits.take start).toString) (part start 2) (part (start + 2) 2)).map (·, rest)
        else if digits.length ≤ 2 then afterTime reading (valueOf digits) 0 0 0 rest
        else if digits.length ≤ 4 then
          let value := valueOf digits
          afterTime reading (value / 100) (value % 100) 0 0 rest
        else none

def items (now : Int) : Nat → Reading → List Lexeme → Option Reading
  | 0, _, _ => none
  | _, reading, [] => some reading
  | fuel + 1, reading, lexemes => do
    let (reading, rest) ← item now reading lexemes
    items now fuel reading rest

/-- The moment that something is said of, seen from now. -/
def Reading.moment (reading : Reading) (now : Moment) : Option Moment :=
  match reading.epoch with
  | some moment => some { moment with seconds := moment.seconds + reading.seconds + reading.days * daySeconds }
  | none =>
    let today := now.date
    let (year, month, day) := reading.date.getD (today.year, today.month, today.day)
    -- Without a time of day the one of now counts if nothing else than a distance from now is given.
    let keepsTime := reading.isRelative && reading.date.isNone && reading.weekday.isNone
    let (second, nanos) := match reading.time with
      | some time => time
      | none => if keepsTime then (now.secondOfDay, now.nanos) else (0, 0)
    let isReal := (dateOf (dayNumber year month day)).month = month
    if !isReal then none
    else
      let number := dayNumber (year + reading.years) (month + reading.months) day + reading.days
      let number := match reading.weekday with
        | none => number
        | some (weekday, count) =>
          let own := (number + 4).fmod 7
          let ahead := (weekday - own).fmod 7
          let weeks := if 0 < count && ahead ≠ 0 then count - 1 else count
          number + ahead + weeks * 7
      let total := number * daySeconds + second + reading.seconds - reading.zone.getD 0
      let nanos : Int := nanos + reading.nanos
      some { seconds := total + nanos.fdiv 1000000000, nanos := (nanos.fmod 1000000000).toNat }

/-- The moment that a text names, seen from now. -/
def read? (now : Moment) (text : String) : Option Moment := do
  let reading ← items now.date.year (text.length + 1) {} (lexemes (text.length + 1) text.toList)
  reading.moment now

/-- The moment that digits name, two for each of month, day, hour and minute, with a year before them perhaps. -/
def ofStamp? (now : Moment) (text : String) : Option Moment := do
  let (digits, second) ← match text.splitOn "." with
    | [digits] => some (digits, 0)
    | [digits, second] => if second.length = 2 then (Numeral.natural? second).map (digits, ·) else none
    | _ => none
  if !digits.all Char.isDigit then none
  let start := digits.length - 8
  if !([8, 10, 12].contains digits.length) || 60 < second then none
  let year := if start = 0 then now.date.year else yearOf (digits.take start).toString
  let part (place : Nat) : Nat := valueOf ((digits.drop (start + place)).take 2).toString
  let number := dayNumber year (part 0) (part 2)
  if (dateOf number).month ≠ part 0 || part 0 = 0 || part 2 = 0 || 23 < part 4 || 59 < part 6 then none
  return { seconds := number * daySeconds + part 4 * 3600 + part 6 * 60 + second }

end Shell.Machine.Calendar
