import Shell.Machine.Utility.Numeral

/-! # Permissions

The permission bits of files as they are written in letters and in octal digits.
-/

namespace Shell.Machine.Permissions

def permissionLetters (bits : Nat) : String :=
  (if bits &&& 4 ≠ 0 then "r" else "") ++ (if bits &&& 2 ≠ 0 then "w" else "") ++
    (if bits &&& 1 ≠ 0 then "x" else "")

/-- Permissions as nine letters and hyphens. What holds while a program runs is shown in the place of `x`. -/
def shown (mode : Nat) : String :=
  three (mode / 64) 0o4000 "s" "S" ++ three (mode / 8) 0o2000 "s" "S" ++ three mode 0o1000 "t" "T"
where
  /-- The letters for three bits and a further one. -/
  three (bits special : Nat) (both only : String) : String :=
    let executes := bits &&& 1 ≠ 0
    (if bits &&& 4 ≠ 0 then "r" else "-") ++ (if bits &&& 2 ≠ 0 then "w" else "-") ++
      (if mode &&& special ≠ 0 then (if executes then both else only)
        else if executes then "x" else "-")

/-- The permissions that a mask leaves, in letters. -/
def maskText (mask : Nat) : String :=
  let left := 0o777 - mask
  "u=" ++ permissionLetters (left / 64 % 8) ++ ",g=" ++ permissionLetters (left / 8 % 8) ++
    ",o=" ++ permissionLetters (left % 8) ++ "\n"

/-- The permission bits that letters name, those who have them left aside. -/
def permissionBits (letters : List Char) : Option Nat :=
  letters.foldlM
    (fun bits c =>
      match c with
      | 'r' => some (bits ||| 0o444)
      | 'w' => some (bits ||| 0o222)
      | 'x' => some (bits ||| 0o111)
      | 'X' => some (bits ||| 0o111)
      | 's' => some bits
      | 't' => some bits
      | _ => none)
    0

/-- The bits of those whom letters name. Without letters, of all. -/
def classBits (letters : List Char) : Nat :=
  if letters.isEmpty || letters.contains 'a' then 0o777
  else
    (if letters.contains 'u' then 0o700 else 0) ||| (if letters.contains 'g' then 0o070 else 0) |||
      (if letters.contains 'o' then 0o007 else 0)

def applyClauses (permissions : Nat) (clauses : List String) : Option Nat :=
  clauses.foldlM
    (fun permissions clause =>
      let (who, rest) := clause.toList.span fun c => "ugoa".contains c
      match rest with
      | operator :: letters => do
        let bits := (← permissionBits letters) &&& classBits who
        match operator with
        | '+' => some (permissions ||| bits)
        | '-' => some (permissions - (permissions &&& bits))
        | '=' => some ((permissions - (permissions &&& classBits who)) ||| bits)
        | _ => none
      | [] => none)
    permissions

/-- The permissions that a text in numbers or letters makes of others. -/
def changed? (text : String) (old : Nat) (isDirectory : Bool) (mask : Nat) : Option Nat :=
  if text.toList.head?.any Char.isDigit then
    if text.all (fun c => '0' ≤ c && c ≤ '7') && text.length ≤ 5 then
      some (Numeral.readInt (some 8) text).value.toNat
    else none
  else
    (text.splitOn ",").foldlM
      (fun mode clause =>
        let (who, rest) := clause.toList.span fun c => "ugoa".contains c
        actions who isDirectory mask (rest.length + 1) mode rest)
      old
where
  /-- What operators with letters make of permissions, one after another. -/
  actions (who : List Char) (isDirectory : Bool) (mask : Nat) : Nat → Nat → List Char → Option Nat
    | 0, mode, _ => some mode
    | _, mode, [] => some mode
    | fuel + 1, mode, operator :: rest => do
      let (letters, rest) := rest.span fun c => "rwxXstugo".contains c
      let copied :=
        if letters.contains 'u' then mode / 64 % 8 * 0o111
        else if letters.contains 'g' then mode / 8 % 8 * 0o111
        else if letters.contains 'o' then mode % 8 * 0o111 else 0
      let some bits := permissionBits
          (letters.filter fun c => !"ugo".contains c && (c ≠ 'X' || isDirectory || mode &&& 0o111 ≠ 0))
        | none
      let limits := if who.isEmpty then 0o777 - mask else classBits who
      let special :=
        (if letters.contains 's' && (who.isEmpty || who.contains 'u' || who.contains 'a') then 0o4000 else 0) +
        (if letters.contains 's' && (who.isEmpty || who.contains 'g' || who.contains 'a') then 0o2000 else 0) +
        (if letters.contains 't' then 0o1000 else 0)
      let bits := ((bits ||| copied) &&& limits) ||| special
      let others := if who.isEmpty || who.contains 'a' then 0
        else
          (if who.contains 'u' then 0 else 0o4700) ||| (if who.contains 'g' then 0 else 0o2070) |||
            (if who.contains 'o' then 0 else 0o1007)
      let cleared := mode &&& (others ||| (if isDirectory then 0o6000 else 0))
      match operator with
      | '+' => actions who isDirectory mask fuel (mode ||| bits) rest
      | '-' => actions who isDirectory mask fuel (mode - (mode &&& bits)) rest
      | '=' => actions who isDirectory mask fuel (cleared ||| bits) rest
      | _ => none

end Shell.Machine.Permissions
