import Shell.Proofs.Token.Enclosed
import Shell.Proofs.Token.Places

/-! # Substitutions that are read back

A substitution is recorded when the scanner has read it to its end. Then a part of the text lies
between its first and its last character, and that is what it holds. Written in its own way, it is
read as before: what begins with a dollar sign is copied from the text, and the scanner looks at
nothing else while it does so.
-/

namespace Shell.Scan

/-- A substitution that has been read to its end. -/
structure Record where
  /-- The dollar sign or the back quote that it begins with. -/
  opener : Char
  opened : Place
  /-- The place right after it. -/
  closed : Place
  sub : Substitution
deriving Repr, DecidableEq

/-- The substitution that ends with the next character, or right before it where it is a name. -/
def Mode.record? (place : Place) (next : Option Char) : Mode → Option Record
  | .dollar hole =>
    (next.filter isSpecialParameter).map fun c =>
      ⟨'$', hole.opened, place.after c, .parameter (String.singleton c)⟩
  | .name hole text =>
    if next.any Name.isPart then none else some ⟨'$', hole.opened, place, .parameter text⟩
  | .braces hole text =>
    if next = some '\x7d' then some ⟨'$', hole.opened, place.after '\x7d', .parameter text⟩
    else none
  | .bracket hole =>
    if next = some ')' then some ⟨'$', hole.opened, place.after ')', .command ""⟩ else none
  | .arithmeticEnd hole text =>
    if next = some ')' then some ⟨'$', hole.opened, place.after ')', .arithmetic text⟩ else none
  | .script hole .plain 0 text =>
    if next = some ')' then some ⟨'$', hole.opened, place.after ')', .command text⟩ else none
  | .back hole text =>
    if next = some '`' then some ⟨'`', hole.opened, place.after '`', .command text⟩ else none
  | _ => none

def recordedFrom (place : Place) (mode : Mode) : List Char → List Record
  | [] => (mode.record? place none).toList
  | c :: rest =>
    (mode.record? place (some c)).toList ++ recordedFrom (place.after c) (step place c mode).2 rest

/-- The substitutions that are recorded while a text is scanned. -/
def recorded (text : String) : List Record :=
  recordedFrom {} .between text.toList

/-! ## What is recorded is what the items have -/

def subsOf : Except ScanError Item → List Substitution
  | .ok item => item.subs
  | .error _ => []

def Mode.subs (mode : Mode) : List Substitution :=
  match mode.draft? with
  | some draft => draft.subs
  | none => []

/-- The substitution that is being read after a dollar sign. -/
def Mode.dollar? : Mode → Option Hole
  | .dollar hole | .name hole _ | .braces hole _ | .bracket hole | .arithmetic hole _ _
  | .arithmeticEnd hole _ | .script hole _ _ _ => some hole
  | _ => none

/-- A character outside substitutions goes on after some substitutions of a word. It completes none,
    and it begins one only if it is a dollar sign. -/
structure Continues (place : Place) (c : Char) (subs : List Substitution) (result : Found × Mode) :
    Prop where
  kept : result.1.flatMap subsOf ++ result.2.subs = subs
  opens : ∀ hole, result.2.dollar? = some hole →
    result.2 = .dollar hole ∧ hole.opened = place ∧ c = '$'

section Characters

variable {place : Place} {c : Char}

theorem Continues.of_mode {mode : Mode} {subs : List Substitution} (kept : mode.subs = subs)
    (closed : mode.dollar? = none) : Continues place c subs ([], mode) :=
  ⟨kept, by simp [closed]⟩

theorem Continues.cons {item : Item} {subs : List Substitution} {result : Found × Mode}
    (kept : item.subs = subs) (continues : Continues place c [] result) :
    Continues place c subs (.ok item :: result.1, result.2) := by
  refine ⟨?_, continues.opens⟩
  rw [List.flatMap_cons, List.append_assoc, continues.kept, List.append_nil]
  exact kept

theorem Continues.item {item : Item} {mode : Mode} (plain : item.subs = []) (kept : mode.subs = [])
    (closed : mode.dollar? = none) : Continues place c [] ([.ok item], mode) :=
  Continues.cons plain (.of_mode kept closed)

theorem Continues.of_dollar (dollar : c = '$') (draft : Draft) (context : Context) :
    Continues place c draft.subs ([], .dollar ⟨draft, context, place⟩) := by
  refine ⟨rfl, ?_⟩
  rintro _ ⟨rfl⟩
  exact ⟨rfl, rfl, dollar⟩

theorem continues_wordChar (draft : Draft) :
    Continues place c draft.subs ([], wordChar draft place c) := by
  unfold wordChar
  split
  · exact .of_mode rfl rfl
  split
  · exact .of_mode rfl rfl
  split
  · exact .of_mode rfl rfl
  split
  · exact .of_mode rfl rfl
  split
  · next dollar => exact .of_dollar dollar draft _
  split
  · exact .of_mode rfl rfl
  · exact .of_mode rfl rfl

theorem continues_betweenChar (place : Place) (c : Char) :
    Continues place c [] (betweenChar place c) := by
  unfold betweenChar
  split
  · exact .of_mode rfl rfl
  split
  · exact .of_mode rfl rfl
  split
  · exact .of_mode rfl rfl
  split
  · exact .item rfl rfl rfl
  split
  · exact .item rfl rfl rfl
  split
  · exact .item rfl rfl rfl
  split
  · exact .of_mode rfl rfl
  · exact continues_wordChar { start := place }

theorem continues_bareChar (draft : Draft) :
    Continues place c draft.subs (bareChar draft place c) := by
  unfold bareChar
  split
  · exact .cons rfl (continues_betweenChar place c)
  · exact continues_wordChar draft

theorem continues_doubleChar (draft : Draft) (opened : Place) :
    Continues place c draft.subs ([], doubleChar draft opened place c) := by
  unfold doubleChar
  split
  · exact .of_mode rfl rfl
  split
  · exact .of_mode rfl rfl
  split
  · next dollar => exact .of_dollar dollar draft _
  split
  · exact .of_mode rfl rfl
  split
  · exact .of_mode rfl rfl
  · exact .of_mode rfl rfl

theorem continues_contextChar (draft : Draft) (context : Context) :
    Continues place c draft.subs (context.char draft place c) := by
  cases context with
  | bare => exact continues_bareChar draft
  | double opened => exact continues_doubleChar draft opened

theorem continues_escapedChar (draft : Draft) :
    Continues place c draft.subs ([], escapedChar draft c) := by
  unfold escapedChar
  split
  · exact .of_mode rfl rfl
  · exact .of_mode rfl rfl

theorem subs_fill (sub : Substitution) (hole : Hole) :
    (hole.fill sub).subs = hole.draft.subs ++ [sub] := by
  obtain ⟨draft, context, opened⟩ := hole
  cases context with
  | bare | double => rfl

theorem dollar?_fill (sub : Substitution) (hole : Hole) : (hole.fill sub).dollar? = none := by
  obtain ⟨draft, context, opened⟩ := hole
  cases context with
  | bare | double => rfl

/-- Where no substitution is being read after a dollar sign, one in back quotes may be completed. -/
theorem continues_step {mode : Mode} (closed : mode.dollar? = none) :
    Continues place c (mode.subs ++ ((mode.record? place (some c)).map Record.sub).toList)
      (step place c mode) := by
  have plain : ∀ {subs : List Substitution} {result : Found × Mode},
      Continues place c subs result → Continues place c (subs ++ []) result :=
    fun continues => (List.append_nil _).symm ▸ continues
  cases mode with
  | between => exact continues_betweenChar place c
  | comment =>
      simp only [step]
      split
      · exact continues_betweenChar place c
      · exact .of_mode rfl rfl
  | continuation start =>
      simp only [step]
      split
      · exact .of_mode rfl rfl
      · exact continues_escapedChar { start }
  | operator op start =>
      simp only [step]
      split
      · exact .cons (by cases op <;> rfl) (.of_mode rfl rfl)
      · exact .cons (by cases op <;> rfl) (continues_betweenChar place c)
  | word draft => exact plain (continues_bareChar draft)
  | escape draft => exact plain (continues_escapedChar draft)
  | single draft opened =>
      refine plain ?_
      simp only [step]
      split
      · exact .of_mode rfl rfl
      split
      · exact .of_mode rfl rfl
      · exact .of_mode rfl rfl
  | double draft opened => exact plain (continues_doubleChar draft opened)
  | doubleEscape draft opened =>
      refine plain ?_
      simp only [step, doubleEscapedChar]
      split
      · exact .of_mode rfl rfl
      split
      · exact .of_mode rfl rfl
      · exact continues_doubleChar (draft.push '\\') opened
  | back hole text =>
      simp only [step]
      split
      · next same =>
          subst same
          exact .of_mode (subs_fill _ hole) (dollar?_fill _ hole)
      · next other =>
          have unclosed : (Mode.back hole text).record? place (some c) = none := by
            simp [Mode.record?, other]
          rw [unclosed]
          refine plain ?_
          split
          · exact .of_mode rfl rfl
          · exact .of_mode rfl rfl
  | backEscape hole text =>
      refine plain ?_
      simp only [step, backEscapedChar]
      split
      · exact .of_mode rfl rfl
      · exact .of_mode rfl rfl
  | halted => exact .of_mode rfl rfl
  | dollar | name | braces | bracket | arithmetic | arithmeticEnd | script => cases closed

/-- What a step finds and goes on with has the substitutions there were and the one completed. -/
def Keeps (place : Place) (c : Char) (mode : Mode) : Prop :=
  (step place c mode).1.flatMap subsOf ++ (step place c mode).2.subs =
    mode.subs ++ ((mode.record? place (some c)).map Record.sub).toList

theorem keeps_dollar (hole : Hole) : Keeps place c (.dollar hole) := by
  unfold Keeps
  simp only [step, dollarChar]
  split
  · next bracket =>
      subst bracket
      exact (List.append_nil _).symm
  split
  · next brace =>
      subst brace
      exact (List.append_nil _).symm
  split
  · next special =>
      simp only [Mode.record?, Option.filter, special]
      exact subs_fill _ hole
  rename_i plain
  have unclosed : (Mode.dollar hole).record? place (some c) = none := by
    simp [Mode.record?, plain]
  rw [unclosed]
  split
  · exact (List.append_nil _).symm
  · exact (continues_contextChar (hole.draft.push '$') hole.context).kept.trans
      (List.append_nil _).symm

theorem keeps_name (hole : Hole) (name : String) : Keeps place c (.name hole name) := by
  unfold Keeps
  simp only [step, Mode.record?, Option.any_some]
  split
  · exact (List.append_nil _).symm
  · exact (continues_contextChar (hole.draft.fill (.parameter name)) hole.context).kept

theorem subs_scriptChar (place : Place) (hole : Hole) (part : ScriptPart) (depth : Nat)
    (script : String) : (scriptChar hole part depth script c).subs = hole.draft.subs ++
      (((Mode.script hole part depth script).record? place (some c)).map Record.sub).toList := by
  cases part with
  | plain =>
      by_cases closing : c = ')'
      · subst closing
        cases depth with
        | zero => exact subs_fill _ hole
        | succ depth => exact (List.append_nil _).symm
      · have unclosed : (Mode.script hole .plain depth script).record? place (some c) = none := by
          cases depth <;> simp [Mode.record?, closing]
        rw [unclosed]
        refine Eq.trans ?_ (List.append_nil _).symm
        simp only [scriptChar, if_neg closing]
        split
        · rfl
        split
        · rfl
        split
        · rfl
        split
        · rfl
        · rfl
  | escaped | single | double | doubleEscaped => exact (List.append_nil _).symm

theorem keeps_or_fails (place : Place) (c : Char) (mode : Mode) :
    Keeps place c mode ∨ ∃ error, step place c mode = ([.error error], .halted) := by
  cases mode with
  | dollar hole => exact .inl (keeps_dollar hole)
  | name hole name => exact .inl (keeps_name hole name)
  | braces hole name =>
      refine .inl ?_
      unfold Keeps
      simp only [step, Mode.record?, Option.some.injEq]
      split
      · exact subs_fill _ hole
      · exact (List.append_nil _).symm
  | bracket hole =>
      refine .inl ?_
      by_cases opening : c = '('
      · subst opening
        exact (List.append_nil _).symm
      · unfold Keeps
        simp only [step, if_neg opening]
        exact subs_scriptChar place hole .plain 0 ""
  | arithmetic hole depth expr =>
      refine .inl (Eq.trans ?_ (List.append_nil _).symm)
      simp only [step, arithmeticChar]
      split
      · rfl
      split
      · cases depth <;> rfl
      · rfl
  | arithmeticEnd hole expr =>
      by_cases closing : c = ')'
      · subst closing
        exact .inl (subs_fill _ hole)
      · exact .inr ⟨.openSubstitution hole.opened, by simp only [step, if_neg closing]⟩
  | script hole part depth script => exact .inl (subs_scriptChar place hole part depth script)
  | _ => exact .inl (continues_step rfl).kept

theorem keeps_finish (place : Place) (mode : Mode) :
    (finish place mode).flatMap subsOf =
        mode.subs ++ ((mode.record? place none).map Record.sub).toList ∨
      ∃ error, finish place mode = [.error error] := by
  have ended : ∀ (draft : Draft) (context : Context),
      (context.finish draft place).flatMap subsOf = draft.subs ∨
        ∃ error, context.finish draft place = [.error error] := by
    intro draft context
    cases context with
    | bare => exact .inl (List.append_nil _)
    | double opened => exact .inr ⟨_, rfl⟩
  have plain : ∀ {found subs : List Substitution} {other : Prop},
      found = subs ∨ other → found = subs ++ [] ∨ other :=
    fun h => h.imp_left fun same => same.trans (List.append_nil _).symm
  cases mode with
  | between | comment | halted => exact .inl rfl
  | continuation start => exact plain (ended (Draft.push '\\' { start }) .bare)
  | operator op start => exact .inl (by cases op <;> rfl)
  | word draft => exact plain (ended draft .bare)
  | escape draft => exact plain (ended (draft.push '\\') .bare)
  | dollar hole => exact plain (ended (hole.draft.push '$') hole.context)
  | name hole name => exact ended (hole.draft.fill (.parameter name)) hole.context
  | _ => exact .inr ⟨_, rfl⟩

/-- An error that comes first loses all that has been recorded of a word. -/
theorem lost_of_error {found : Found} {error : ScanError} (fails : found = [.error error])
    (subs : List Substitution) :
    ∃ lost, subs = found.flatMap subsOf ++ lost ∧
      ((∀ error, .error error ∉ found) → lost = []) :=
  ⟨subs, by rw [fails]; rfl, fun whole => absurd (by simp [fails]) (whole error)⟩

theorem subs_run (place : Place) (mode : Mode) (text : List Char) :
    ∃ lost, mode.subs ++ (recordedFrom place mode text).map Record.sub =
        (run place mode text).flatMap subsOf ++ lost ∧
      ((∀ error, .error error ∉ run place mode text) → lost = []) := by
  induction text generalizing place mode with
  | nil =>
      rw [recordedFrom, ← Option.toList_map, run]
      rcases keeps_finish place mode with kept | ⟨error, fails⟩
      · exact ⟨[], by rw [kept, List.append_nil], fun _ => rfl⟩
      · exact lost_of_error fails _
  | cons c rest ih =>
      rw [recordedFrom, List.map_append, ← Option.toList_map, ← List.append_assoc, run_cons]
      rcases keeps_or_fails place c mode with kept | ⟨error, fails⟩
      · obtain ⟨lost, same, whole⟩ := ih (place.after c) (step place c mode).2
        refine ⟨lost, ?_, fun clean => whole fun error member => ?_⟩
        · rw [← kept, List.append_assoc, same, List.flatMap_append, List.append_assoc]
        · exact clean error (List.mem_append_right _ member)
      · have only : (step place c mode).1 ++ run (place.after c) (step place c mode).2 rest =
            [.error error] := by
          rw [fails, run_halted]
          rfl
        exact lost_of_error only _

end Characters

/-! ## What has been read since the dollar sign -/

/-- What has been read of a substitution, its dollar sign first. -/
inductive Typed : Mode → Hole → List Char → Prop where
  | dollar (hole : Hole) : Typed (.dollar hole) hole ['$']
  | name (hole : Hole) {name : String} :
    Name.isValid name.toList = true → Typed (.name hole name) hole ('$' :: name.toList)
  | braces (hole : Hole) {name : String} : '\x7d' ∉ name.toList →
      Typed (.braces hole name) hole ('$' :: '\x7b' :: name.toList)
  /-- The same characters lead here from a dollar sign in any word. -/
  | bracket {mode : Hole → Mode} {typed : List Char} (hole : Hole) :
    Inside mode ('$' :: '(' :: typed) →
      (∀ place hole, Leads place (.dollar hole) ('(' :: typed) (mode hole)) →
      Typed (mode hole) hole ('$' :: '(' :: typed)

theorem Inside.dollar? {mode : Hole → Mode} {typed : List Char} (inside : Inside mode typed)
    (hole : Hole) : (mode hole).dollar? = some hole := by
  cases inside <;> rfl

theorem Typed.dollar? {mode : Mode} {hole : Hole} {typed : List Char}
    (read : Typed mode hole typed) : mode.dollar? = some hole := by
  cases read with
  | dollar | name | braces => rfl
  | bracket _ inside => exact inside.dollar? hole

/-- Where the substitution that is being read was opened stands what has been read of it. -/
def Follows (text rest : List Char) (place : Place) (mode : Mode) : Prop :=
  ∀ hole, mode.dollar? = some hole → ∃ typed, Typed mode hole typed ∧
    At text hole.opened (typed ++ rest) ∧ place = hole.opened.past typed

section Reading

variable {text rest : List Char} {place : Place} {c : Char}

theorem At.past {typed : List Char}
    (there : At text place (typed ++ rest)) : At text (place.past typed) rest := by
  obtain ⟨before, rfl, rfl⟩ := there
  exact ⟨before ++ typed, by simp, (Place.past_append _ _ _).symm⟩

theorem Continues.follows {subs : List Substitution} {result : Found × Mode}
    (continues : Continues place c subs result)
    (here : At text place (c :: rest)) : Follows text rest (place.after c) result.2 := by
  intro hole reads
  obtain ⟨same, rfl, rfl⟩ := continues.opens hole reads
  rw [same]
  exact ⟨['$'], .dollar hole, here, rfl⟩

theorem Typed.follows {mode : Mode} {hole : Hole} {typed : List Char} (read : Typed mode hole typed)
    (there : At text hole.opened (typed ++ c :: rest)) :
    Follows text rest ((hole.opened.past typed).after c)
      (step (hole.opened.past typed) c mode).2 := by
  have here : At text (hole.opened.past typed) (c :: rest) := there.past
  have stays : ∀ {mode' : Mode}, Typed mode' hole (typed ++ [c]) →
      Follows text rest ((hole.opened.past typed).after c) mode' := by
    intro mode' further hole' reads
    obtain rfl := Option.some.inj (further.dollar?.symm.trans reads)
    exact ⟨typed ++ [c], further, by simpa using there, (Place.past_append _ typed [c]).symm⟩
  have ended : ∀ {mode' : Mode}, mode'.dollar? = none →
      Follows text rest ((hole.opened.past typed).after c) mode' := by
    intro mode' closed hole' reads
    rw [closed] at reads
    cases reads
  cases read with
  | dollar =>
      simp only [step, dollarChar]
      split
      · next bracket =>
          subst bracket
          exact stays (.bracket hole .bracket fun _ _ => .cons _ rfl .nil)
      split
      · next brace =>
          subst brace
          exact stays (.braces hole (by simp))
      split
      · exact ended (dollar?_fill _ hole)
      split
      · next start =>
          have valid : Name.isValid (String.singleton c).toList = true := by
            simp [Name.isValid, start]
          exact stays (by simpa using Typed.name hole valid)
      · exact (continues_contextChar _ hole.context).follows here
  | @name _ name valid =>
      simp only [step]
      split
      · next part =>
          have valid' : Name.isValid (name.push c).toList = true := by
            rw [String.toList_push]
            exact Name.isValid_concat valid part
          exact stays (by simpa using Typed.name hole valid')
      · exact (continues_contextChar _ hole.context).follows here
  | @braces _ name plain =>
      simp only [step]
      split
      · exact ended (dollar?_fill _ hole)
      · next other =>
          have plain' : '\x7d' ∉ (name.push c).toList := by
            simpa [eq_comm, plain] using other
          exact stays (by simpa using Typed.braces hole plain')
  | @bracket mode typed _ inside leads =>
      cases inside.turn c with
      | stays mode' further here' =>
          rw [here']
          refine stays (.bracket hole further fun place hole' => ?_)
          exact (leads place hole').append (.cons _ (here' _ hole') .nil)
      | completes sub _ _ here' =>
          rw [here']
          exact ended (dollar?_fill sub hole)
      | fails here' =>
          rw [here']
          exact ended rfl

theorem follows_step {mode : Mode} (here : At text place (c :: rest))
    (follows : Follows text (c :: rest) place mode) :
    Follows text rest (place.after c) (step place c mode).2 := by
  cases reads : mode.dollar? with
  | none => exact (continues_step reads).follows here
  | some hole =>
      obtain ⟨typed, read, there, rfl⟩ := follows hole reads
      exact read.follows there

end Reading

/-! ## What is recorded is written in the text -/

/-- A form that begins with a dollar sign, the text after it, and the substitution that holds what
    stands between its delimiters. A name ends where no part of a name follows. -/
inductive Delimits : List Char → List Char → Substitution → Prop where
  | name {name rest : List Char} :
    Name.isValid name = true → (∀ c ∈ rest.head?, Name.isPart c = false) →
      Delimits ('$' :: name) rest (.parameter (String.ofList name))
  | special {c : Char} {rest : List Char} :
    isSpecialParameter c = true → Delimits ['$', c] rest (.parameter (String.singleton c))
  | braces {name rest : List Char} : '\x7d' ∉ name →
    Delimits ('$' :: '\x7b' :: (name ++ ['\x7d'])) rest (.parameter (String.ofList name))
  | arithmetic {expr rest : List Char} :
    Delimits ('$' :: '(' :: '(' :: (expr ++ [')', ')'])) rest (.arithmetic (String.ofList expr))
  | command {script rest : List Char} :
    Delimits ('$' :: '(' :: (script ++ [')'])) rest (.command (String.ofList script))

/-- A record that is true of a text. What it calls a form stands in the text, from where it is
    opened to where it is closed, and in any word it may also be written in its own way. -/
structure Record.Faithful (text : List Char) (record : Record) : Prop where
  begins : ∃ rest, At text record.opened (record.opener :: rest)
  slice : record.opener = '$' → ∃ form rest, At text record.opened (form ++ rest) ∧
    At text record.closed rest ∧ Delimits form rest record.sub
  takes : record.opener = '$' → Takes record.sub

theorem Delimits.faithful {text form rest : List Char} {sub : Substitution} {opened : Place}
    (delimits : Delimits form rest sub) (there : At text opened (form ++ rest))
    (takes : Takes sub) : Record.Faithful text ⟨'$', opened, opened.past form, sub⟩ where
  begins := by cases delimits <;> exact ⟨_, there⟩
  slice _ := ⟨form, rest, there, there.past, delimits⟩
  takes _ := takes

/-- The same where the last character of the form is the one that comes next. -/
theorem Delimits.faithful_closed {text typed rest : List Char} {closer : Char} {sub : Substitution}
    {opened : Place} (delimits : Delimits (typed ++ [closer]) rest sub)
    (there : At text opened (typed ++ closer :: rest)) (takes : Takes sub) :
    Record.Faithful text ⟨'$', opened, (opened.past typed).after closer, sub⟩ := by
  have closed : opened.past (typed ++ [closer]) = (opened.past typed).after closer :=
    Place.past_append _ _ _
  rw [← closed]
  exact delimits.faithful (by simpa using there) takes

theorem takes_parameter {name : String} (plain : '\x7d' ∉ name.toList) :
    Takes (.parameter name) := by
  have rendered : (Substitution.parameter name).render.toList =
      '$' :: '\x7b' :: (name.toList ++ ['\x7d']) := by simp [Substitution.render]
  refine takes_of_leads rendered fun place hole => .cons (.braces hole "") rfl ?_
  simpa using leads_braces plain (place.after '\x7b') hole ""

theorem delimits_arithmetic (expr : String) (rest : List Char) :
    Delimits (Substitution.arithmetic expr).render.toList rest (.arithmetic expr) := by
  simpa [Substitution.render] using @Delimits.arithmetic expr.toList rest

theorem delimits_command (script : String) (rest : List Char) :
    Delimits (Substitution.command script).render.toList rest (.command script) := by
  simpa [Substitution.render] using @Delimits.command script.toList rest

theorem faithful_bracket {mode : Hole → Mode} {text typed rest : List Char} {hole : Hole}
    {record : Record} {sub : Substitution}
    (leads : ∀ place hole, Leads place (.dollar hole) ('(' :: typed) (mode hole))
    (there : At text hole.opened ('$' :: '(' :: typed ++ rest))
    (completes : ∀ place hole, step place ')' (mode hole) = ([], hole.fill sub))
    (rendered : sub.render.toList = '$' :: ('(' :: typed ++ [')']))
    (delimits : ∀ rest, Delimits sub.render.toList rest sub)
    (ends : (if rest.head? = some ')' then
      some (Record.mk '$' hole.opened ((hole.opened.past ('$' :: '(' :: typed)).after ')') sub)
      else none) = some record) :
    record.Faithful text := by
  split at ends
  · next closing =>
      cases ends
      obtain ⟨rest, rfl⟩ := List.head?_eq_some_iff.mp closing
      have delimited := delimits rest
      rw [rendered] at delimited
      refine Delimits.faithful_closed delimited there ?_
      exact takes_of_leads rendered fun place hole =>
        (leads place hole).append (.cons _ (completes _ hole) .nil)
  · cases ends

theorem Inside.faithful {mode : Hole → Mode} {text typed rest : List Char} {hole : Hole}
    {record : Record} (inside : Inside mode ('$' :: '(' :: typed))
    (leads : ∀ place hole, Leads place (.dollar hole) ('(' :: typed) (mode hole))
    (there : At text hole.opened ('$' :: '(' :: typed ++ rest))
    (ends : (mode hole).record? (hole.opened.past ('$' :: '(' :: typed)) rest.head? = some record) :
    record.Faithful text := by
  cases inside with
  | bracket =>
      exact faithful_bracket leads there (fun _ _ => rfl) rfl (delimits_command "") ends
  | arithmetic => cases ends
  | arithmeticEnd expr =>
      exact faithful_bracket leads there (fun _ _ => rfl) (by simp [Substitution.render])
        (delimits_arithmetic expr) ends
  | script part depth script =>
      cases part with
      | plain =>
          cases depth with
          | zero =>
              exact faithful_bracket leads there (fun _ _ => rfl) (by simp [Substitution.render])
                (delimits_command script) ends
          | succ => cases ends
      | escaped | single | double | doubleEscaped => cases ends

theorem Typed.faithful {mode : Mode} {hole : Hole} {text typed rest : List Char} {record : Record}
    (read : Typed mode hole typed) (there : At text hole.opened (typed ++ rest))
    (ends : mode.record? (hole.opened.past typed) rest.head? = some record) :
    record.Faithful text := by
  cases read with
  | dollar =>
      cases rest with
      | nil => cases ends
      | cons c rest =>
          by_cases special : isSpecialParameter c = true
          · simp only [Mode.record?, List.head?_cons, Option.filter, special] at ends
            cases ends
            have plain : '\x7d' ∉ (String.singleton c).toList := by
              rw [String.toList_singleton, List.mem_singleton]
              rintro rfl
              exact absurd special (by decide)
            have delimits : Delimits (['$'] ++ [c]) rest _ := .special special
            exact delimits.faithful_closed there (takes_parameter plain)
          · simp [Mode.record?, special] at ends
  | @name _ name valid =>
      simp only [Mode.record?] at ends
      split at ends
      · cases ends
      · next ended =>
          cases ends
          have plain : '\x7d' ∉ name.toList := fun member =>
            absurd (Name.isPart_of_isValid valid _ member) (by decide)
          have final : ∀ c ∈ rest.head?, Name.isPart c = false := by
            rintro c here
            simpa [Option.mem_def.mp here] using ended
          have delimits := Delimits.name valid final
          rw [String.ofList_toList] at delimits
          exact delimits.faithful there (takes_parameter plain)
  | @braces _ name plain =>
      simp only [Mode.record?] at ends
      split at ends
      · next closing =>
          cases ends
          obtain ⟨rest, rfl⟩ := List.head?_eq_some_iff.mp closing
          have delimits := @Delimits.braces name.toList rest plain
          rw [String.ofList_toList] at delimits
          exact delimits.faithful_closed there (takes_parameter plain)
      · cases ends
  | bracket _ inside leads => exact inside.faithful leads there ends

theorem faithful_record? {text rest : List Char} {place : Place} {mode : Mode} {record : Record}
    (placed : mode.Placed text rest) (follows : Follows text rest place mode)
    (ends : mode.record? place rest.head? = some record) : record.Faithful text := by
  cases reads : mode.dollar? with
  | some hole =>
      obtain ⟨typed, read, there, rfl⟩ := follows hole reads
      exact read.faithful there ends
  | none =>
      cases mode with
      | back hole script =>
          simp only [Mode.record?] at ends
          split at ends
          · cases ends
            obtain ⟨rest, there, -⟩ := placed.opened
            exact ⟨⟨rest, there⟩, nofun, nofun⟩
          · cases ends
      | dollar | name | braces | bracket | arithmetic | arithmeticEnd | script => cases reads
      | _ => cases ends

theorem faithful_recordedFrom {text rest : List Char} {place : Place} {mode : Mode}
    (here : At text place rest) (ready : Ready place mode) (placed : mode.Placed text rest)
    (follows : Follows text rest place mode) :
    ∀ record ∈ recordedFrom place mode rest, record.Faithful text := by
  induction rest generalizing place mode with
  | nil =>
      intro record member
      exact faithful_record? placed follows (Option.mem_toList.mp member)
  | cons c rest ih =>
      intro record member
      rcases List.mem_append.mp member with now | later
      · exact faithful_record? placed follows (Option.mem_toList.mp now)
      · exact ih here.after (ready_step ready) (sound_step here ready placed).mode
          (follows_step here follows) record later

/-- What a substitution is rendered to is one word with it and nothing else. -/
theorem Takes.scan_render {sub : Substitution} (takes : Takes sub) :
    scan sub.render = [.ok { token := .word, start := {}, value := "\x01", subs := [sub] },
      .ok (finishItem (({} : Place).past sub.render.toList))] := by
  have begun : scan sub.render = run {} (.word { start := {} }) sub.render.toList := by
    cases sub <;> simp [scan, Substitution.render] <;> rfl
  have read := takes {} { start := {} } []
  rw [List.append_nil] at read
  rw [begun, read]
  rfl

/-- What is recorded is what the words have, in order, but for a word that an error cuts short. What
    begins with a dollar sign holds exactly what stands in the text between the delimiters of its
    form. Written in its own way and scanned alone, it is one word with a single marker, which
    stands for it. -/
theorem recorded_render (text : String) :
    (∃ lost, (recorded text).map Record.sub = (scan text).flatMap subsOf ++ lost ∧
      ((∀ error, .error error ∉ scan text) → lost = [])) ∧
    ∀ record ∈ recorded text,
      (∃ rest, At text.toList record.opened (record.opener :: rest)) ∧
      (record.opener = '$' →
        (∃ form rest, At text.toList record.opened (form ++ rest) ∧
          At text.toList record.closed rest ∧ Delimits form rest record.sub) ∧
        scan record.sub.render = [
          .ok { token := .word, start := {}, value := "\x01", subs := [record.sub] },
          .ok (finishItem (({} : Place).past record.sub.render.toList))]) := by
  refine ⟨subs_run {} .between text.toList, fun record member => ?_⟩
  have here : At text.toList {} text.toList := ⟨[], rfl, rfl⟩
  have faithful : record.Faithful text.toList :=
    @faithful_recordedFrom _ _ _ .between here nofun trivial nofun record member
  exact ⟨faithful.begins, fun dollar =>
    ⟨faithful.slice dollar, (faithful.takes dollar).scan_render⟩⟩

/-- The brackets of a quoted script do not count, and the last quote is never closed. -/
theorem recorded_render_nested :
    recorded "a$((b*(2))) \"$?$(c ')')\" $d`e`\"$\x7b f\x7d" = [
      ⟨'$', ⟨1, 1⟩, ⟨11, 1⟩, .arithmetic "b*(2)"⟩, ⟨'$', ⟨13, 1⟩, ⟨15, 1⟩, .parameter "?"⟩,
      ⟨'$', ⟨15, 1⟩, ⟨23, 1⟩, .command "c ')'"⟩, ⟨'$', ⟨25, 1⟩, ⟨27, 1⟩, .parameter "d"⟩,
      ⟨'`', ⟨27, 1⟩, ⟨30, 1⟩, .command "e"⟩, ⟨'$', ⟨31, 1⟩, ⟨36, 1⟩, .parameter " f"⟩] ∧
    scan "$(c ')')" = [
      .ok { token := .word, start := {}, value := "\x01", subs := [.command "c ')'"] },
      .ok (finishItem ⟨8, 1⟩)] := by
  have records : recorded "a$((b*(2))) \"$?$(c ')')\" $d`e`\"$\x7b f\x7d" = [
      ⟨'$', ⟨1, 1⟩, ⟨11, 1⟩, .arithmetic "b*(2)"⟩, ⟨'$', ⟨13, 1⟩, ⟨15, 1⟩, .parameter "?"⟩,
      ⟨'$', ⟨15, 1⟩, ⟨23, 1⟩, .command "c ')'"⟩, ⟨'$', ⟨25, 1⟩, ⟨27, 1⟩, .parameter "d"⟩,
      ⟨'`', ⟨27, 1⟩, ⟨30, 1⟩, .command "e"⟩, ⟨'$', ⟨31, 1⟩, ⟨36, 1⟩, .parameter " f"⟩] := by
    decide +kernel
  refine ⟨records, ?_⟩
  have script := (recorded_render _).2 ⟨'$', ⟨15, 1⟩, ⟨23, 1⟩, .command "c ')'"⟩
    (by rw [records]; simp)
  exact (script.2 rfl).2

end Shell.Scan
