/-
Builtins for variables, options and arguments.
-/
import SkipAudit.Shell.Builtin.Basic

namespace SkipAudit.Shell.Builtin

open Run

/-! ## Showing variables -/

/-- An assignment, as it is shown. -/
def shownAssignment (v : Variable) : Octets :=
  match v.value? with
  | some t => v.name ++ '=' :: quoted t
  | none => v.name

/-- Show the variables of some kind, by name, behind a word. -/
def showVariables (word : Octets) (which : Variable → Bool) : Run Unit := do
  let vs := ((← get).environment.filter which).mergeSort fun a b => Text.le a.name b.name
  vs.forM fun v => printLine (word ++ shownAssignment v)

/-! ## Marks -/

/-- The name and the value in an argument that may be an assignment. -/
def nameAndValue (arg : Octets) : Octets × Option Octets :=
  match arg.span (· != '=') with
  | (name, '=' :: value) => (name, some value)
  | (name, _) => (name, none)

/-- Fail if a text is no name of a variable. -/
def checkName (name : Octets) : Run Unit := do
  if !isName name then fail (name ++ text ": bad variable name")

/-- Mark variables, and give values to some of them. -/
def markWith (word : String) (mark : Variable → Variable) (has : Variable → Bool) : Builtin :=
  fun _ _ _ args => do
    let (os, args) ← options "p" args
    if args.isEmpty || !os.isEmpty then
      showVariables (text word ++ [' ']) has
      return 0
    else
      args.forM fun arg => do
        let (name, value?) := nameAndValue arg
        checkName name
        match value? with
        | some value => Run.assign name value
        | none => pure ()
        modify (·.alter name mark)
      return 0

/-- Hand variables on to programs. -/
def exportVariables : Builtin := markWith "export" ({ · with exported := true }) (·.exported)

/-- Keep variables from being changed. -/
def readonly : Builtin := markWith "readonly" ({ · with readOnly := true }) (·.readOnly)

/-- Keep changes of variables to a function. -/
def localVariables : Builtin := fun _ _ _ args => do
  if (← get).functionDepth = 0 then fail (text "not in a function")
  else
    args.forM fun arg => do
      let (name, value?) := nameAndValue arg
      if name = ['-'] then return
      checkName name
      modify (·.hide name)
      match value? with
      | some value => Run.assign name value
      | none => pure ()
    return 0

/-- Forget variables or functions. -/
def unset : Builtin := fun _ _ _ args => do
  let (os, args) ← options "vf" args
  let functions := os.getLast?.map (·.1) = some 'f'
  args.forM fun name => do
    if functions then
      modify fun s => { s with functions := s.functions.filter (·.name != name) }
    else
      checkName name
      checkWritable name
      modify (·.unset name)
  return 0

/-! ## Options and arguments -/

/-- Show the options that are on and those that are off. -/
def showOptions : Run Unit := do
  printLine (text "Current option settings")
  let s ← get
  (Session.optionNames ++ Session.longOptions).forM fun (letter, name) =>
    printLine (text name ++ List.replicate (16 - name.length) ' ' ++
      text (if s.has letter then "on" else "off"))

/-- Show the options as commands. -/
def showOptionCommands : Run Unit := do
  let s ← get
  (Session.optionNames ++ Session.longOptions).forM fun (letter, name) =>
    printLine (text (if s.has letter then "set -o " else "set +o ") ++ text name)

/-- Turn an option on or off.  Jobs cannot be controlled, as there is no terminal. -/
def setLetter (on : Bool) (letter : Char) : Run Unit := do
  if letter = 'm' && on && !(← get).isChild then
    complain (text "can't access tty; job control turned off")
  else modify (·.setOption letter on)

/-- Turn an option with a name on or off. -/
def setNamed (on : Bool) (name : Octets) : Run Unit := do
  match (Session.optionNames ++ Session.longOptions).find? fun o => text o.2 == name with
  | some (letter, _) => setLetter on letter
  | none => fail (text "Illegal option -o " ++ name)

/-- Turn options with letters on or off; what is left of the arguments. -/
def setLetters (on : Bool) (letters : Octets) (args : List Octets) : Run (List Octets) :=
  letters.foldlM (fun args c => do
    if c = 'o' then
      match args with
      | name :: rest =>
          setNamed on name
          return rest
      | [] =>
          if on then showOptions else showOptionCommands
          return []
    else if Session.optionNames.any (·.1 == c) then
      setLetter on c
      return args
    else fail (text "Illegal option -" ++ [c])) args

/-- Read the options of a shell: what is left, and whether the end of the options is marked. -/
def shellOptions : Nat → List Octets → Run (List Octets × Bool)
  | 0, args => return (args, false)
  | n + 1, args =>
      match args with
      | ['-'] :: rest => do
          modify fun s => (s.setOption 'x' false).setOption 'v' false
          return (rest, false)
      | ['-', '-'] :: rest => return (rest, true)
      | ('-' :: letters) :: rest => do shellOptions n (← setLetters true letters rest)
      | ('+' :: letters) :: rest => do shellOptions n (← setLetters false letters rest)
      | args => return (args, false)

/-- Set options and arguments, or show variables. -/
def set : Builtin := fun _ _ _ args => do
  if args = [] then
    showVariables [] (·.value?.isSome)
    return 0
  else
    let (rest, isMarked) ← shellOptions (args.length + 1) args
    if rest ≠ [] || isMarked then
      modify ({ · with arguments := rest, optionPlace := ⟨1, none⟩ })
    return 0

/-- Drop arguments at the front. -/
def shift : Builtin := fun _ _ _ args => do
  let n ← match args with
    | [] => pure 1
    | t :: _ => number t
  if (← get).arguments.length < n then fail (text "can't shift that many")
  else
    modify fun s => { s with arguments := s.arguments.drop n, optionPlace := ⟨1, none⟩ }
    return 0

/-! ## Options of scripts -/

/-- How an option letter stands among the letters that are known: whether it takes a value. -/
def takesValue? (c : Char) : Octets → Option Bool
  | [] => none
  | k :: ':' :: rest => if k = c then some true else takesValue? c rest
  | k :: rest => if k = c then some false else takesValue? c rest

/-- The text in which the next option letter stands, with the place of the argument behind
it; nothing at the end of the options, with the place that comes then. -/
def nextLetters (place : OptionPlace) (args : List Octets) : Option Octets × Nat :=
  let inside := do
    let offset ← place.offset?
    let t := (← args[place.index - 2]?).drop offset
    if place.index ≤ 1 || t = [] then none else some t
  match inside with
  | some t => (some t, place.index)
  | none =>
      match args[place.index - 1]? with
      | some ['-', '-'] => (none, place.index + 1)
      | some ('-' :: c :: t) => (some (c :: t), place.index + 1)
      | _ => (none, place.index)

/-- What the next option comes to: the letter that is reported, the value if there is one, what
is said of it, and how far the arguments have been read. -/
structure OptionFound where
  letter : Char
  value? : Option Octets
  complaint : Octets
  place : OptionPlace

/-- The next option, by the known letters, the letters that are left and the arguments. -/
def nextOption (known letters : Octets) (index : Nat) (args : List Octets) : OptionFound :=
  let isQuiet := known.head? = some ':'
  let known := if isQuiet then known.drop 1 else known
  let c := letters.headD '?'
  let rest := letters.drop 1
  let here : OptionPlace :=
    ⟨index, ((args[index - 2]?).map fun a => a.length - rest.length)⟩
  match takesValue? c known with
  | none =>
      if isQuiet then ⟨'?', some [c], [], here⟩
      else ⟨'?', none, text "Illegal option -" ++ [c, '\n'], here⟩
  | some false => ⟨c, some [], [], here⟩
  | some true =>
      if rest ≠ [] then ⟨c, some rest, [], ⟨index, none⟩⟩
      else match args[index - 1]? with
        | some value => ⟨c, some value, [], ⟨index + 1, none⟩⟩
        | none =>
            if isQuiet then ⟨':', some [c], [], ⟨index, none⟩⟩
            else ⟨'?', none, text "No arg for -" ++ c :: text " option\n", ⟨index, none⟩⟩

/-- Read the next option among the arguments of a script. -/
def getopts : Builtin := fun _ _ _ args => do
  match args with
  | known :: name :: rest =>
      let s ← get
      let args := if rest = [] then s.arguments else rest
      match nextLetters s.optionPlace args with
      | (none, index) =>
          modify fun s =>
            { s.set Session.optionIndexName (Text.ofNat index) with
              optionPlace := ⟨index, none⟩ }
          checkName name
          Run.assign name ['?']
          return 1
      | (some letters, index) =>
          let o := nextOption known letters index args
          if o.complaint ≠ [] then emitError o.complaint
          match o.value? with
          | some t => Run.assign Session.optionArgumentName t
          | none => modify (·.unset Session.optionArgumentName)
          Run.assign Session.optionIndexName (Text.ofNat o.place.index)
          modify ({ · with optionPlace := o.place })
          checkName name
          Run.assign name [o.letter]
          return 0
  | _ => fail (text "Usage: getopts optstring var [arg...]")

/-! ## Reading -/

/-- A character that was read, and whether it may separate fields. -/
abbrev ReadChar := Char × Bool

/-- Read a line from the input: its characters, and whether it is complete. -/
def readLine (isRaw : Bool) : Run (List ReadChar × Bool) :=
  iterate (fun ((cs, escaped) : List ReadChar × Bool) => do
    match ← ask (.read 0 1) with
    | .interrupted => return .inr (cs.reverse, false)
    | .done (.ok [c]) =>
        if c = '\x00' then return .inl (cs, escaped)
        else if escaped then
          return .inl (if c = '\n' then cs else (c, false) :: cs, false)
        else if c = '\\' && !isRaw then return .inl (cs, true)
        else if c = '\n' then return .inr (cs.reverse, true)
        else return .inl ((c, true) :: cs, false)
    | _ => return .inr (cs.reverse, false)) Action.rounds ([], false)

/-- A separator that is a blank. -/
def isBlankSeparator (separators : Octets) (c : ReadChar) : Bool :=
  c.2 && separators.contains c.1 && Session.defaultSeparators.contains c.1

/-- A separator. -/
def isSeparator (separators : Octets) (c : ReadChar) : Bool := c.2 && separators.contains c.1

/-- The field at the beginning of a line, and what comes behind it and its separator. -/
def firstField (separators : Octets) (cs : List ReadChar) : List ReadChar × List ReadChar :=
  let blank := isBlankSeparator separators
  let (field, rest) := (cs.dropWhile blank).span (!isSeparator separators ·)
  let rest := match rest.dropWhile blank with
    | c :: cs => if isSeparator separators c then cs.dropWhile blank else c :: cs
    | [] => []
  (field, rest)

/-- The last field of a line: all that is left, without the separators around it. -/
def lastField (separators : Octets) (cs : List ReadChar) : List ReadChar :=
  match firstField separators cs with
  | (field, []) => field
  | _ =>
      let blank := isBlankSeparator separators
      ((cs.dropWhile blank).reverse.dropWhile blank).reverse

/-- The fields of a line for some variables. -/
def fieldsFor (separators : Octets) : List Octets → List ReadChar → List (Octets × Octets)
  | [], _ => []
  | [name], cs => [(name, (lastField separators cs).map (·.1))]
  | name :: names, cs =>
      let (field, rest) := firstField separators cs
      (name, field.map (·.1)) :: fieldsFor separators names rest

/-- Read a line into variables. -/
def read : Builtin := fun _ _ _ args => do
  let (os, names) ← options "p:r" args
  if names = [] then fail (text "arg count")
  else
    let (cs, isComplete) ← readLine (os.any (·.1 == 'r'))
    let separators := (← get).separators
    (fieldsFor separators names cs).forM fun (name, value) => do
      checkName name
      Run.assign name value
    return if isComplete then 0 else 1

end SkipAudit.Shell.Builtin
