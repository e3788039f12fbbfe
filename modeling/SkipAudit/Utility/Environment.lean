/-
The program that runs another one with other variables, in another place, or with signals taken
in another way.

The words of a text may stand in the place of an option with that text, split as a shell would
split them.
-/
import SkipAudit.Utility.Starting

namespace SkipAudit.Utility

/-! ## Splitting -/

/-- What is wrong with a text that is to be split. -/
inductive SplitFault where
  | unclosed
  | badSequence (c : Char)
  | loneBackslash
  | badExpansion (rest : Octets)
  | quotedStop

/-- The wording of such a fault. -/
def SplitFault.message : SplitFault → Octets
  | .unclosed => text "no terminating quote in -S string"
  | .badSequence c => text "invalid sequence '\\" ++ c :: text "' in -S"
  | .loneBackslash => text "invalid backslash at end of string in -S"
  | .badExpansion rest =>
      text "only $\x7bVARNAME\x7d expansion is supported, error at: " ++ rest
  | .quotedStop => text "'\\c' must not appear in double-quoted -S string"

/-- The name in braces that a text begins with, and what is behind it. -/
def bracedName? : Octets → Option (Octets × Octets)
  | '\x7b' :: t =>
      let name := t.takeWhile fun c => c.isAlphanum || c = '_'
      match name, t.drop name.length with
      | c :: _, '\x7d' :: rest => if c.isDigit then none else some (name, rest)
      | _, _ => none
  | _ => none

/-- How far a text has been split into words: the words, last one first, and the word that is
being read, if there is one. -/
structure Split where
  words : List Octets
  word? : Option Octets

namespace Split

/-- With more in the word that is being read. -/
def add (s : Split) (t : Octets) : Split := { s with word? := some (s.word?.getD [] ++ t) }

/-- With the word finished, if there is one. -/
def cut (s : Split) : Split :=
  match s.word? with
  | some w => ⟨w :: s.words, none⟩
  | none => s

/-- All words. -/
def all (s : Split) : List Octets := s.cut.words.reverse

end Split

/-- A name has a blank in it. -/
def hasBlank (t : Octets) : Bool := t.any fun x => x = ' ' || ('\t' ≤ x && x ≤ '\r')

/-- The character that a letter behind a backslash stands for. -/
def escapedLetter? : Char → Option Char
  | 'f' => some '\x0c'
  | 'n' => some '\n'
  | 'r' => some '\r'
  | 't' => some '\t'
  | 'v' => some '\x0b'
  | c => if "#$\\\"'".contains c then some c else none

/-- Split a text into words as a shell would, where `quote?` is the quotation mark that is open;
the number bounds the length. -/
def splitWithin (valueOf : Octets → Octets) :
    Nat → Option Char → Split → Octets → Except SplitFault (List Octets)
  | 0, _, s, _ => .ok s.all
  | n + 1, quote?, s, t =>
      let go := splitWithin valueOf n
      match quote?, t with
      | none, [] => .ok s.all
      | some _, [] => .error .unclosed
      | some '\'', c :: t =>
          match c, t with
          | '\'', t => go none s t
          | '\\', d :: t =>
              if d = '\'' || d = '\\' then go quote? (s.add [d]) t
              else go quote? (s.add ['\\', d]) t
          | c, t => go quote? (s.add [c]) t
      | _, '\\' :: [] => .error .loneBackslash
      | _, '\\' :: 'c' :: _ => if quote?.isSome then .error .quotedStop else .ok s.all
      | _, '\\' :: '_' :: t => if quote?.isSome then go quote? (s.add [' ']) t else go none s.cut t
      | _, '\\' :: c :: t =>
          match escapedLetter? c with
          | some d => go quote? (s.add [d]) t
          | none => .error (.badSequence c)
      | _, '$' :: t =>
          match bracedName? t with
          | some (name, t) => go quote? (s.add (valueOf name)) t
          | none => .error (.badExpansion ('$' :: t))
      | some q, c :: t => if c = q then go none s t else go quote? (s.add [c]) t
      | none, c :: t =>
          if c = '\'' || c = '"' then go (some c) (s.add []) t
          else if hasBlank [c] then go none s.cut t
          else if c = '#' && s.word?.isNone then .ok s.all
          else go none (s.add [c]) t

/-- Split a text into words. -/
def splitWords (valueOf : Octets → Octets) (t : Octets) : Except SplitFault (List Octets) :=
  splitWithin valueOf (t.length + 1) none ⟨[], none⟩ t

/-! ## Options -/

/-- The options of the program. -/
def variableOptions : Known :=
  ⟨"C:iS:u:v0",
   [("ignore-environment", 'i', .none), ("null", '0', .none), ("unset", 'u', .needed),
    ("chdir", 'C', .needed), ("split-string", 'S', .needed), ("debug", 'v', .none),
    ("block-signal", 'β', .optional), ("default-signal", 'δ', .optional),
    ("ignore-signal", 'ι', .optional), ("list-signal-handling", 'λ', .none)] ++
      Known.commonWords, true⟩

/-- Where help for the first line of a script is offered. -/
def splitHint (c : Call) : Octets :=
  c.complaint (text "use -[v]S to pass options in shebang lines")

/-- Options up to one for splitting, with the arguments behind it. -/
def upToSplit? (args : List Octets) : Option (List (Char × Octets) × Octets × List Octets) :=
  (List.range (args.length + 1)).findSome? fun k =>
    match variableOptions.parse (args.take k) with
    | .ok ⟨options, []⟩ =>
        match options.getLast? with
        | some ('S', t) => some (options.dropLast, t, args.drop k)
        | _ => none
    | _ => none

/-- Options, with what is told of splitting on the way, and the arguments behind them. -/
structure Unfolded where
  options : List (Char × Octets)
  told : Octets
  rest : List Octets

/-- What is told of a text that was split. -/
def splitReport (c : Call) (t : Octets) (words : List Octets) : Octets :=
  text "split -S:  " ++ c.quote t ++ text "\n into:    " ++ c.quote (words.headD []) ++ ['\n'] ++
    (words.drop 1).flatMap fun w => text "     &    " ++ c.quote w ++ ['\n']

/-- Options and the arguments behind them, where the words of a text that is to be split stand
in the place of the option with that text; the number bounds how often. -/
def splitArguments (c : Call) (isVerbose : Bool) :
    Nat → List Octets → Except (List Octets) Unfolded
  | 0, args => .ok ⟨[], [], args⟩
  | n + 1, args =>
      match upToSplit? args with
      | some (before, t, after) =>
          let valueOf (name : Octets) : Octets :=
            (c.environment.findSome? (Text.dropStart? (name ++ ['=']))).getD []
          match splitWords valueOf t with
          | .error f => .error [c.complaint f.message]
          | .ok words => do
              let isVerbose := isVerbose || before.any (·.1 == 'v')
              let more ← splitArguments c isVerbose n (words ++ after)
              let told := if isVerbose then splitReport c t words else []
              return ⟨before ++ more.options, told ++ more.told, more.rest⟩
      | none =>
          match variableOptions.parse args with
          | .ok p => .ok ⟨p.options, [], p.rest⟩
          | .error m =>
              match aboutItself? c m.before with
              | some _ => .ok ⟨m.before, [], []⟩
              | none =>
                  .error (c.complaint m.message ::
                    ((if m.message = text "invalid option -- ' '" then [splitHint c] else []) ++
                      [c.hint]))

/-! ## Signals -/

/-- The numbers of the signals that a list names, or the name of one that there is not. -/
def signalsIn (t : Octets) : Except Octets (List Nat) :=
  (Text.cutAt ',' t).mapM fun w =>
    match Signal.ofWord? (w.map Char.toUpper) with
    | some s => if s.number = 0 then .error w else .ok s.number
    | none => .error w

/-- Take signals in another way, as an option says: by default, or not at all. -/
def takeSignals (c : Call) (h : Handling) (t : Octets) : Action Unit := do
  if t = [] then
    for s in Signal.all do
      if s.number ≠ Signal.ofKill && s.number ≠ Signal.ofStop then
        let _ ← Action.request (.handle s.number h)
  else
    match signalsIn t with
    | .error w => c.misuse 125 (c.quote w ++ text ": invalid signal")
    | .ok ns =>
        for n in ns do
          if n = Signal.ofKill || n = Signal.ofStop then
            c.die 125 (text "failed to set signal action for signal " ++ Text.ofNat n ++
              text ": Invalid argument")
          let _ ← Action.request (.handle n h)

/-- A signal that is not taken, as it is told. -/
def ignoredLine (s : Signal) : Octets :=
  s.name ++ List.replicate (10 - s.name.length) ' ' ++ text " (" ++
    (if s.number < 10 then [' '] else []) ++ Text.ofNat s.number ++ text "): IGNORE\n"

/-- Tell which signals are not taken. -/
def tellSignals : Action Unit := do
  for s in Signal.all do
    let old ← Action.request (.handle s.number .byDefault)
    if old = .ignored then
      let _ ← Action.request (.handle s.number .ignored)
      let _ ← Action.write 2 (ignoredLine s)

/-! ## Running -/

/-- Tell something, if that is wanted. -/
def tell (isVerbose : Bool) (t : Octets) : Action Unit := do
  if isVerbose then
    let _ ← Action.write 2 (t ++ ['\n'])

/-- Become a program, in some directory. -/
def runIn (c : Call) (isVerbose : Bool) (place? : Option Octets) (args environment : List Octets) :
    Action Nat := do
  match place? with
  | none => pure ()
  | some dir => do
      tell isVerbose (text "chdir:    " ++ c.quoted dir)
      match ← Action.request (.changeDirectory dir) with
      | .error e => c.die 125 (cannotEnter c dir e)
      | .ok () => pure ()
  let name := args.headD []
  tell isVerbose (text "executing: " ++ name)
  for (a, i) in args.zipIdx do
    tell isVerbose (text "   arg[" ++ Text.ofNat i ++ text "]= " ++ c.quote a)
  let cause ← become args environment
  c.warn (c.quote name ++ text ": " ++ cause.reason)
  if cause = .notFound && hasBlank name then
    let _ ← Action.write 2 (splitHint c)
  return refusedStatus cause
where
  /-- A directory cannot be gone to. -/
  cannotEnter (c : Call) (dir : Octets) (e : FileError) : Octets :=
    text "cannot change directory to " ++ c.quoted dir ++ text ": " ++ e.reason

/-- Run a program with other variables, or show them. -/
def env : Utility := fun c => do
  match splitArguments c false (Natural.total (c.args.map List.length) + 1) c.args with
  | .error lines => do
      let _ ← Action.write 2 lines.flatten
      return 125
  | .ok ⟨options, told, rest⟩ => do
      match aboutItself? c options with
      | some t => do
          say c t
          Action.exit 0
      | none => pure ()
      if told ≠ [] then
        let _ ← Action.write 2 told
      let has (o : Char) : Bool := options.any (·.1 == o)
      let isVerbose := has 'v'
      let (isBare, rest) := match rest with
        | ['-'] :: rest => (true, rest)
        | rest => (has 'i', rest)
      let removed := options.filterMap fun (o, v) => if o = 'u' then some v else none
      let signalOption? (o : Char) : Option Handling :=
        match o with
        | 'δ' => some .byDefault
        | 'ι' | 'β' => some .ignored
        | _ => none
      for (_, v) in options.filter fun o => (signalOption? o.1).isSome do
        match if v = [] then .ok [] else signalsIn v with
        | .error w => c.misuse 125 (c.quote w ++ text ": invalid signal")
        | .ok _ => pure ()
      let kept ← if isBare then do
          tell isVerbose (text "cleaning environ")
          pure []
        else removed.foldlM (fun kept n => do
          tell isVerbose (text "unset:    " ++ n)
          if n = [] || n.contains '=' then
            c.die 125 (text "cannot unset " ++ c.quote n ++ text ": Invalid argument")
          else return withoutVariable kept n) c.environment
      let environment ← (rest.takeWhile (·.contains '=')).foldlM (fun held a => do
        tell isVerbose (text "setenv:   " ++ a)
        return withVariable held a) kept
      let place? := ((options.filter (·.1 == 'C')).getLast?).map (·.2)
      match rest.dropWhile (·.contains '='), place? with
      | [], some _ => c.misused 125 (text "must specify command with --chdir (-C)")
      | [], none => do
          say c (environment.flatMap (· ++ [if has '0' then Octets.nul else '\n']))
          return 0
      | args, place? =>
          if has '0' then c.misused 125 (text "cannot specify --null (-0) with command")
          else
            for (o, v) in options do
              match signalOption? o with
              | some h => takeSignals c h v
              | none => pure ()
            if has 'λ' then tellSignals
            runIn c isVerbose place? args environment

end SkipAudit.Utility
