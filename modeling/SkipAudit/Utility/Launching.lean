/-
Programs that run others under other circumstances, and those that find programs or send signals
to them.
-/
import SkipAudit.Utility.Quantity
import SkipAudit.Utility.Watching

namespace SkipAudit.Utility

/-! ## Other circumstances -/

/-- Run a program that does not mind when the terminal goes. -/
def nohup : Utility := fun c =>
  withLeadingOptions 125 "" [] c fun p => do
    if p.rest = [] then c.misused 125 (text "missing operand")
    else
      let _ ← Action.request (.handle 1 .ignored)
      becomeOrWarn c "failed to run command " p.rest c.environment

/-- Arguments in which an adjustment in its old form has the form of an option. -/
def withoutOldAdjustments : List Octets → List Octets
  | ('-' :: s :: t) :: rest =>
      let digits := if s = '-' || s = '+' then t else s :: t
      if digits.head?.any Char.isDigit then text "-n" :: (s :: t) :: withoutOldAdjustments rest
      else if s :: t = ['n'] then
        match rest with
        | x :: rest => ['-', 'n'] :: x :: withoutOldAdjustments rest
        | [] => [['-', 'n']]
      else if s = 'n' then ('-' :: s :: t) :: withoutOldAdjustments rest
      else ('-' :: s :: t) :: rest
  | args => args

/-- Read an adjustment; one that is too large is as large as it may be. -/
def adjustment? (t : Octets) : Option Int :=
  let (isNegative, u) := match t.dropWhile Signed64.isSpace with
    | '-' :: u => (true, u)
    | '+' :: u => (false, u)
    | u => (false, u)
  if u = [] || !u.all Char.isDigit then none
  else
    let n : Nat := min ((Text.toNat? u).getD 0) 39
    some (if isNegative then -(n : Int) else n)

/-- Run a program that lets others go first. -/
def nice : Utility := fun c => do
  withLeadingOptions 125 "n:" [("adjustment", 'n', .needed)]
    { c with args := withoutOldAdjustments c.args } fun p => do
    let wish ← match p.value? 'n' with
      | none => pure 10
      | some t =>
          match adjustment? t with
          | some n => pure n
          | none => c.die 125 (text "invalid adjustment " ++ c.quote t)
    if p.rest = [] then
      if p.has 'n' then c.misused 125 (text "a command must be given with an adjustment")
      else
        let n ← Action.request (.giveWay 0)
        say c ((toString n).toList ++ ['\n'])
        return 0
    else
      let _ ← Action.request (.giveWay wish)
      becomeOrWarn c "" p.rest c.environment

/-- Run a program at the head of a group of its own. -/
def setsid : Utility := fun c =>
  withLeadingOptions 1 "cfw" [("ctty", 'c', .none), ("fork", 'f', .none), ("wait", 'w', .none)] c
    fun p => do
      if p.rest = [] then c.misused 1 (text "no command specified")
      else
        let run : Action Nat := do
          Action.request .leadGroup
          let cause ← become p.rest c.environment
          c.warn (text "failed to execute " ++ p.rest.headD [] ++ text ": " ++ cause.reason)
          return refusedStatus cause
        if p.has 'f' then
          let child ← Action.fork (Action.toProc run)
          if p.has 'w' then
            match ← awaitEnd child with
            | .exited status => return status
            | .killed n => return n
            | .outOfTime => return 1
          else return 0
        else run

/-- The variable for what is to be done with a stream, if its option is given. -/
def bufferVariable? (c : Call) (p : Parsed) (letter : Char) (name : String) :
    Action (Option Octets) := do
  match p.value? letter with
  | none => return none
  | some t =>
      let found ← if t = ['L'] then pure t
        else match count sizeUnits t with
          | .ok n => pure (Text.ofNat n)
          | .error e => c.die 125 (text "invalid mode " ++ c.quote t ++ countReason e)
      return some (text name ++ '=' :: found)

/-- Where the library stands that sees to it. -/
def bufferLibrary : Octets := text "LD_PRELOAD=/usr/libexec/coreutils/libstdbuf.so"

/-- Run a program whose streams are written in another rhythm. -/
def stdbuf : Utility := fun c =>
  withLeadingOptions 125 "i:o:e:"
    [("input", 'i', .needed), ("output", 'o', .needed), ("error", 'e', .needed)] c fun p => do
    if (p.values 'i').contains ['L'] then c.misuse 125 (text "line buffering stdin is meaningless")
    let settings ← [('i', "_STDBUF_I"), ('o', "_STDBUF_O"), ('e', "_STDBUF_E")].filterMapM
      fun (letter, name) => bufferVariable? c p letter name
    if p.rest = [] then c.misused 125 (text "missing operand")
    else if settings = [] then
      c.misused 125 (text "you must specify a buffering mode option")
    else
      let environment := (settings ++ [bufferLibrary]).foldl withVariable c.environment
      becomeOrWarn c "failed to run command " p.rest environment

/-! ## Finding programs -/

/-- The letters of the arguments in front, as long as they begin with a hyphen. -/
def leadingLetters : List Octets → Octets × List Octets
  | ['-', '-'] :: rest => ([], rest)
  | ('-' :: l :: ls) :: rest =>
      let (more, rest) := leadingLetters rest
      (l :: ls ++ more, rest)
  | args => ([], args)

/-- Tell where programs are. -/
def which : Utility := fun c => do
  let (letters, names) := leadingLetters c.args
  match letters.find? fun l => l ≠ 'a' && l ≠ 's' with
  | some l =>
      let _ ← Action.write 2 (text "Illegal option -" ++ l :: ['\n'])
      say c (text "Usage: /usr/bin/which [-as] args\n")
      return 2
  | none =>
      let fs ← Action.request .look
      let path := (c.valueOf? "PATH").getD usualPath
      let isProgram (p : Octets) : Bool := match fs.entry ⟨p⟩ with
        | .ok (.file d) => d.isExecutable
        | _ => false
      names.foldlM (fun status name => do
        let found := (Shell.Programs.candidates path name).filter isProgram
        let found := if letters.contains 'a' then found else found.take 1
        if !letters.contains 's' then say c (found.flatMap (· ++ ['\n']))
        return if found = [] then 1 else status) (if names = [] then 1 else 0)

/-! ## Signals -/

/-- The signal and the receivers that arguments ask for. -/
def signalAndTargets? : List Octets → Option (Nat × List Octets)
  | ['-', 's'] :: t :: args => (signalNamed? t).map (·, args)
  | ['-', '-'] :: args => some (15, args)
  | ('-' :: t) :: args => (signalNamed? t).map (·, args)
  | args => some (15, args)

/-- Send a signal to processes. -/
def kill : Utility := fun c => do
  match signalAndTargets? c.args with
  | none => do
      c.warn (text "invalid argument " ++ ((c.args.headD []).drop 1).take 1)
      return 1
  | some (n, targets) =>
      if targets = [] then return 1
      else
        targets.foldlM (fun status t => do
          let pid? : Option Int := match t with
            | '-' :: u => (Text.toNat? u).map fun k => -(k : Int)
            | u => (Text.toNat? u).map Int.ofNat
          match pid? with
          | none => do
              c.warn (text "failed to parse argument: " ++ '\'' :: t ++ ['\''])
              return 1
          | some pid =>
              match ← Action.request (.kill pid n) with
              | .ok () => return status
              | .error e => do
                  c.warn ('(' :: t ++ text "): " ++ e.reason)
                  return 1) 0

end SkipAudit.Utility
