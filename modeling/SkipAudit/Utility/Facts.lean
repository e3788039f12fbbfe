/-
Programs that tell facts about the system and who uses it.
-/
import SkipAudit.Utility.Accounts
import SkipAudit.Utility.Quantity

namespace SkipAudit.Utility

/-! ## Single facts -/

/-- Write a line that is always the same; operands are refused with a status. -/
def factOr (status : Nat) (t : String) : Utility := fun c =>
  withOptions status "" [] c fun p =>
    match p.rest with
    | x :: _ => c.misused status (text "extra operand " ++ c.quote x)
    | [] => do
        say c (text t)
        return 0

/-- Write a line that is always the same. -/
def fact (t : String) : Utility := factOr 1 (t ++ "\n")

/-- Tell who has logged in, which nobody has. -/
def logname : Utility := fun c =>
  withOptions 1 "" [] c fun p =>
    match p.rest with
    | x :: _ => c.misused 1 (text "extra operand " ++ c.quote x)
    | [] => c.die 1 (text "no login name")

/-- Show those who have logged in: nobody. -/
def nobody (letters : String) : Utility := fun c =>
  withOptions 1 letters
    [("all", 'a', .none), ("count", 'q', .none), ("heading", 'H', .none)] c fun p => do
    if p.has 'q' then say c (text "# users=0\n")
    else if p.has 'H' then say c (text "NAME     LINE         TIME             COMMENT\n")
    return 0

/-- How many processors there are. -/
def nproc : Utility := fun c =>
  withOptions 1 "" [("all", 'α', .none), ("ignore", 'ι', .needed)] c fun p => do
    let ignored ← match p.value? 'ι' with
      | some t => countOr 1 c "invalid number" "" 0 greatestCount t
      | none => pure 0
    match p.rest with
    | x :: _ => c.misused 1 (text "extra operand " ++ c.quote x)
    | [] =>
        say c (Text.ofNat (max 1 (4 - ignored)) ++ ['\n'])
        return 0

/-- Say whether the input is a terminal, which it never is. -/
def tty : Utility := fun c =>
  withOptions 2 "s" [("silent", 's', .none), ("quiet", 's', .none)] c fun p =>
    match p.rest with
    | x :: _ => c.misused 2 (text "extra operand " ++ c.quote x)
    | [] => do
        if !p.has 's' then say c (text "not a tty\n")
        return 1

/-- Change the settings of the terminal, which there is none. -/
def stty : Utility := fun c => do
  if c.args = [text "--help"] || c.args = [text "--version"] then
    withOptions 1 "" [] c fun _ => return 0
  else
    c.die 1 (c.quoted (text "standard input") ++ text ": " ++ FileError.notTerminal.reason)

/-- Write everything to where it is kept. -/
def sync : Utility := fun c =>
  withOptions 1 "df" [("data", 'd', .none), ("file-system", 'f', .none)] c fun p => do
    if p.has 'd' && p.has 'f' then
      c.die 1 (text "cannot specify both --data and --file-system")
    if p.has 'd' && p.rest = [] then c.die 1 (text "--data needs at least one argument")
    let fs ← Action.request .look
    p.rest.foldlM (fun status file => do
      match fs.entry ⟨file⟩ with
      | .ok _ => return status
      | .error e =>
          c.warn (text "error opening " ++ c.quoted file ++ text ": " ++ e.reason)
          return 1) 0

/-! ## The system -/

/-- What stands for a fact that nobody knows. -/
def unknownFact : String := "unknown"

/-- The facts about the system, with the letters that ask for them. -/
def systemFacts : List (Char × String) :=
  [('s', "Linux"), ('n', "localhost"), ('r', "6.1.0"), ('v', "#1 SMP PREEMPT_DYNAMIC"),
   ('m', "x86_64"), ('p', unknownFact), ('i', unknownFact), ('o', "GNU/Linux")]

/-- What the system is. -/
def uname : Utility := fun c =>
  withOptions 1 "asnrvmpio"
    [("all", 'a', .none), ("kernel-name", 's', .none), ("sysname", 's', .none),
     ("nodename", 'n', .none), ("kernel-release", 'r', .none), ("release", 'r', .none),
     ("kernel-version", 'v', .none), ("machine", 'm', .none), ("processor", 'p', .none),
     ("hardware-platform", 'i', .none), ("operating-system", 'o', .none)] c fun p => do
    match p.rest with
    | x :: _ => c.misused 1 (text "extra operand " ++ c.quote x)
    | [] =>
        let wanted := if p.has 'a' then systemFacts.filter (·.2 != unknownFact)
          else if p.options = [] then systemFacts.take 1
          else systemFacts.filter fun f => p.has f.1
        say c ((List.intersperse [' '] (wanted.map fun f => text f.2)).flatten ++ ['\n'])
        return 0

/-! ## Users -/

/-- The user that an operand of a program means. -/
def userFor? (t : Octets) : Option Accounts.User :=
  (Accounts.user? t).orElse fun _ =>
    (Text.toNat? t).bind fun n => Accounts.users.find? fun u => u.number == n

/-- The user who uses the system. -/
def ownUser : Accounts.User := ⟨"root", 0, 0⟩

/-- The line about a user. -/
def userLine (p : Parsed) (u : Accounts.User) : Octets :=
  let shownGroup := if p.has 'n' then Accounts.groupName u.group else Text.ofNat u.group
  if p.has 'u' then (if p.has 'n' then text u.name else Text.ofNat u.number)
  else if p.has 'g' || p.has 'G' then shownGroup
  else
    let group := Text.ofNat u.group ++ '(' :: Accounts.groupName u.group ++ [')']
    text "uid=" ++ Text.ofNat u.number ++ '(' :: text u.name ++ text ") gid=" ++ group ++
      text " groups=" ++ group

/-- Who the users are. -/
def userId : Utility := fun c =>
  withOptions 1 "agnruzGZ"
    [("context", 'Z', .none), ("group", 'g', .none), ("groups", 'G', .none), ("name", 'n', .none),
     ("real", 'r', .none), ("user", 'u', .none), ("zero", 'z', .none)] c fun p => do
    if p.has 'Z' then
      c.die 1 (text "--context (-Z) works only on an SELinux-enabled kernel")
    let choices := ['u', 'g', 'G'].filter p.has
    if 1 < choices.length then
      c.die 1 (text "cannot print \"only\" of more than one choice")
    if choices = [] && (p.has 'n' || p.has 'r') then
      c.die 1 (text "cannot print only names or real IDs in default format")
    if choices = [] && p.has 'z' then
      c.die 1 (text "option --zero not permitted in default format")
    let finish : Octets := if p.has 'z' then [Octets.nul] else ['\n']
    if p.rest = [] then
      say c (userLine p ownUser ++ finish)
      return 0
    else
      p.rest.foldlM (fun status t => do
        match userFor? t with
        | some u =>
            say c (userLine p u ++ finish)
            return status
        | none =>
            c.warn (c.quote t ++ text ": no such user")
            return 1) 0

/-- Show the groups of users. -/
def userGroups : Utility := fun c =>
  withOptions 1 "" [] c fun p => do
    if p.rest = [] then
      say c (text "root\n")
      return 0
    else
      p.rest.foldlM (fun status t => do
        match userFor? t with
        | some u =>
            say c (t ++ text " : " ++ Accounts.groupName u.group ++ ['\n'])
            return status
        | none =>
            c.warn (c.quote t ++ text ": no such user")
            return 1) 0

/-! ## Variables -/

/-- Show variables. -/
def printenv : Utility := fun c =>
  withLeadingOptions 2 "0" [("null", '0', .none)] c fun p => do
    let finish : Octets := if p.has '0' then [Octets.nul] else ['\n']
    if p.rest = [] then
      say c (c.environment.flatMap (· ++ finish))
      return 0
    else
      let found := p.rest.map fun n =>
        if n.contains '=' then none
        else c.environment.findSome? (Text.dropStart? (n ++ ['=']))
      say c (found.flatMap fun v? => match v? with
        | some v => v ++ finish
        | none => [])
      return if found.all (·.isSome) then 0 else 1

/-! ## Labels -/

/-- Change the security label of files, which have none. -/
def chcon : Utility := fun c =>
  withOptions 1 "HLPRhvu:r:t:l:"
    [("recursive", 'R', .none), ("reference", 'ρ', .needed), ("user", 'u', .needed),
     ("role", 'r', .needed), ("type", 't', .needed), ("range", 'l', .needed),
     ("verbose", 'v', .none), ("no-dereference", 'h', .none), ("dereference", 'δ', .none)] c
    fun p => do
    let isPartial := p.options.any fun o => "urtl".contains o.1
    let least := if p.has 'ρ' || isPartial then 1 else 2
    if p.rest.length < least then
      match p.rest.getLast? with
      | none => c.misused 1 (text "missing operand")
      | some x => c.misused 1 (text "missing operand after " ++ c.quote x)
    else
      let files := if least = 2 then p.rest.drop 1 else p.rest
      files.foldlM (fun _ file => do
        if isPartial then
          c.warn (text "can't apply partial context to unlabeled file " ++ c.quoted file)
        else
          c.warn (text "failed to change context of " ++ c.quoted file ++ text " to " ++
            c.quote (p.rest.headD []) ++ text ": Operation not supported")
        return 1) 0

/-- Run a program under a security label, which there are none of. -/
def runcon : Utility := fun c =>
  withLeadingOptions 125 "r:t:u:l:c" [] c fun p => do
    if p.rest = [] then c.die 125 (text "failed to get current context: Invalid argument")
    else c.die 125 (c.name ++ text " may be used only on a SELinux kernel")

end SkipAudit.Utility
