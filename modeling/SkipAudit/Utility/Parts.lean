/-
Programs that pass on a part of what they read: the beginning or the end.
-/
import SkipAudit.Utility.Copying

namespace SkipAudit.Utility

/-! ## How much -/

/-- How much is asked for. -/
structure Extent where
  isBytes : Bool
  count : Nat
  /-- The count is taken from the other end. -/
  isInverse : Bool
  /-- What ends a line. -/
  lineEnd : Char

/-- The words of the options that both programs know. -/
def extentWords : List Word :=
  [("bytes", 'c', .needed), ("lines", 'n', .needed)]

/-- When the names of inputs are shown in front of them. -/
inductive Titling where
  | ifSeveral
  | always
  | never
deriving DecidableEq

/-- What options say of titles. -/
def titlingOf (p : Parsed) : Titling :=
  match p.lastOf? ['q', 'v'] with
  | some 'q' => .never
  | some _ => .always
  | none => .ifSeveral

/-- What is wrong with a count of lines or of bytes. -/
def extentFault (isBytes : Bool) : String :=
  if isBytes then "invalid number of bytes" else "invalid number of lines"

/-- How an input is called. -/
def inputName (file : Octets) : Octets := if file = ['-'] then text "standard input" else file

/-- Show parts of several inputs, with their names if there are several or if that is
wanted. -/
def overInputs (c : Call) (titling : Titling) (files : List Octets)
    (f : Octets → Nat → Action Bool) : Action Nat := do
  let isTitled := titling = .always || (titling = .ifSeveral && 1 < files.length)
  let (status, _) ← files.foldlM (fun (status, isFirst) file => do
    match ← openInput file with
    | .error e =>
        c.warn (text "cannot open " ++ c.quoted file ++ text " for reading: " ++ e.reason)
        return (1, isFirst)
    | .ok fd =>
        if isTitled then
          say c ((if isFirst then [] else ['\n']) ++ text "==> " ++ inputName file ++
            text " <==\n")
        let succeeds ← f file fd
        closeInput fd
        return (if succeeds then status else 1, false)) ((0, true) : Nat × Bool)
  return status

/-- Complain that an input cannot be read. -/
def warnReading (c : Call) (file : Octets) (e : FileError) : Action Unit :=
  c.warn (text "error reading " ++ c.quoted (inputName file) ++ text ": " ++ e.reason)

/-! ## The beginning -/

/-- Pass on so many bytes. -/
def pourBytes (c : Call) (fd : Nat) (count : Nat) : Action (Option FileError) :=
  Action.repeatUntil none (fun left => do
    if left = 0 then return .inr none
    else
      match ← Action.read fd (min left Action.blockSize) with
      | .ok [] => return .inr none
      | .ok bytes =>
          say c bytes
          return .inl (left - bytes.length)
      | .error e => return .inr (some e)) Action.rounds count

/-- The beginning of a text up to so many ends of lines, how many are missing, and the rest. -/
def upToLines (lineEnd : Char) : Nat → Octets → Octets × Nat × Octets
  | 0, t => ([], 0, t)
  | n, [] => ([], n, [])
  | n + 1, c :: t =>
      let (u, left, rest) := upToLines lineEnd (if c = lineEnd then n else n + 1) t
      (c :: u, left, rest)

/-- How much is read at once. -/
def partBlock : Nat := 8192

/-- Pass on so many lines.  What was read behind them is given back, if that can be. -/
def pourLines (c : Call) (fd : Nat) (e : Extent) : Action (Option FileError) :=
  Action.repeatUntil none (fun left => do
    if left = 0 then return .inr none
    else
      match ← Action.read fd partBlock with
      | .ok [] => return .inr none
      | .ok bytes =>
          let (u, left, rest) := upToLines e.lineEnd left bytes
          if rest ≠ [] then
            let _ ← Action.request (.seek fd .here (-(rest.length : Int)))
          say c u
          return .inl left
      | .error cause => return .inr (some cause)) Action.rounds e.count

/-- The last elements. -/
def lastOnes {α : Type} (n : Nat) (xs : List α) : List α := xs.drop (xs.length - n)

/-- The beginning of a text without so much at its end. -/
def withoutLast (e : Extent) (t : Octets) : Octets :=
  if e.isBytes then t.take (t.length - e.count)
  else
    let ls := linesEnding e.lineEnd t
    (ls.take (ls.length - e.count)).flatten

/-- What an old form of an extent says: digits, and letters for other options. -/
structure OldExtent where
  digits : Octets
  isBytes : Bool
  unit? : Option Char
  titling? : Option Titling
  isZero : Bool

/-- An old form of an extent, or the letter that does not belong to it. -/
def oldExtent (digits letters : Octets) : Except Char OldExtent :=
  letters.foldlM (fun (o : OldExtent) l => match l with
    | 'c' => .ok { o with isBytes := true, unit? := none }
    | 'b' | 'k' | 'm' => .ok { o with isBytes := true, unit? := some l }
    | 'l' => .ok { o with isBytes := false }
    | 'q' => .ok { o with titling? := some .never }
    | 'v' => .ok { o with titling? := some .always }
    | 'z' => .ok { o with isZero := true }
    | _ => .error l) ⟨digits, false, none, none, false⟩

/-- Show the beginning of inputs, as an extent says. -/
def headAs (c : Call) (titling : Titling) (e : Extent) (files : List Octets) : Action Nat :=
  overInputs c titling (inputsOr files) fun file fd => do
    let fault? ← if e.isInverse then do
        match ← Action.readAll fd with
        | .ok t => do
            say c (withoutLast e t)
            pure none
        | .error cause => pure (some cause)
      else if e.isBytes then pourBytes c fd e.count
      else pourLines c fd e
    match fault? with
    | some cause =>
        warnReading c file cause
        return false
    | none => return true

/-- Show the beginning of inputs. -/
def head : Utility := fun c => do
  let (old?, args) ← match c.args with
    | ('-' :: d :: ds) :: args =>
        if d.isDigit then
          let digits := (d :: ds).takeWhile Char.isDigit
          match oldExtent digits ((d :: ds).drop digits.length) with
          | .ok o => pure (some o, args)
          | .error l => c.misuse 1 (text "invalid trailing option -- " ++ [l])
        else pure (none, c.args)
    | args => pure (none, args)
  withOptions 1 "c:n:qvz0123456789"
    (extentWords ++ [("presume-input-pipe", 'π', .none), ("quiet", 'q', .none),
      ("silent", 'q', .none), ("verbose", 'v', .none), ("zero-terminated", 'z', .none)])
    { c with args } fun p => do
    match p.options.find? (·.1.isDigit) with
    | some (d, _) => c.misuse 1 (text "invalid trailing option -- " ++ [d])
    | none => pure ()
    let lineEnd := if p.has 'z' || (old?.map (·.isZero)).getD false then Octets.nul else '\n'
    let size (isBytes : Bool) (t : Octets) : Action Nat :=
      countOr 1 c (extentFault isBytes) sizeUnits 0 greatestCount t
    let fromOld : Extent ← match old? with
      | some o => do
          let n ← size o.isBytes (o.digits ++ o.unit?.toList)
          pure ⟨o.isBytes, n, false, lineEnd⟩
      | none => pure ⟨false, 10, false, lineEnd⟩
    let extent ← p.options.foldlM (fun (e : Extent) (o, value) => do
      if o = 'c' || o = 'n' then
        let isInverse := value.head? = some '-'
        let n ← size (o = 'c') (if isInverse then value.drop 1 else value)
        return ⟨o = 'c', n, isInverse, lineEnd⟩
      else return e) fromOld
    let titling := match titlingOf p, old?.bind (·.titling?) with
      | .ifSeveral, some t => t
      | t, _ => t
    headAs c titling extent p.rest

/-! ## The end -/

/-- The end of a text. -/
def endOf (e : Extent) (t : Octets) : Octets :=
  if e.isBytes then (if e.isInverse then t.drop (e.count - 1) else lastOnes e.count t)
  else
    let ls := linesEnding e.lineEnd t
    (if e.isInverse then ls.drop (e.count - 1) else lastOnes e.count ls).flatten

/-- How an input is followed. -/
structure Following where
  /-- By its name: a file that takes the place of another is followed instead. -/
  isByName : Bool
  retries : Bool
  /-- The process after whose end nothing more is awaited. -/
  pid? : Option Nat

/-- A file that is followed. -/
structure Followed where
  file : Octets
  fd? : Option Nat
  size : Nat

/-- How long it takes until somebody looks again, in microseconds. -/
def followPause : Nat := 20000

/-- The number of the file that a descriptor leads to. -/
def identityOf (fd : Nat) : Action (Option Nat) := do
  match ← Action.request (.inspect fd) with
  | some (.file n) => return some n
  | _ => return none

/-- See whether another file has taken the place of one that is followed by its name. -/
def replaced (c : Call) (x : Followed) : Action Followed := do
  let fs ← Action.request .look
  match fs.entry (Path.mk x.file), x.fd? with
  | .ok (.file d), some fd =>
      if (← identityOf fd) = some d.identity then return x
      else
        c.warn (c.quoted x.file ++ text " has been replaced;  following new file")
        Action.request (.close fd)
        match ← Action.openFile x.file .reading with
        | .ok fd => return { x with fd? := some fd, size := 0 }
        | .error _ => return { x with fd? := none }
  | .ok (.file _), none =>
      c.warn (c.quoted x.file ++ text " has appeared;  following new file")
      match ← Action.openFile x.file .reading with
      | .ok fd => return { x with fd? := some fd, size := 0 }
      | .error _ => return x
  | .error e, some fd =>
      c.warn (c.quoted x.file ++ text " has become inaccessible: " ++ e.reason)
      Action.request (.close fd)
      return { x with fd? := none }
  | _, _ => return x

/-- Begin again with a file that has become shorter. -/
def rewound (c : Call) (x : Followed) (fd : Nat) : Action Followed := do
  match ← identityOf fd with
  | none => return x
  | some n =>
      let fs ← Action.request .look
      match fs.root.fileWith? n with
      | some d =>
          if d.bytes.length < x.size then
            c.warn (c.shown (inputName x.file) ++ text ": file truncated")
            let _ ← Action.request (.seek fd .start 0)
            return { x with size := 0 }
          else return x
      | none => return x

/-- Pass on what is added to files, until there is nothing to wait for. -/
def follow (c : Call) (isTitled : Bool) (k : Following) (xs : List Followed)
    (last? : Option Octets) :
    Action Unit :=
  Action.repeatUntil () (fun ((xs, last?) : List Followed × Option Octets) => do
    let (xs, last?) ← xs.foldlM (fun ((xs, last?) : List Followed × Option Octets) x => do
      let x ← if k.isByName then replaced c x else pure x
      match x.fd? with
      | none => return (xs ++ [x], last?)
      | some fd =>
          let x ← rewound c x fd
          match ← Action.readAll fd with
          | .ok [] | .error _ => return (xs ++ [x], last?)
          | .ok bytes =>
              if isTitled && last? ≠ some x.file then
                say c (text "\n==> " ++ inputName x.file ++ text " <==\n")
              say c bytes
              return (xs ++ [{ x with size := x.size + bytes.length }], some x.file))
      (([], last?) : List Followed × Option Octets)
    let isAwaited ← match k.pid? with
      | none => pure true
      | some pid => do
          match ← Action.request (.kill pid 0) with
          | .ok () => pure true
          | .error _ => pure false
    if isAwaited = false then return .inr ()
    else
      let now ← Action.request .clock
      let _ ← Action.request (.sleepUntil (now + followPause))
      return .inl (xs, last?)) Action.rounds (xs, last?)

/-- The old form of an extent at the end: its sign, digits and letters. -/
def oldEnd? (c : Call) : Option (Bool × Octets × Char × Bool) := do
  let isAlone := match c.args with
    | [_] => true
    | [_, '-' :: _ :: _] => false
    | [_, _] => true
    | [_, b, _] => b = ['-', '-']
    | _ => false
  if isAlone = false then none
  match c.args with
  | (s :: t) :: _ =>
      if s ≠ '+' && s ≠ '-' then none
      else
        let body := if t.head? = some 'c' then t.drop 1 else t
        if s = '-' && body = [] then none
        else
          let digits := t.takeWhile Char.isDigit
          let rest := t.drop digits.length
          let (unit, rest) := match rest with
            | u :: more => if u = 'b' || u = 'c' || u = 'l' then (u, more) else ('l', rest)
            | [] => ('l', [])
          let (follows, rest) := match rest with
            | 'f' :: more => (true, more)
            | _ => (false, rest)
          if rest ≠ [] then none else some (s = '+', digits, unit, follows)
  | _ => none

/-- The words for what is followed. -/
def followWords : List (String × Bool) := [("descriptor", false), ("name", true)]

/-- The plan for the end of inputs. -/
structure TailPlan where
  extent : Extent
  titling : Titling
  following? : Option Following

/-- Show the end of inputs, as a plan says. -/
def tailAs (c : Call) (plan : TailPlan) (files : List Octets) : Action Nat := do
  let files := inputsOr files
  let isTitled := plan.titling = .always || (plan.titling = .ifSeveral && 1 < files.length)
  let retries := (plan.following?.map (·.retries)).getD false
  let (status, _, followed) ← files.foldlM
    (fun ((status, isFirst, xs) : Nat × Bool × List Followed) file => do
      match ← openInput file with
      | .error e =>
          c.warn (text "cannot open " ++ c.quoted (inputName file) ++ text " for reading: " ++
            e.reason)
          return (1, isFirst, if retries then xs ++ [⟨file, none, 0⟩] else xs)
      | .ok fd =>
          if isTitled then
            say c ((if isFirst then [] else ['\n']) ++ text "==> " ++ inputName file ++
              text " <==\n")
          match ← Action.readAll fd with
          | .ok t =>
              say c (endOf plan.extent t)
              if plan.following?.isSome then
                return (status, false, xs ++ [⟨file, some fd, t.length⟩])
              else
                closeInput fd
                return (status, false, xs)
          | .error cause =>
              warnReading c file cause
              if plan.following?.isSome then
                c.warn (c.shown file ++
                  text ": cannot follow end of this type of file; giving up on this name")
              closeInput fd
              return (1, false, xs)) (0, true, [])
  match plan.following? with
  | none => return status
  | some k =>
      let isPipe ← match ← Action.request (.inspect 0) with
        | some .pipe => pure true
        | _ => pure false
      if followed.isEmpty then
        c.warn (text "no files remaining")
        return 1
      else if files = [['-']] && isPipe then return status
      else
        follow c isTitled k followed (files.getLast?)
        return status

/-- Show the end of inputs. -/
def tail : Utility := fun c => do
  match oldEnd? c with
  | some (isFromStart, digits, unit, follows) =>
      let n ← if digits = [] then pure 10
        else countOr 1 c "invalid number" "b" 0 greatestCount digits
      let n := if unit = 'b' then n * 512 else n
      let files := match c.args.drop 1 with
        | ['-', '-'] :: files => files
        | files => files
      tailAs c ⟨⟨unit ≠ 'l', n, isFromStart, '\n'⟩, .ifSeveral,
        if follows then some ⟨false, false, none⟩ else none⟩ files
  | none =>
      withOptions 1 "c:n:fFqs:vz0123456789"
        (extentWords ++ [("follow", 'φ', .optional), ("max-unchanged-stats", 'μ', .needed),
          ("pid", 'π', .needed), ("presume-input-pipe", 'ι', .none), ("quiet", 'q', .none),
          ("retry", 'ρ', .none), ("silent", 'q', .none), ("sleep-interval", 's', .needed),
          ("verbose", 'v', .none), ("zero-terminated", 'z', .none)]) c fun p => do
        match p.options.find? (·.1.isDigit) with
        | some (d, _) => c.die 1 (text "option used in invalid context -- " ++ [d])
        | none => pure ()
        let lineEnd := if p.has 'z' then Octets.nul else '\n'
        let extent ← p.options.foldlM (fun (e : Extent) (o, value) => do
          if o = 'c' || o = 'n' then
            let t := if value.head? = some '-' then value.drop 1 else value
            let n ← countOr 1 c (extentFault (o = 'c')) sizeUnits 0 greatestCount t
            return ⟨o = 'c', n, value.head? = some '+', lineEnd⟩
          else return e) ⟨false, 10, false, lineEnd⟩
        let byName ← match p.value? 'φ' with
          | some (w :: ws) => chosen 1 c "--follow" followWords (w :: ws)
          | _ => pure false
        let pid? ← match p.value? 'π' with
          | some t => some <$> countOr 1 c "invalid PID" "" 0 (Natural.twoTo 31 - 1) t
          | none => pure none
        match p.value? 's' with
        | some t =>
            if (duration? t).isNone then c.die 1 (text "invalid number of seconds: " ++ c.quote t)
        | none => pure ()
        let follows := p.has 'f' || p.has 'F' || p.has 'φ'
        let isByName := byName || p.has 'F'
        tailAs c ⟨extent, titlingOf p, if follows then
          some ⟨isByName, p.has 'F' || p.has 'ρ', pid?⟩ else none⟩ p.rest

end SkipAudit.Utility
