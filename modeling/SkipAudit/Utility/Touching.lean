/-
Programs that set the times and the sizes of files.
-/
import SkipAudit.Utility.Dates
import SkipAudit.Utility.Deeds

namespace SkipAudit.Utility

namespace Touching

/-! ## Times -/

/-- Two digits of a text as a number. -/
def pairs? : Octets → Option (List Nat)
  | [] => some []
  | [_] => none
  | a :: b :: rest => do
      let n ← Text.digit? a
      let m ← Text.digit? b
      return (n * 10 + m) :: (← pairs? rest)

/-- The year that is meant by its last two digits. -/
def yearOfPair (n : Nat) : Nat := if n < 69 then 2000 + n else 1900 + n

/-- The moment that digits stand for: month, day, hour and minute, with a year in front or without,
and with seconds behind a point or without. -/
def ofDigits? (zone : Zone) (thisYear : Int) (t : Octets) : Option Int := do
  let (whole, rest) := t.span (· != '.')
  let seconds ← match rest with
    | [] => some 0
    | [_, a, b] => (← pairs? [a, b]).head?
    | _ => none
  let (year, month, day, hour, minute) ← match ← pairs? whole with
    | [month, day, hour, minute] => some (thisYear, month, day, hour, minute)
    | [year, month, day, hour, minute] => some ((yearOfPair year : Int), month, day, hour, minute)
    | [century, year, month, day, hour, minute] =>
        some (((century * 100 + year : Nat) : Int), month, day, hour, minute)
    | _ => none
  let c : Civil := ⟨year, month, day, hour, minute, 0⟩
  if c.isValid && seconds ≤ 60 then
    some ((c.seconds + (seconds : Nat) - zone.offset) * Moment.perSecond)
  else none

/-- Which times are set. -/
structure Chosen where
  accessed : Bool
  modified : Bool

/-- The times that are set; none means now. -/
structure Times where
  accessed? : Option Int
  modified? : Option Int

/-- The words for times. -/
def timeWords : List (String × Char) :=
  [("atime", 'a'), ("access", 'a'), ("use", 'a'), ("mtime", 'm'), ("modify", 'm')]

/-- Attributes with other times. -/
def Chosen.apply (k : Chosen) (times : Times) (now : Int) (a : Attributes) : Attributes :=
  { a with
    accessed := if k.accessed then times.accessed?.getD now else a.accessed
    modified := if k.modified then times.modified?.getD now else a.modified }

/-- Set the times of a file. -/
def touchOne (c : Call) (p : Parsed) (k : Chosen) (times : Times) (file : Octets) : Action Nat := do
  if file = ['-'] then
    match ← Action.request (.inspect 1) with
    | some (.file identity) =>
        let _ ← Action.request (.amend fun fs =>
          (fs.updateAttributes identity fun a => { k.apply times fs.now a with changed := fs.now },
            ⟨0, []⟩))
        return 0
    | some _ => return 0
    | none =>
        if p.has 'c' then return 0
        else
          c.warn (cannot c "setting times of" file .badDescriptor)
          return 1
  else
    let path : Path := ⟨file⟩
    let followLast := !p.has 'h'
    let made? ← if p.has 'c' || p.has 'h' then pure none
      else change fun fs =>
        match fs.locateForWriting path with
        | .ok (.free ..) => fs.writeBytes path []
        | .ok (.taken _ (.dir ..)) => .error .isDirectory
        | .ok _ => .ok fs
        | .error e => .error e
    let set? ← change fun fs =>
      if file.getLast? = some '/' && (fs.listing? path).isNone &&
          fs.pathExists ⟨withoutSlashes file⟩ then
        .error .notDirectory
      else fs.modifyEntry followLast path (k.apply times fs.now)
    match set?, made? with
    | none, _ => return 0
    | some e, some e' =>
        if e' = .isDirectory then c.warn (cannot c "setting times of" file e)
        else c.warn (cannot c "cannot touch" file e')
        return 1
    | some e, none =>
        if p.has 'c' && e = .notFound then return 0
        else
          c.warn (cannot c "setting times of" file e)
          return 1

/-- A moment that a text spells, as seen from another one, or the end with a complaint. -/
def spelledOr (c : Call) (now : Moment) (t : Octets) : Action Int :=
  match now.read? t with
  | some m => pure m.total
  | none => c.die 1 (text "invalid date format " ++ c.quote t)

end Touching

open Touching in
/-- Set the times of files, which are made if they are not there. -/
def touch : Utility := fun c =>
  withOptions 1 "acd:fhmr:t:"
    [("time", 'τ', .needed), ("no-create", 'c', .none), ("date", 'd', .needed),
     ("reference", 'r', .needed), ("no-dereference", 'h', .none)] c fun p => do
    let zone := zoneOf c
    let now ← momentNow zone
    let mut stamp? : Option Int := none
    let mut letters : List Char := []
    for (o, w) in p.options do
      if o = 't' then
        match ofDigits? zone now.civil.year w with
        | some n => stamp? := some n
        | none => c.die 1 (text "invalid date format " ++ c.quote w)
      else if o = 'τ' then
        let letter ← chosen 1 c "--time" timeWords w
        letters := letter :: letters
      else if o = 'a' || o = 'm' then letters := o :: letters
    let k : Chosen := ⟨letters = [] || letters.contains 'a', letters = [] || letters.contains 'm'⟩
    if stamp?.isSome && (p.has 'r' || p.has 'd') then
      c.misuse 1 (text "cannot specify times from more than one source")
    let times : Times ← match p.value? 'r', p.value? 'd', stamp? with
      | some file, date?, _ => do
          let fs ← Action.request .look
          match if p.has 'h' then entryAt fs file else fs.entry ⟨file⟩ with
          | .error e => c.die 1 (cannot c "failed to get attributes of" file e)
          | .ok e =>
              let seen (n : Int) : Action (Option Int) :=
                match date? with
                | none => pure (some n)
                | some t => some <$> spelledOr c (.ofNanoseconds zone n) t
              let accessed? ← seen e.attributes.accessed
              let modified? ← seen e.attributes.modified
              pure ⟨accessed?, modified?⟩
      | none, some t, _ => do
          let n ← spelledOr c now t
          pure ⟨some n, some n⟩
      | none, none, some n => pure ⟨some n, some n⟩
      | none, none, none => pure ⟨none, none⟩
    if p.rest = [] then c.misuse 1 (text "missing file operand")
    forEach p.rest (touchOne c p k times)

/-! ## Sizes -/

namespace Touching

/-- How a new size depends on the old one. -/
inductive Manner where
  | fixed
  | relative
  | atMost
  | atLeast
  | down
  | up
deriving DecidableEq

/-- The new size. -/
def Manner.size (m : Manner) (old : Nat) (n : Int) : Nat :=
  (match m with
    | .fixed => n
    | .relative => old + n
    | .atMost => min (old : Int) n
    | .atLeast => max (old : Int) n
    | .down => old - Int.tmod old n
    | .up => if Int.tmod old n = 0 then old else old + (n - Int.tmod old n)).toNat

/-- The units of sizes. -/
def sizeLetters : String := "EgGkKmMPtTYZ0"

/-- A size with a sign in front, as a number. -/
def signedSize? (t : Octets) : Except CountFault Int :=
  match t.dropWhile Signed64.isSpace with
  | '-' :: u =>
      if u.head? = some '+' then .error .invalid
      else (count sizeLetters u).map fun n => -(n : Int)
  | '+' :: u => if u.head? = some '+' then .error .invalid else (count sizeLetters u).map Int.ofNat
  | u => (count sizeLetters u).map Int.ofNat

/-- Read a size with what stands in front of it. -/
def sizeOr (c : Call) (t : Octets) : Action (Manner × Int) := do
  let t := t.dropWhile Signed64.isSpace
  let (manner, rest) := match t with
    | '<' :: u => (Manner.atMost, u)
    | '>' :: u => (.atLeast, u)
    | '/' :: u => (.down, u)
    | '%' :: u => (.up, u)
    | u => (.fixed, u)
  let rest := rest.dropWhile Signed64.isSpace
  let isSigned := rest.head?.any fun x => x = '+' || x = '-'
  if isSigned && manner ≠ .fixed then c.misuse 1 (text "multiple relative modifiers specified")
  let manner := if isSigned then Manner.relative else manner
  let refuse (reason : Octets) : Action (Manner × Int) :=
    c.die 1 (text "Invalid number: " ++ c.quote rest ++ reason)
  match signedSize? rest with
  | .error e => refuse (countReason e)
  | .ok n =>
      if Natural.twoTo 63 ≤ n.natAbs then refuse (countReason .tooLarge)
      else if (manner = .down || manner = .up) && n = 0 then c.die 1 (text "division by zero")
      else return (manner, n)

/-- The size up to which files grow. -/
def greatestSize : Nat := Natural.twoTo 26

/-- Give a file a size; `known?` is the old size, if that of another file counts. -/
def truncateOne (c : Call) (p : Parsed) (manner : Manner) (n : Int) (known? : Option Nat)
    (file : Octets) : Action Nat := do
  let mode : OpenMode := ⟨false, true, !p.has 'c', false, false, false, FileSystem.fileMode⟩
  match ← Action.openFile file mode with
  | .error e =>
      if p.has 'c' && e = .notFound then return 0
      else
        c.warn (text "cannot open " ++ c.quoted file ++ text " for writing: " ++ e.reason)
        return 1
  | .ok fd =>
      let opened ← Action.request (.inspect fd)
      let n := if p.has 'o' then n * 4096 else n
      let refuse (size : Nat) (e : FileError) : Action Nat := do
        c.warn (text "failed to truncate " ++ c.quoted file ++ text " at " ++ Text.ofNat size ++
          text " bytes: " ++ e.reason)
        return 1
      let status ← match opened with
        | some (.file identity) => do
            let fs ← Action.request .look
            let old := ((fs.root.fileWith? identity).map (·.bytes.length)).getD 0
            let size := manner.size (known?.getD old) n
            if greatestSize < size then refuse size .tooLarge
            else
              let _ ← Action.request (.amend fun fs =>
                match fs.root.fileWith? identity with
                | some d =>
                    let old := d.bytes.length
                    (fs.rewriteFile identity (d.bytes.take size ++ List.replicate (size - old) 0),
                      ⟨0, []⟩)
                | none => (fs, ⟨0, []⟩))
              return 0
        | _ => refuse (manner.size (known?.getD 0) n) .invalidArgument
      closeInput fd
      return status

end Touching

open Touching in
/-- Give files a size. -/
def truncate : Utility := fun c =>
  withOptions 1 "cor:s:"
    [("no-create", 'c', .none), ("io-blocks", 'o', .none), ("reference", 'r', .needed),
     ("size", 's', .needed)] c fun p => do
    let size? ← (p.values 's').foldlM (fun _ t => some <$> sizeOr c t) none
    let sizeWord := c.quote (text "--size")
    let otherWord := c.quote (text "--reference")
    if !p.has 'r' && size?.isNone then
      c.misuse 1 (text "you must specify either " ++ sizeWord ++ text " or " ++ otherWord)
    if p.has 'r' && (size?.any fun x => x.1 = Manner.fixed) then
      c.misuse 1 (text "you must specify a relative " ++ sizeWord ++ text " with " ++ otherWord)
    if p.has 'o' && size?.isNone then
      c.misuse 1 (c.quote (text "--io-blocks") ++ text " was specified but " ++ sizeWord ++
        text " was not")
    if p.rest = [] then c.misuse 1 (text "missing file operand")
    let known? ← match p.value? 'r' with
      | none => pure none
      | some file => do
          let fs ← Action.request .look
          match fs.entry ⟨file⟩ with
          | .ok (.file d) => pure (some d.bytes.length)
          | .ok (.dir ..) => pure (some 4096)
          | .ok _ => pure (some 0)
          | .error e => c.die 1 (cannot c "cannot stat" file e)
    match size?, known? with
    | some (manner, n), known? => forEach p.rest (truncateOne c p manner n known?)
    | none, known? => forEach p.rest (truncateOne c p .fixed (known?.getD 0) none)

end SkipAudit.Utility
