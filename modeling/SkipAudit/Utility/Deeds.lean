/-
What programs do to the file system: one deed after the other, each of which is done or refused.
-/
import SkipAudit.Utility.Options

namespace SkipAudit.Utility

/-! ## Parts of paths -/

/-- A path without the slashes at its end, of which one is left if there is nothing else. -/
def withoutSlashes (p : Octets) : Octets :=
  let t := (p.reverse.dropWhile (· == '/')).reverse
  if t = [] && p ≠ [] then ['/'] else t

/-- The name that a path ends in. -/
def lastName (p : Octets) : Octets :=
  let t := withoutSlashes p
  if t = ['/'] then t else (t.reverse.takeWhile (· != '/')).reverse

/-- The part of a path in front of its last name. -/
def directoryOf (p : Octets) : Octets :=
  let t := withoutSlashes p
  if t = ['/'] then t
  else
    let stem := (t.reverse.dropWhile (· != '/')).reverse
    if stem = [] then ['.'] else withoutSlashes stem

/-- A path in a directory. -/
def inside (dir name : Octets) : Octets :=
  if dir = [] || dir.getLast? = some '/' then dir ++ name else dir ++ '/' :: name

/-! ## Looking -/

/-- The entry at a path, without following a link at its end. -/
def entryAt (fs : FileSystem) (p : Octets) : Except FileError Entry := fs.entryItself ⟨p⟩

/-- Something stands at a path, even if it is a link that leads nowhere. -/
def isTaken (fs : FileSystem) (p : Octets) : Bool := (entryAt fs p).toOption.isSome

/-- The path leads to a directory. -/
def isDirectory (fs : FileSystem) (p : Octets) : Bool := (fs.listing? ⟨p⟩).isSome

/-- The entry is a directory. -/
def isDirectoryEntry : Entry → Bool
  | .dir .. => true
  | _ => false

/-- The entry is a symbolic link. -/
def isLinkEntry : Entry → Bool
  | .link .. => true
  | _ => false

/-- There is no entry. -/
def isAbsence (e : FileError) : Bool := e = .notFound || e = .notDirectory

/-- Two paths lead to one and the same entry. -/
def areSame (fs : FileSystem) (p q : Octets) : Bool :=
  match fs.entry ⟨p⟩, fs.entry ⟨q⟩ with
  | .ok a, .ok b => FileSystem.sameFile a b
  | _, _ => false

/-- Why nothing is found at a path. -/
def causeAt (fs : FileSystem) (p : Octets) : FileError :=
  match fs.entry ⟨p⟩ with
  | .error e => e
  | .ok _ => .notDirectory

/-! ## Deeds -/

/-- A deed: the file system afterwards and what is written, or a complaint. -/
abbrev Deed := FileSystem → Except Octets (FileSystem × Octets)

/-- Do something to the file system. -/
def perform (c : Call) (d : Deed) : Action Nat := do
  let report ← Action.request (.amend fun fs =>
    match d fs with
    | .ok (fs, out) => (fs, ⟨0, [(.output, out)]⟩)
    | .error e => (fs, ⟨1, [(.errors, c.complaint e)]⟩))
  deliver c report

/-- Do something for each operand. -/
def performAll (c : Call) (operands : List Octets) (d : Octets → Deed) : Action Nat :=
  operands.foldlM (fun status a => do return max status (← perform c (d a))) 0

/-- Go on with each operand in turn; the status is the highest. -/
def forEach (operands : List Octets) (f : Octets → Action Nat) : Action Nat :=
  operands.foldlM (fun status a => do return max status (← f a)) 0

/-- A deed that may be refused, and writes something if it is not. -/
def attempt (out : Octets) (complaint : FileError → Octets)
    (f : FileSystem → Except FileError FileSystem) : Deed := fun fs =>
  match f fs with
  | .ok fs => .ok (fs, out)
  | .error e => .error (complaint e)

/-- Try to change the file system, and tell nothing. -/
def change (f : FileSystem → Except FileError FileSystem) : Action (Option FileError) := do
  let fs ← Action.request .look
  match f fs with
  | .error e => return some e
  | .ok _ =>
      let _ ← Action.request (.amend fun fs => match f fs with
        | .ok fs => (fs, ⟨0, []⟩)
        | .error _ => (fs, ⟨1, []⟩))
      return none

/-- A complaint that something cannot be done with a file. -/
def cannot (c : Call) (what : String) (file : Octets) (e : FileError) : Octets :=
  text what ++ ' ' :: c.quoted file ++ text ": " ++ e.reason

/-- A complaint that something cannot be done, in which the name stands behind the reason for it
without a word in front. -/
def because (c : Call) (file : Octets) (e : FileError) : Octets :=
  c.shown file ++ text ": " ++ e.reason

/-- A complaint of an operand too many. -/
def extraOperand (c : Call) (x : Octets) : Octets := text "extra operand " ++ c.quote x

end SkipAudit.Utility
