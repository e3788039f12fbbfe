/-
The program that edits texts by a program of its own.
-/
import SkipAudit.Utility.Deeds
import SkipAudit.Utility.Edit.Execution

namespace SkipAudit.Utility

namespace Editing

/-- The files that a program writes to. -/
def writtenFiles (p : Edit.Program) : List Octets :=
  p.filterMap fun c => match c.deed with
    | .writeFile f | .writeFirst f => some f
    | .substitute s => s.file?
    | _ => none

/-- Open the files that a program writes to, so that they are empty. -/
def prepareFiles (c : Call) (p : Edit.Program) : Action Unit := do
  for name in writtenFiles p do
    let f := c.encoding.encode name
    if f ≠ text "/dev/stdout" && f ≠ text "/dev/stderr" then
      match ← Action.openFile f .writing with
      | .ok fd => Action.request (.close fd)
      | .error e => c.die 4 (text "couldn't open file " ++ f ++ text ": " ++ e.reason)

/-- A part of a program: from a file, or as the part of some number on the command line. -/
structure Part where
  file? : Option Octets
  number : Nat
  content : Octets
  /-- How many lines of it are ended. -/
  lines : Nat

/-- Read the parts of a program, those from files among them. -/
def programParts (c : Call) (options : List (Char × Octets)) : Action (List Part) := do
  let (parts, _) ← options.foldlM (fun (parts, n) (o, v) => do
    if o = 'e' then return (parts ++ [Part.mk none (n + 1) v 0], n + 1)
    else if o = 'f' then
      match ← readInput v with
      | .ok t => return (parts ++ [Part.mk (some v) n (Text.dropFinal '\n' t) (t.count '\n')], n)
      | .error e => c.die 4 (text "couldn't open file " ++ v ++ text ": " ++ e.reason)
    else return (parts, n)) (([], 0) : List Part × Nat)
  return parts

/-- The whole program. -/
def programText (parts : List Part) : Octets :=
  (List.intersperse ['\n'] (parts.map Part.content)).flatten

/-- Where in the parts of a program so many bytes have been read. -/
def placeText (place : Nat) : List Part → Octets
  | [] => []
  | p :: ps =>
      if p.content.length < place && ps.isEmpty = false then
        placeText (place - (p.content.length + 1)) ps
      else match p.file? with
        | some f =>
            let lines := (p.content.take (place - 1)).count '\n' + 1
            text "file " ++ f ++ text " line " ++ Text.ofNat lines
        | none =>
            text "-e expression #" ++ Text.ofNat p.number ++ text ", char " ++ Text.ofNat place

/-- The place that complaints name once the program is carried out. -/
def finalPlace (parts : List Part) : Octets :=
  match parts.getLast? with
  | some ⟨some f, _, _, lines⟩ =>
      text "file " ++ f ++ text " line " ++ Text.ofNat (lines + 1)
  | some ⟨none, n, _, _⟩ => text "-e expression #" ++ Text.ofNat n ++ text ", char 0"
  | none => []

/-- The complaint about a fault of a program, which was read as characters. -/
def faultText (c : Call) (parts : List Part) (program : Text) (f : Edit.Fault) : Octets :=
  let place := match f.left? with
    | some n => (c.encoding.encode (program.take (program.length - n))).length
    | none => 0
  placeText place parts ++ text ": " ++ f.message

/-- The path under which a file is kept: the name takes the place of stars. -/
def keptAs (file ending : Octets) : Octets :=
  let name := lastName file
  let kept := if ending.contains '*' then ending.flatMap fun c => if c = '*' then name else [c]
    else name ++ ending
  if kept.contains '/' || !file.contains '/' then kept else inside (directoryOf file) kept

/-- Put a text in the place of a file, which may be kept under another name. -/
def replaceFile (c : Call) (file ending t : Octets) (a : Attributes) : Action Unit := do
  let failed? ← change fun fs =>
    if ending = [] then fs.unlink ⟨file⟩ else fs.rename ⟨file⟩ ⟨keptAs file ending⟩
  match failed? with
  | some e => c.die 4 (text "cannot rename " ++ file ++ text ": " ++ e.reason)
  | none =>
      match ← Action.openFile file .writing with
      | .ok fd => do
          let _ ← Action.write fd t
          Action.request (.close fd)
          let _ ← change fun fs => fs.modifyEntry true ⟨file⟩ fun b =>
            { b with mode := a.mode, owner := a.owner, group := a.group }
      | .error e => c.die 4 (text "couldn't open file " ++ file ++ text ": " ++ e.reason)

/-- What has come of the files so far. -/
structure Progress where
  status : Nat
  editor : Edit.Editor
  hasQuit : Bool

/-- Edit files in their places. -/
def inPlace (c : Call) (p : Edit.Program) (m : Edit.Manner) (ending : Octets)
    (files : List Octets) : Action Nat := do
  let s ← files.foldlM (fun s file => do
    if s.hasQuit then return s
    let fs ← Action.request .look
    match fs.entry ⟨file⟩ with
    | .ok (.file d) =>
        let o ← Edit.edit c p m s.editor [file]
        replaceFile c file ending (m.encoding.encode o.editor.written.reverse.flatten)
          d.toAttributes
        return { s with editor := o.editor, status := max s.status o.status, hasQuit := o.hasQuit }
    | .ok _ => do
        c.warn (text "couldn't edit " ++ file ++ text ": not a regular file")
        return { s with status := 4 }
    | .error e => do
        c.warn (text "can't read " ++ file ++ text ": " ++ e.reason)
        return { s with status := max 2 s.status }) (⟨0, .start, false⟩ : Progress)
  Edit.finish c s.editor
  return s.status

/-- Edit files one by one. -/
def apart (c : Call) (p : Edit.Program) (m : Edit.Manner) (files : List Octets) : Action Nat := do
  let s ← files.foldlM (fun s file => do
    if s.hasQuit then return s
    let o ← Edit.edit c p m s.editor [file]
    return { s with editor := o.editor, status := max s.status o.status, hasQuit := o.hasQuit })
    (⟨0, .start, false⟩ : Progress)
  Edit.finish c s.editor
  return s.status

/-- The words of the options. -/
def words : List Word :=
  [("quiet", 'n', .none), ("silent", 'n', .none), ("expression", 'e', .needed),
   ("file", 'f', .needed), ("regexp-extended", 'E', .none), ("in-place", 'i', .optional),
   ("line-length", 'l', .needed), ("null-data", 'z', .none), ("zero-terminated", 'z', .none),
   ("separate", 's', .none), ("unbuffered", 'u', .none), ("posix", 'π', .none),
   ("debug", 'δ', .none), ("sandbox", 'σ', .none), ("follow-symlinks", 'φ', .none)]

/-- How the program is used. -/
def usage (c : Call) : Octets :=
  text "Usage: " ++ c.name ++
    text " [OPTION]... \x7bscript-only-if-no-other-script\x7d [input-file]...\n"

end Editing

open Editing in
/-- Edit texts by a program. -/
def sed : Utility := fun c => do
  let known : Known := ⟨"ne:f:Eri::suzl:", words ++ Known.commonWords, false⟩
  match known.parse c.args with
  | .error f => do
      let _ ← Action.write 2 (c.complaint f.message ++ usage c)
      return 1
  | .ok p => do
      if let some t := aboutItself? c p.options then
        say c t
        return 0
      let (options, files) :=
        if p.has 'e' || p.has 'f' then (p.options, p.rest)
        else (p.options ++ (p.rest.take 1).map ('e', ·), p.rest.drop 1)
      if !options.any fun o => o.1 = 'e' || o.1 = 'f' then
        let _ ← Action.write 2 (usage c)
        return 1
      let parts ← programParts c options
      let written := programText parts
      let e := c.encoding
      let t := e.decode written
      let isQuiet := p.has 'n' || written = text "#n" || Text.startsWith (text "#n\n") written
      match Edit.parse ⟨p.has 'E' || p.has 'r', e, p.has 'σ'⟩ t with
      | .error f => c.die 1 (faultText c parts t f)
      | .ok program =>
          if let some name := program.missingLabel? then
            c.die 4 (text "can't find label for jump to \x60" ++ e.encode name ++ ['\''])
          let width := match p.value? 'l' with
            | some v => (Text.toNat? (v.takeWhile Char.isDigit)).getD 0
            | none => 70
          prepareFiles c program
          let m : Edit.Manner :=
            { isQuiet, keeps := p.has 'i', lineEnd := if p.has 'z' then Octets.nul else '\n'
              width, isUnbuffered := p.has 'u', encoding := e, place := finalPlace parts }
          if p.has 'i' && files = [] then c.die 4 (text "no input files")
          if p.has 'i' then inPlace c program m ((p.value? 'i').getD []) files
          else if p.has 's' then apart c program m (inputsOr files)
          else
            let o ← Edit.edit c program m .start (inputsOr files)
            Edit.finish c o.editor
            return o.status

end SkipAudit.Utility
