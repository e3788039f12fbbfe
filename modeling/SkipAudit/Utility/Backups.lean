/-
Second copies of files that are about to be replaced: how they are called, and whether there are
any.
-/
import SkipAudit.Utility.Deeds

namespace SkipAudit.Utility

/-- Whether a file that is replaced is kept, and under what kind of name. -/
inductive Backup where
  | never
  /-- Under its own name with an ending. -/
  | simple
  /-- Under a name with a number, if there are such names already. -/
  | existing
  | numbered
deriving DecidableEq

namespace Backup

/-- The words for these. -/
def words : List (String × Backup) :=
  [("none", .never), ("off", .never), ("simple", .simple), ("never", .simple),
   ("existing", .existing), ("nil", .existing), ("numbered", .numbered), ("t", .numbered)]

/-- The kind of backups that options and variables ask for. -/
def ofOptions (c : Call) (p : Parsed) : Action Backup := do
  let fromVariable : Action Backup := do
    match (c.valueOf? "VERSION_CONTROL").filter (· ≠ []) with
    | some w => chosen 1 c "$VERSION_CONTROL" words w
    | none => return .existing
  if !p.has 'b' && !p.has 'S' then return .never
  else match (p.values 'b').filter (· ≠ []) |>.getLast? with
    | some w =>
        match fromTable words w with
        | (_, a) :: _ => return a
        | [] => refuse w
    | none => fromVariable
where
  /-- Complain of a word that is none of these. -/
  refuse (w : Octets) : Action Backup := do
    let _ ← Action.write 2 (c.complaint (text "invalid argument " ++ c.quote w ++ text " for " ++
      c.quote (text "backup type")) ++ text "Valid arguments are:" ++
        validLines c none words ++ c.hint)
    Action.exit 1

/-- The ending of simple backups. -/
def ending (c : Call) (p : Parsed) : Octets :=
  let asked := match p.value? 'S' with
    | some t => some t
    | none => c.valueOf? "SIMPLE_BACKUP_SUFFIX"
  match asked with
  | some t => if t = [] || t.contains '/' then ['~'] else t
  | none => ['~']

/-- The number of a backup of something by its name. -/
def number? (name candidate : Octets) : Option Nat := do
  let rest ← Text.dropStart? (name ++ text ".~") candidate
  let digits ← Text.dropEnding? ['~'] rest
  if digits.head? = some '0' then none else Text.toNat? digits

/-- The path of the backup of something. -/
def pathFor (b : Backup) (fs : FileSystem) (suffix path : Octets) : Octets :=
  let bare := withoutSlashes path
  let name := lastName bare
  let dir := if bare.contains '/' then directoryOf bare else ['.']
  let taken : List Nat := match fs.listing? ⟨dir⟩ with
    | some l => l.entries.filterMap fun x => number? name x.1
    | none => []
  let greatest := taken.foldl max 0
  if b = .numbered || (b = .existing && greatest ≠ 0) then
    bare ++ text ".~" ++ Text.ofNat (greatest + 1) ++ ['~']
  else bare ++ suffix

end Backup

end SkipAudit.Utility
