/-
The users and groups that a system knows.
-/
import SkipAudit.Text.Octets

namespace SkipAudit.Accounts

/-- A user. -/
structure User where
  name : String
  number : Nat
  group : Nat

/-- The users. -/
def users : List User :=
  [⟨"root", 0, 0⟩, ⟨"daemon", 1, 1⟩, ⟨"bin", 2, 2⟩, ⟨"sys", 3, 3⟩, ⟨"sync", 4, 65534⟩,
   ⟨"games", 5, 60⟩, ⟨"man", 6, 12⟩, ⟨"lp", 7, 7⟩, ⟨"mail", 8, 8⟩, ⟨"news", 9, 9⟩,
   ⟨"uucp", 10, 10⟩, ⟨"proxy", 13, 13⟩, ⟨"www-data", 33, 33⟩, ⟨"backup", 34, 34⟩,
   ⟨"list", 38, 38⟩, ⟨"irc", 39, 39⟩, ⟨"_apt", 42, 65534⟩, ⟨"nobody", 65534, 65534⟩]

/-- The groups. -/
def groups : List (String × Nat) :=
  [("root", 0), ("daemon", 1), ("bin", 2), ("sys", 3), ("adm", 4), ("tty", 5), ("disk", 6),
   ("lp", 7), ("mail", 8), ("news", 9), ("uucp", 10), ("man", 12), ("proxy", 13), ("kmem", 15),
   ("dialout", 20), ("fax", 21), ("voice", 22), ("cdrom", 24), ("floppy", 25), ("tape", 26),
   ("sudo", 27), ("audio", 29), ("dip", 30), ("www-data", 33), ("backup", 34), ("operator", 37),
   ("list", 38), ("irc", 39), ("src", 40), ("shadow", 42), ("utmp", 43), ("video", 44),
   ("sasl", 45), ("plugdev", 46), ("staff", 50), ("games", 60), ("users", 100),
   ("nogroup", 65534)]

/-- The user with a name. -/
def user? (name : Octets) : Option User := users.find? fun u => text u.name == name

/-- The group with a name. -/
def group? (name : Octets) : Option Nat :=
  (groups.find? fun g => text g.1 == name).map (·.2)

/-- The name of a user, or the number where there is none. -/
def userName (number : Nat) : Octets :=
  match users.find? fun u => u.number == number with
  | some u => text u.name
  | none => Text.ofNat number

/-- The name of a group, or the number where there is none. -/
def groupName (number : Nat) : Octets :=
  match groups.find? fun g => g.2 == number with
  | some g => text g.1
  | none => Text.ofNat number

end SkipAudit.Accounts
