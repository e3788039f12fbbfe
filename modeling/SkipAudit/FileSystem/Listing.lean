/-
Directory trees.

A `Listing` is what a directory holds: its entries in the order in which the system lists
them, each directory with a listing of its own.  Places in a tree are addressed by the
names that lead there from the top.
-/
import SkipAudit.Path

namespace SkipAudit

/-- What the system keeps of every entry. -/
structure Attributes where
  /-- The number that tells what is there from everything else.  Two entries with one number
  are two names of the same file. -/
  identity : Nat
  /-- The permissions, with the bits for other identities and for what sticks. -/
  mode : Nat
  owner : Nat
  group : Nat
  /-- When it was last used, in nanoseconds since the beginning of 1970. -/
  accessed : Int
  /-- When its contents were last changed. -/
  modified : Int
  /-- When anything of it was last changed. -/
  changed : Int
deriving DecidableEq, Repr

/-- A regular file. -/
structure FileData extends Attributes where
  bytes : List UInt8
deriving DecidableEq, Repr

/-- Somebody may execute what has this mode. -/
def Attributes.isExecutable (a : Attributes) : Bool := a.mode &&& 0o111 != 0

/-- What a special file stands for. -/
inductive Device where
  /-- It is empty, and swallows what is written. -/
  | null
  /-- It is an endless row of zeros. -/
  | zero
  /-- It has no room for anything that is written. -/
  | full
  /-- It is an endless row of bytes without any order. -/
  | random
  /-- It is the terminal of the process, and there is none. -/
  | terminal
  /-- What is written to it is read from it. -/
  | fifo
  /-- It is what a process has open under a number, where that has no name; `shown` is how a
  link to it reads. -/
  | descriptor (pid number : Nat) (isPipe : Bool) (shown : Octets)
deriving DecidableEq, Repr

/-- The entries of a directory. -/
inductive Listing where
  | nil
  | file (name : Name) (data : FileData) (rest : Listing)
  | link (name : Name) (attributes : Attributes) (target : Octets) (rest : Listing)
  | dir (name : Name) (attributes : Attributes) (children : Listing) (rest : Listing)
  | device (name : Name) (attributes : Attributes) (kind : Device) (rest : Listing)
deriving DecidableEq, Repr

/-- One entry of a directory, apart from its name. -/
inductive Entry where
  | file (data : FileData)
  | link (attributes : Attributes) (target : Octets)
  | dir (attributes : Attributes) (children : Listing)
  | device (attributes : Attributes) (kind : Device)
deriving DecidableEq, Repr

namespace Entry

/-- What the system keeps of an entry. -/
def attributes : Entry → Attributes
  | .file d => d.toAttributes
  | .link a _ | .dir a _ | .device a _ => a

/-- The entry with other attributes. -/
def mapAttributes (f : Attributes → Attributes) : Entry → Entry
  | .file d => .file { d with toAttributes := f d.toAttributes }
  | .link a t => .link (f a) t
  | .dir a l => .dir (f a) l
  | .device a k => .device (f a) k

/-- The entry as it is after what it holds was changed at some time. -/
def stamped (now : Int) : Entry → Entry :=
  mapAttributes fun a => { a with modified := now, changed := now }

end Entry

namespace Listing

/-- Put an entry in front. -/
def cons (name : Name) : Entry → Listing → Listing
  | .file d, rest => .file name d rest
  | .link a t, rest => .link name a t rest
  | .dir a c, rest => .dir name a c rest
  | .device a k, rest => .device name a k rest

/-- The entries with their names. -/
def entries : Listing → List (Name × Entry)
  | .nil => []
  | .file n d rest => (n, .file d) :: rest.entries
  | .link n a t rest => (n, .link a t) :: rest.entries
  | .dir n a c rest => (n, .dir a c) :: rest.entries
  | .device n a k rest => (n, .device a k) :: rest.entries

/-- The listing with these entries. -/
def ofEntries : List (Name × Entry) → Listing
  | [] => .nil
  | (n, e) :: rest => cons n e (ofEntries rest)

/-- The entry with a name. -/
def get? (l : Listing) (name : Name) : Option Entry :=
  (l.entries.find? (·.1 == name)).map (·.2)

/-- Change the entry with a name: `f` sees it, or nothing, and says what is there
afterwards.  A new entry comes last. -/
def alter (name : Name) (f : Option Entry → Option Entry) (l : Listing) : Listing :=
  if l.entries.any (·.1 == name) then
    ofEntries (l.entries.filterMap fun (n, e) =>
      if n = name then (f (some e)).map (n, ·) else some (n, e))
  else match f none with
    | some e => ofEntries (l.entries ++ [(name, e)])
    | none => l

/-- Change the entry at the end of a chain of directories. -/
def alterAt (f : Option Entry → Option Entry) : List Name → Listing → Listing
  | [], l => l
  | [n], l => l.alter n f
  | n :: ns, l =>
      l.alter n fun
        | some (.dir a c) => some (.dir a (alterAt f ns c))
        | e? => e?

/-- The entry that a chain of names leads to, from a directory that has `top` as its
attributes. -/
def find? (top : Attributes) (l : Listing) : List Name → Option Entry
  | [] => some (.dir top l)
  | [n] => l.get? n
  | n :: ns =>
      match l.get? n with
      | some (.dir a c) => find? a c ns
      | _ => none

/-- Everything in the tree, each entry with the names that lead to it, a directory before
what it holds. -/
def walk (above : List Name) : Listing → List (List Name × Entry)
  | .nil => []
  | .file n d rest => (above ++ [n], .file d) :: walk above rest
  | .link n a t rest => (above ++ [n], .link a t) :: walk above rest
  | .dir n a c rest => (above ++ [n], .dir a c) :: (walk (above ++ [n]) c ++ walk above rest)
  | .device n a k rest => (above ++ [n], .device a k) :: walk above rest

/-- The number of entries. -/
def count (l : Listing) : Nat := l.entries.length

/-! ## Files by their number -/

/-- The file with a number, under whatever name. -/
def fileWith? (identity : Nat) : Listing → Option FileData
  | .nil => none
  | .file _ d rest => if d.identity = identity then some d else fileWith? identity rest
  | .link _ _ _ rest => fileWith? identity rest
  | .dir _ _ c rest =>
      match fileWith? identity c with
      | some d => some d
      | none => fileWith? identity rest
  | .device _ _ _ rest => fileWith? identity rest

/-- Change the file with a number, under each of its names. -/
def updateFile (identity : Nat) (f : FileData → FileData) : Listing → Listing
  | .nil => .nil
  | .file n d rest =>
      .file n (if d.identity = identity then f d else d) (updateFile identity f rest)
  | .link n a t rest => .link n a t (updateFile identity f rest)
  | .dir n a c rest => .dir n a (updateFile identity f c) (updateFile identity f rest)
  | .device n a k rest => .device n a k (updateFile identity f rest)

/-- Change what is kept of the entry with a number, under each of its names. -/
def updateAttributes (identity : Nat) (f : Attributes → Attributes) : Listing → Listing
  | .nil => .nil
  | .file n d rest =>
      .file n (if d.identity = identity then { d with toAttributes := f d.toAttributes } else d)
        (updateAttributes identity f rest)
  | .link n a t rest =>
      .link n (if a.identity = identity then f a else a) t (updateAttributes identity f rest)
  | .dir n a c rest =>
      .dir n (if a.identity = identity then f a else a) (updateAttributes identity f c)
        (updateAttributes identity f rest)
  | .device n a k rest =>
      .device n (if a.identity = identity then f a else a) k (updateAttributes identity f rest)

/-- The names of all entries with a number, each as the names that lead to it. -/
def placesOf (identity : Nat) (l : Listing) : List (List Name) :=
  (l.walk []).filterMap fun (names, e) =>
    if e.attributes.identity = identity then some names else none

/-- How many names what has a number has: a directory has one in itself and one in each
directory that it holds, beside its own. -/
def linkCount (l : Listing) : Entry → Nat
  | .dir _ c => 2 + (c.entries.filter fun x => match x.2 with
      | .dir .. => true
      | _ => false).length
  | e => (l.placesOf e.attributes.identity).length

/-- Number all entries afresh, from a number on; the second part is the next number. -/
def numbered (next : Nat) : Listing → Listing × Nat
  | .nil => (.nil, next)
  | .file n d rest =>
      let (rest, last) := numbered (next + 1) rest
      (.file n { d with identity := next } rest, last)
  | .link n a t rest =>
      let (rest, last) := numbered (next + 1) rest
      (.link n { a with identity := next } t rest, last)
  | .dir n a c rest =>
      let (c, after) := numbered (next + 1) c
      let (rest, last) := numbered after rest
      (.dir n { a with identity := next } c rest, last)
  | .device n a k rest =>
      let (rest, last) := numbered (next + 1) rest
      (.device n { a with identity := next } k rest, last)

end Listing

end SkipAudit
