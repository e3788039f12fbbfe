/-
Going through directories with all that they hold.
-/
import SkipAudit.Utility.Deeds

namespace SkipAudit.Utility

/-- An entry that is met on the way. -/
structure Visited where
  depth : Nat
  path : Octets
  entry : Entry
  /-- The entry is a directory whose inside has been seen. -/
  isAfter : Bool

namespace Traversal

/-- How directories are gone through. -/
structure Settings where
  /-- Links to directories are gone through too. -/
  follows : Bool
  /-- Nothing below this depth is met. -/
  greatestDepth : Nat
  /-- The order of entries. -/
  order : List (Name × Entry) → List (Name × Entry)

/-- The usual way: links are not followed, and entries come as they are listed. -/
def Settings.plain : Settings := ⟨false, 1000, id⟩

/-- What stands at a path, through links if these are followed. -/
def Settings.resolve (k : Settings) (fs : FileSystem) (path : Octets) (e : Entry) : Entry :=
  if k.follows && isLinkEntry e then ((fs.entry ⟨path⟩).toOption).getD e else e

/-- An entry with all that is below it, directories before and after what they hold; the first
number bounds how deep that is. -/
def visits (k : Settings) (fs : FileSystem) : Nat → Nat → List Nat → Octets → Entry → List Visited
  | 0, depth, _, path, e => [⟨depth, path, e, false⟩]
  | fuel + 1, depth, above, path, e =>
      match k.resolve fs path e with
      | .dir a l =>
          let e := Entry.dir a l
          if k.greatestDepth ≤ depth || above.contains a.identity && a.identity ≠ 0 then
            [⟨depth, path, e, false⟩, ⟨depth, path, e, true⟩]
          else
            let inner := (k.order l.entries).flatMap fun (n, e) =>
              visits k fs fuel (depth + 1) (a.identity :: above) (inside path n) e
            ⟨depth, path, e, false⟩ :: (inner ++ [⟨depth, path, e, true⟩])
      | e => [⟨depth, path, e, false⟩]

/-- Everything below and at a path where an entry stands. -/
def all (k : Settings) (fs : FileSystem) (path : Octets) (e : Entry) : List Visited :=
  visits k fs (k.greatestDepth + 1) 0 [] path e

end Traversal

end SkipAudit.Utility
