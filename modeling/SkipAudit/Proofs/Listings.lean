/-
# Directory trees and the order of their entries

A listing has its entries in the order in which the system lists them.  Two things are told of it
here, entry by entry (`Listing.byEntries`).

    mem_walk_iff        a walk comes to the places where something is found, and to no others
    pairwise_walk       it comes to each of them once

Both need the names of a directory to be different (`WellNamed`).  So a walk is one of the lists
that hold every entry once (`Covers`), and what is proved of these is true of a walk in any other
order.  A tree that is listed in another order, in any of its directories (`Reordered`), has the
same entry under each name (`Reordered.get?`) and the same regular files
(`Reordered.find?_file_iff`).
-/
import Mathlib.Data.List.Perm.Basic
import SkipAudit.Proofs.PathNames

namespace SkipAudit

/-! ## Entry by entry -/

namespace Listing

variable {l : Listing} {n m : Name} {e : Entry} {above : List Name}

/-- A listing is empty or has a first entry, which has a listing of its own if it is a directory. -/
@[elab_as_elim]
theorem byEntries {motive : Listing → Prop} (nil : motive .nil)
    (step : ∀ n e l, (∀ a c, e = .dir a c → motive c) → motive l → motive (cons n e l))
    (l : Listing) : motive l := by
  induction l with
  | nil => exact nil
  | file n d l ih => exact step n (.file d) l (fun _ _ h => by cases h) ih
  | link n a t l ih => exact step n (.link a t) l (fun _ _ h => by cases h) ih
  | dir n a c l ihc ih => exact step n (.dir a c) l (fun _ _ h => by cases h; exact ihc) ih
  | device n a k l ih => exact step n (.device a k) l (fun _ _ h => by cases h) ih

/-- The names of the entries. -/
def names (l : Listing) : List Name := l.entries.map (·.1)

theorem entries_cons : (cons n e l).entries = (n, e) :: l.entries := by cases e <;> rfl

theorem names_cons : (cons n e l).names = n :: l.names := by
  rw [names, entries_cons, List.map_cons, names]

theorem get?_cons : (cons m e l).get? n = if m = n then some e else l.get? n := by
  rw [Listing.get?, entries_cons, List.find?_cons]
  by_cases h : m = n
  · simp [h]
  · simp [h, Listing.get?, beq_eq_false_iff_ne.mpr h]

theorem mem_names_of_get? (h : l.get? n = some e) : n ∈ l.names := by
  obtain ⟨⟨m, x⟩, hfound, rfl⟩ := Option.map_eq_some_iff.mp h
  have hname : m = n := by simpa using List.find?_some hfound
  subst hname
  exact List.mem_map_of_mem (List.mem_of_find?_eq_some hfound)

/-! ## Names -/

/-- The names of a directory are such as entries can have, and different, and so are those of each
directory in it. -/
def WellNamed : Listing → Prop
  | .nil => True
  | .file n _ l | .link n _ _ l | .device n _ _ l =>
      Path.IsEntryName n ∧ n ∉ l.names ∧ l.WellNamed
  | .dir n _ c l => Path.IsEntryName n ∧ n ∉ l.names ∧ c.WellNamed ∧ l.WellNamed

instance decidableWellNamed : (l : Listing) → Decidable l.WellNamed
  | .nil => inferInstanceAs (Decidable True)
  | .file _ _ l | .link _ _ _ l | .device _ _ _ l =>
      have := decidableWellNamed l
      inferInstanceAs (Decidable (_ ∧ _ ∧ _))
  | .dir _ _ c l =>
      have := decidableWellNamed c
      have := decidableWellNamed l
      inferInstanceAs (Decidable (_ ∧ _ ∧ _ ∧ _))

end Listing

namespace Entry

/-- An entry that is a directory is well named. -/
def WellNamed : Entry → Prop
  | .dir _ c => c.WellNamed
  | _ => True

/-- What a chain of names leads to from an entry. -/
def at? : Entry → List Name → Option Entry
  | .dir a c, names => c.find? a names
  | e, [] => some e
  | _, _ :: _ => none

theorem at?_nil (e : Entry) : e.at? [] = some e := by cases e <;> rfl

/-- Everything below an entry. -/
def walk (place : List Name) : Entry → List (List Name × Entry)
  | .dir _ c => c.walk place
  | _ => []

end Entry

namespace Listing

variable {l l' : Listing} {n m : Name} {e : Entry} {above : List Name}

theorem wellNamed_cons_iff :
    (cons n e l).WellNamed ↔
      Path.IsEntryName n ∧ n ∉ l.names ∧ e.WellNamed ∧ l.WellNamed := by
  cases e <;> simp [cons, WellNamed, Entry.WellNamed]

theorem find?_cons (top : Attributes) (l : Listing) (n : Name) (names : List Name) :
    l.find? top (n :: names) = (l.get? n).bind (·.at? names) := by
  cases names with
  | nil =>
      rw [find?]
      cases l.get? n with
      | none => rfl
      | some e => exact (e.at?_nil).symm
  | cons m names =>
      rw [find?]
      · cases l.get? n with
        | none => rfl
        | some e => cases e <;> rfl
      · exact List.cons_ne_nil m names

/-! ## Walking -/

theorem walk_cons :
    (cons n e l).walk above =
      (above ++ [n], e) :: (e.walk (above ++ [n]) ++ l.walk above) := by
  cases e <;> rfl

/-- What a walk comes to stands below one of the names. -/
theorem exists_of_mem_walk {x : List Name × Entry} (hx : x ∈ l.walk above) :
    ∃ m ∈ l.names, ∃ rest, x.1 = above ++ m :: rest := by
  induction l using byEntries generalizing above with
  | nil => exact absurd hx List.not_mem_nil
  | step n e l ihc ih =>
      rw [walk_cons, List.mem_cons, List.mem_append] at hx
      rw [names_cons]
      rcases hx with rfl | hx | hx
      · exact ⟨n, List.mem_cons_self, [], rfl⟩
      · cases e with
        | dir a c =>
            obtain ⟨m, -, rest, hrest⟩ := ihc a c rfl hx
            exact ⟨n, List.mem_cons_self, m :: rest, by rw [hrest, List.append_assoc]; rfl⟩
        | _ => exact absurd hx List.not_mem_nil
      · obtain ⟨m, hm, rest, hrest⟩ := ih hx
        exact ⟨m, List.mem_cons_of_mem n hm, rest, hrest⟩

/-- An entry and what is below it stand at the places that are found from the entry, if that is so
for what it holds. -/
theorem mem_walk_entry_iff {place names : List Name} {x : Entry}
    (hc : ∀ a c, e = .dir a c → ((names, x) ∈ c.walk place ↔
      ∃ m rest, names = place ++ m :: rest ∧ (c.get? m).bind (·.at? rest) = some x)) :
    (names, x) = (place, e) ∨ (names, x) ∈ e.walk place ↔
      ∃ rest, names = place ++ rest ∧ e.at? rest = some x := by
  constructor
  · rintro (h | h)
    · cases h
      exact ⟨[], (List.append_nil place).symm, e.at?_nil⟩
    · cases e with
      | dir a c =>
          obtain ⟨m, rest, hrest, hx⟩ := (hc a c rfl).mp h
          exact ⟨m :: rest, hrest, (find?_cons a c m rest).trans hx⟩
      | _ => exact absurd h List.not_mem_nil
  · rintro ⟨rest, hrest, hx⟩
    cases rest with
    | nil =>
        rw [e.at?_nil] at hx
        cases hx
        exact .inl (Prod.ext (hrest.trans (List.append_nil place)) rfl)
    | cons m rest =>
        cases e with
        | dir a c =>
            have hfound := (find?_cons a c m rest).symm.trans hx
            exact .inr ((hc a c rfl).mpr ⟨m, rest, hrest, hfound⟩)
        | _ => cases hx

/-- A walk comes to the places where something is found. -/
theorem mem_walk_iff (h : l.WellNamed) {names : List Name} {x : Entry} :
    (names, x) ∈ l.walk above ↔
      ∃ m rest, names = above ++ m :: rest ∧ (l.get? m).bind (·.at? rest) = some x := by
  induction l using byEntries generalizing above names with
  | nil => simp [walk, Listing.get?, entries]
  | step n e l ihc ih =>
      obtain ⟨-, hn, he, hl⟩ := wellNamed_cons_iff.mp h
      rw [walk_cons, List.mem_cons, List.mem_append, ← or_assoc, ih hl,
        mem_walk_entry_iff fun a c hac => ihc a c hac (by subst hac; exact he)]
      constructor
      · rintro (⟨rest, hrest, hx⟩ | ⟨m, rest, hrest, hx⟩)
        · refine ⟨n, rest, hrest.trans (List.append_cons above n rest).symm, ?_⟩
          rw [get?_cons, if_pos rfl]
          exact hx
        · obtain ⟨f, hf, -⟩ := Option.bind_eq_some_iff.mp hx
          have hne : n ≠ m := fun hnm => hn (hnm ▸ mem_names_of_get? hf)
          refine ⟨m, rest, hrest, ?_⟩
          rw [get?_cons, if_neg hne]
          exact hx
      · rintro ⟨m, rest, hrest, hx⟩
        rw [get?_cons] at hx
        split at hx
        · rename_i hnm
          subst hnm
          exact .inl ⟨rest, hrest.trans (List.append_cons above n rest), hx⟩
        · exact .inr ⟨m, rest, hrest, hx⟩

/-- A walk comes nowhere twice. -/
theorem pairwise_walk (h : l.WellNamed) : (l.walk above).Pairwise fun x y => x.1 ≠ y.1 := by
  induction l using byEntries generalizing above with
  | nil => exact .nil
  | step n e l ihc ih =>
      obtain ⟨-, hn, he, hl⟩ := wellNamed_cons_iff.mp h
      have hbelow : ∀ x ∈ e.walk (above ++ [n]), ∃ m rest, x.1 = above ++ n :: m :: rest := by
        intro x hx
        cases e with
        | dir a c =>
            obtain ⟨m, -, rest, hrest⟩ := exists_of_mem_walk hx
            exact ⟨m, rest, hrest.trans (List.append_cons above n (m :: rest)).symm⟩
        | _ => exact absurd hx List.not_mem_nil
      have hpair : (e.walk (above ++ [n])).Pairwise fun x y => x.1 ≠ y.1 := by
        cases e with
        | dir a c => exact ihc a c rfl he
        | _ => exact .nil
      -- Whatever is not below the first entry has another name in the place of its name.
      have hother : ∀ y ∈ l.walk above, ∀ rest, above ++ n :: rest ≠ y.1 := by
        intro y hy rest heq
        obtain ⟨m, hm, rest', hrest⟩ := exists_of_mem_walk hy
        have hcons := List.append_cancel_left (heq.trans hrest)
        exact hn ((List.cons.inj hcons).1 ▸ hm)
      rw [walk_cons, List.pairwise_cons, List.pairwise_append]
      refine ⟨?_, hpair, ih hl, ?_⟩
      · intro y hy
        rcases List.mem_append.mp hy with hy | hy
        · obtain ⟨m, rest, hrest⟩ := hbelow y hy
          intro heq
          have hcons := List.append_cancel_left (heq.trans hrest)
          cases hcons
        · exact hother y hy []
      · intro x hx y hy
        obtain ⟨m, rest, hrest⟩ := hbelow x hx
        rw [hrest]
        exact hother y hy (m :: rest)

/-- A list with every entry below a directory in it once, each with the chain of names that leads
to it. -/
structure Covers (l : Listing) (found : List (List Name × Entry)) : Prop where
  mem_iff : ∀ top names x, (names, x) ∈ found ↔ names ≠ [] ∧ l.find? top names = some x
  nodup : found.Nodup

theorem covers_walk (h : l.WellNamed) : l.Covers (l.walk []) where
  mem_iff top names x := by
    rw [mem_walk_iff h]
    constructor
    · rintro ⟨m, rest, rfl, hx⟩
      exact ⟨List.cons_ne_nil m rest, (find?_cons top l m rest).trans hx⟩
    · rintro ⟨hne, hx⟩
      obtain ⟨m, rest, rfl⟩ := List.exists_cons_of_ne_nil hne
      exact ⟨m, rest, rfl, (find?_cons top l m rest).symm.trans hx⟩
  nodup := (pairwise_walk h).imp fun hne hxy => hne (congrArg Prod.fst hxy)

/-- The walk comes to every entry below a directory once, in any order. -/
def IsWalk (walk : Listing → List (List Name × Entry)) : Prop :=
  ∀ l : Listing, l.WellNamed → l.Covers (walk l)

theorem isWalk_walk : IsWalk (walk []) := fun _ => covers_walk

/-- The chain of names tells the entries apart. -/
theorem Covers.eq_of_names {found : List (List Name × Entry)} (h : l.Covers found)
    {x y : List Name × Entry} (hx : x ∈ found) (hy : y ∈ found) (hxy : x.1 = y.1) : x = y := by
  have hx' := ((h.mem_iff FileSystem.topAttributes x.1 x.2).mp hx).2
  have hy' := ((h.mem_iff FileSystem.topAttributes y.1 y.2).mp hy).2
  rw [hxy] at hx'
  exact Prod.ext hxy (Option.some.inj (hx'.symm.trans hy'))

/-! ## Another order -/

/-- The same tree, its directories being listed in another order. -/
inductive Reordered : Listing → Listing → Prop
  | refl (l : Listing) : Reordered l l
  /-- What stands behind the first entry has another order. -/
  | rest (n : Name) (e : Entry) {l l' : Listing} :
      Reordered l l' → Reordered (cons n e l) (cons n e l')
  /-- What the first entry holds has another order. -/
  | inside (n : Name) (a : Attributes) {c c' : Listing} (l : Listing) :
      Reordered c c' → Reordered (cons n (.dir a c) l) (cons n (.dir a c') l)
  | swap (n : Name) (e : Entry) (m : Name) (f : Entry) (l : Listing) :
      Reordered (cons n e (cons m f l)) (cons m f (cons n e l))
  | trans {l l' l'' : Listing} : Reordered l l' → Reordered l' l'' → Reordered l l''

theorem ofEntries_entries (l : Listing) : ofEntries l.entries = l := by
  induction l using byEntries with
  | nil => rfl
  | step n e l _ ih => rw [entries_cons, ofEntries, ih]

/-- The entries of a directory may stand in any order. -/
theorem reordered_of_perm (h : l.entries.Perm l'.entries) : l.Reordered l' := by
  have hperm {es es' : List (Name × Entry)} (h : es.Perm es') :
      (ofEntries es).Reordered (ofEntries es') := by
    induction h with
    | nil => exact .refl _
    | cons x _ ih => exact .rest x.1 x.2 ih
    | swap x y es => exact .swap y.1 y.2 x.1 x.2 (ofEntries es)
    | trans _ _ ih ih' => exact ih.trans ih'
  rw [← ofEntries_entries l, ← ofEntries_entries l']
  exact hperm h

theorem Reordered.names_perm (h : Reordered l l') : l.names.Perm l'.names := by
  induction h with
  | refl l => exact .refl _
  | rest n e _ ih =>
      rw [names_cons, names_cons]
      exact ih.cons n
  | inside n a l _ ih =>
      rw [names_cons, names_cons]
  | swap n e m f l =>
      rw [names_cons, names_cons, names_cons, names_cons]
      exact .swap m n l.names
  | trans _ _ ih ih' => exact ih.trans ih'

theorem Reordered.wellNamed (h : Reordered l l') (hl : l.WellNamed) : l'.WellNamed := by
  induction h with
  | refl l => exact hl
  | rest n e hr ih =>
      obtain ⟨hname, hn, he, hrest⟩ := wellNamed_cons_iff.mp hl
      refine wellNamed_cons_iff.mpr ⟨hname, fun hm => hn ?_, he, ih hrest⟩
      exact hr.names_perm.mem_iff.mpr hm
  | inside n a l _ ih =>
      obtain ⟨hname, hn, he, hrest⟩ := wellNamed_cons_iff.mp hl
      exact wellNamed_cons_iff.mpr ⟨hname, hn, ih he, hrest⟩
  | swap n e m f l =>
      obtain ⟨hn, hne, he, hrest⟩ := wellNamed_cons_iff.mp hl
      obtain ⟨hm, hml, hf, hl⟩ := wellNamed_cons_iff.mp hrest
      rw [names_cons, List.mem_cons, not_or] at hne
      refine wellNamed_cons_iff.mpr ⟨hm, ?_, hf, wellNamed_cons_iff.mpr ⟨hn, hne.2, he, hl⟩⟩
      rw [names_cons, List.mem_cons, not_or]
      exact ⟨fun h => hne.1 h.symm, hml⟩
  | trans _ _ ih ih' => exact ih' (ih hl)

end Listing

/-- An entry of a tree and that of the tree in another order. -/
inductive Entry.Reordered : Entry → Entry → Prop
  | same (e : Entry) : Reordered e e
  | dir (a : Attributes) {c c' : Listing} : c.Reordered c' → Reordered (.dir a c) (.dir a c')

theorem Entry.Reordered.trans {e e' e'' : Entry} (h : e.Reordered e') (h' : e'.Reordered e'') :
    e.Reordered e'' := by
  cases h with
  | same => exact h'
  | dir a hc =>
      cases h' with
      | same => exact .dir a hc
      | dir _ hc' => exact .dir a (hc.trans hc')

namespace Listing

variable {l l' : Listing} {e : Entry}

theorem WellNamed.get? (h : l.WellNamed) {n : Name} (hn : l.get? n = some e) : e.WellNamed := by
  induction l using byEntries with
  | nil => cases hn
  | step m f l _ ih =>
      obtain ⟨-, -, hf, hl⟩ := wellNamed_cons_iff.mp h
      rw [get?_cons] at hn
      split at hn
      · cases hn
        exact hf
      · exact ih hl hn

theorem WellNamed.isEntryName (h : l.WellNamed) {n : Name} (hn : n ∈ l.names) :
    Path.IsEntryName n := by
  induction l using byEntries with
  | nil => exact absurd hn List.not_mem_nil
  | step m f l _ ih =>
      obtain ⟨hm, -, -, hl⟩ := wellNamed_cons_iff.mp h
      rw [names_cons, List.mem_cons] at hn
      rcases hn with rfl | hn
      · exact hm
      · exact ih hl hn

/-- The names that lead to an entry are such as entries can have. -/
theorem isEntryName_of_find? (h : l.WellNamed) {top : Attributes} {names : List Name}
    (hfound : l.find? top names = some e) : ∀ n ∈ names, Path.IsEntryName n := by
  induction names generalizing l top with
  | nil => exact List.forall_mem_nil _
  | cons n names ih =>
      rw [find?_cons] at hfound
      obtain ⟨f, hf, hrest⟩ := Option.bind_eq_some_iff.mp hfound
      refine List.forall_mem_cons.mpr ⟨h.isEntryName (mem_names_of_get? hf), ?_⟩
      cases f with
      | dir a c => exact ih (h.get? hf) hrest
      | _ =>
          cases names with
          | nil => exact List.forall_mem_nil _
          | cons m rest => cases hrest

theorem Reordered.get? (h : Reordered l l') (hl : l.WellNamed) (x : Name) :
    Option.Rel Entry.Reordered (l.get? x) (l'.get? x) := by
  have hrefl (o : Option Entry) : Option.Rel Entry.Reordered o o := by
    cases o with
    | none => exact .none
    | some e => exact .some (.same e)
  induction h with
  | refl l => exact hrefl _
  | rest n e _ ih =>
      rw [get?_cons, get?_cons]
      split
      · exact hrefl _
      · exact ih (wellNamed_cons_iff.mp hl).2.2.2
  | inside n a l hc ih =>
      rw [get?_cons, get?_cons]
      split
      · exact .some (.dir a hc)
      · exact hrefl _
  | swap n e m f l =>
      have hne : n ≠ m := by
        have hn := (wellNamed_cons_iff.mp hl).2.1
        rw [names_cons] at hn
        exact List.ne_of_not_mem_cons hn
      rw [get?_cons, get?_cons, get?_cons, get?_cons]
      split
      · rename_i hx
        rw [if_neg fun hm => hne (hx.trans hm.symm)]
        exact hrefl _
      · exact hrefl _
  | @trans l l' l'' h _ ih ih' =>
      have hrel := ih hl
      have hrel' := ih' (h.wellNamed hl)
      generalize l.get? x = o, l'.get? x = o', l''.get? x = o'' at hrel hrel' ⊢
      cases hrel with
      | none => exact hrel'
      | some he =>
          cases hrel' with
          | some he' => exact .some (he.trans he')

/-- A chain of names leads to the same entry in a tree that is listed in another order. -/
theorem Reordered.find? (h : l.Reordered l') (hl : l.WellNamed) (top : Attributes)
    (names : List Name) :
    Option.Rel (fun e e' => e.WellNamed ∧ e.Reordered e') (l.find? top names)
      (l'.find? top names) := by
  induction names generalizing l l' top with
  | nil => exact .some ⟨hl, .dir top h⟩
  | cons n names ih =>
      rw [find?_cons, find?_cons]
      have hrel := h.get? hl n
      have hnamed (e : Entry) (he : l.get? n = some e) : e.WellNamed := hl.get? he
      generalize l.get? n = o, l'.get? n = o' at hrel hnamed ⊢
      cases hrel with
      | none => exact .none
      | @some e _ he =>
          have hfirst := hnamed e rfl
          cases he with
          | dir a hc => exact ih hc hfirst a
          | same =>
              cases e with
              | dir a c => exact ih (.refl c) hfirst a
              | _ =>
                  cases names with
                  | nil => exact .some ⟨trivial, .same _⟩
                  | cons m names => exact .none

/-- A regular file is found in both. -/
theorem Reordered.find?_file_iff (h : l.Reordered l') (hl : l.WellNamed) {top : Attributes}
    {names : List Name} {d : FileData} :
    l.find? top names = some (.file d) ↔ l'.find? top names = some (.file d) := by
  have hrel := h.find? hl top names
  generalize l.find? top names = o, l'.find? top names = o' at hrel
  cases hrel with
  | none => exact Iff.rfl
  | some he =>
      cases he.2 with
      | same => exact Iff.rfl
      | dir a hc => exact iff_of_false (fun h => by cases h) (fun h => by cases h)

end Listing

end SkipAudit
