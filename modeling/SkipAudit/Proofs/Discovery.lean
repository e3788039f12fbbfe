/-
# Finding the test files

What `discover` makes of a directory is told by the tree below it and by nothing else.

    Relisted.follow     a path leads to the same entry, however the directories are listed
    mem_testPaths_iff   the test files below a directory are those that are found there by a chain
                        of names, the last of which has the extension behind its last dot
    pairwise_testPaths  no two of them have one path, in whatever spelling
    discover_tree       so they are found once each, in the order of their paths, which depends
                        neither on the order in which a directory has its entries nor on that of
                        the walk

Of the walk it is only used that it comes to every entry once (`Listing.Covers`).  A symbolic link
below the directory is neither a file nor followed; one on the way to the directory is, and so the
first of these needs an argument over all that `follow` may meet.
-/
import SkipAudit.Proofs.Listings
import SkipAudit.Proofs.PathOrder

namespace SkipAudit

namespace FileSystem

/-! ## Following a path -/

section Follow

variable {fs : FileSystem} {followLast : Bool} {links : Nat} {dir : List Name} {n : Octets}
  {rest : List Octets}

/-- A piece of a path that is looked up in a directory. -/
def IsLookedUp (n : Octets) : Prop :=
  ¬ (n = [] ∨ n = ['.']) ∧ n ≠ ['.', '.'] ∧ ¬ maxName < n.length

instance (n : Octets) : Decidable (IsLookedUp n) := inferInstanceAs (Decidable (_ ∧ _ ∧ _))

theorem follow_nil {e : Entry} (he : fs.find? dir = some e) :
    fs.follow followLast links dir [] = .ok (.taken dir e) := by
  rw [follow, he]

theorem follow_of_dot (hdot : n = [] ∨ n = ['.']) :
    fs.follow followLast links dir (n :: rest) = fs.follow followLast links dir rest := by
  rw [follow, if_pos hdot]

theorem follow_of_dir (hn : IsLookedUp n) {a : Attributes} {c : Listing}
    (he : fs.find? (dir ++ [n]) = some (.dir a c)) :
    fs.follow followLast links dir (n :: rest) =
      fs.follow followLast links (dir ++ [n]) rest := by
  simp only [follow, if_neg hn.1, if_neg hn.2.1, if_neg hn.2.2, he]

theorem follow_of_file (hn : IsLookedUp n) {d : FileData}
    (he : fs.find? (dir ++ [n]) = some (.file d)) :
    fs.follow followLast links dir (n :: rest) =
      if rest = [] then .ok (.taken (dir ++ [n]) (.file d)) else .error .notDirectory := by
  simp only [follow, if_neg hn.1, if_neg hn.2.1, if_neg hn.2.2, he]

theorem follow_of_none (hn : IsLookedUp n) (he : fs.find? (dir ++ [n]) = none) :
    fs.follow followLast links dir (n :: rest) =
      if rest.all (· == []) then .ok (.free dir n (rest ≠ [])) else .error .notFound := by
  simp only [follow, if_neg hn.1, if_neg hn.2.1, if_neg hn.2.2, he]

theorem locate_eq_follow {p : Path}
    (hp : p.written.contains '\x00' = false ∧ p.written ≠ [] ∧ p.written.length < maxPath) :
    fs.locate followLast p =
      fs.follow followLast maxLinks (if p.isAbsolute then [] else fs.cwd)
        (Text.cutAt '/' p.written) := by
  rw [locate, if_neg (Bool.eq_false_iff.mp hp.1), if_neg hp.2.1, if_neg (Nat.not_le.mpr hp.2.2)]

end Follow

/-! ## Paths in another listing -/

variable {fs fs' : FileSystem}

/-- The names in a file system are such as entries can have. -/
structure WellNamed (fs : FileSystem) : Prop where
  root : fs.root.WellNamed
  processes : (fs.processes ()).WellNamed

/-- The same file system, its directories being listed in another order. -/
structure Relisted (fs fs' : FileSystem) : Prop where
  root : fs.root.Reordered fs'.root
  processes : (fs.processes ()).Reordered (fs'.processes ())
  cwd : fs'.cwd = fs.cwd

theorem Relisted.find? (h : fs.Relisted fs') (hn : fs.WellNamed) (names : List Name) :
    Option.Rel (fun e e' => e.WellNamed ∧ e.Reordered e') (fs.find? names) (fs'.find? names) := by
  cases names with
  | nil => exact .some ⟨hn.root, .dir topAttributes h.root⟩
  | cons n names =>
      rw [FileSystem.find?, FileSystem.find?]
      split
      · exact h.processes.find? hn.processes _ _
      · exact h.root.find? hn.root _ _

theorem Relisted.find?_eq_none (h : fs.Relisted fs') (hn : fs.WellNamed) {names : List Name}
    (hnone : fs.find? names = none) : fs'.find? names = none := by
  have hrel := h.find? hn names
  rw [hnone] at hrel
  cases hfind : fs'.find? names with
  | none => rfl
  | some e' =>
      rw [hfind] at hrel
      cases hrel

theorem Relisted.exists_find? (h : fs.Relisted fs') (hn : fs.WellNamed) {names : List Name}
    {e : Entry} (hsome : fs.find? names = some e) :
    ∃ e', fs'.find? names = some e' ∧ e.WellNamed ∧ e.Reordered e' := by
  have hrel := h.find? hn names
  rw [hsome] at hrel
  cases hfind : fs'.find? names with
  | none =>
      rw [hfind] at hrel
      cases hrel
  | some e' =>
      rw [hfind] at hrel
      cases hrel with
      | some he => exact ⟨e', rfl, he⟩

/-- What is not a directory is the same in both. -/
theorem Relisted.find?_eq_some (h : fs.Relisted fs') (hn : fs.WellNamed) {names : List Name}
    {e : Entry} (hsome : fs.find? names = some e) (hdir : ∀ a c, e ≠ .dir a c) :
    fs'.find? names = some e := by
  obtain ⟨e', he', -, hr⟩ := h.exists_find? hn hsome
  cases hr with
  | same => exact he'
  | dir a _ => exact absurd rfl (hdir a _)

/-- Two look-ups come to the same, except that a directory may be listed in another order. -/
inductive SameOutcome : Except FileError Place → Except FileError Place → Prop
  | error (x : FileError) : SameOutcome (.error x) (.error x)
  | free (dir : List Name) (n : Name) (asDirectory : Bool) :
      SameOutcome (.ok (.free dir n asDirectory)) (.ok (.free dir n asDirectory))
  | taken (place : List Name) {e e' : Entry} : e.WellNamed → e.Reordered e' →
      SameOutcome (.ok (.taken place e)) (.ok (.taken place e'))

/-- Following a path does not depend on the order in which directories are listed.  There is a case
for each branch of `follow`; only the one that enters a directory meets another listing. -/
theorem Relisted.follow (h : fs.Relisted fs') (hn : fs.WellNamed) (followLast : Bool)
    (links : Nat) (dir : List Name) (pieces : List Octets) :
    SameOutcome (fs.follow followLast links dir pieces)
      (fs'.follow followLast links dir pieces) := by
  fun_induction FileSystem.follow fs followLast links dir pieces with
  | case1 links dir e he =>
      obtain ⟨e', he', hnamed, hr⟩ := h.exists_find? hn he
      rw [follow_nil he']
      exact .taken dir hnamed hr
  | case2 links dir hnone =>
      rw [FileSystem.follow, h.find?_eq_none hn hnone]
      exact .error _
  | case3 links dir n rest hdot ih =>
      rw [follow_of_dot hdot]
      exact ih
  | case4 links dir rest hdot ih =>
      rw [FileSystem.follow, if_neg hdot, if_pos rfl]
      exact ih
  | case5 links dir n rest hdot hup hlong =>
      rw [FileSystem.follow, if_neg hdot, if_neg hup, if_pos hlong]
      exact .error _
  | case6 links dir n rest hdot hup hlong place hnone hrest =>
      rw [follow_of_none ⟨hdot, hup, hlong⟩ (h.find?_eq_none hn hnone), if_pos hrest]
      exact .free dir n _
  | case7 links dir n rest hdot hup hlong place hnone hrest =>
      rw [follow_of_none ⟨hdot, hup, hlong⟩ (h.find?_eq_none hn hnone), if_neg hrest]
      exact .error _
  | case8 links dir n rest hdot hup hlong place a c he ih =>
      obtain ⟨e', he', -, hr⟩ := h.exists_find? hn he
      cases hr
      all_goals
        rw [follow_of_dir ⟨hdot, hup, hlong⟩ he']
        exact ih
  | case9 links dir n rest hdot hup hlong place a t he hrest =>
      have he' : fs'.find? (dir ++ [n]) = _ := h.find?_eq_some hn he (fun _ _ => Entry.noConfusion)
      simp only [FileSystem.follow, if_neg hdot, if_neg hup, if_neg hlong, he', if_pos hrest]
      refine .taken place ?_ (.same _)
      exact trivial
  | case10 dir n rest hdot hup hlong place a t he hrest =>
      have he' : fs'.find? (dir ++ [n]) = _ := h.find?_eq_some hn he (fun _ _ => Entry.noConfusion)
      simp only [FileSystem.follow, if_neg hdot, if_neg hup, if_neg hlong, he', if_neg hrest]
      exact .error _
  | case11 dir n rest hdot hup hlong place a t he hrest links pieces ih =>
      have he' : fs'.find? (dir ++ [n]) = _ := h.find?_eq_some hn he (fun _ _ => Entry.noConfusion)
      rw [FileSystem.follow, if_neg hdot, if_neg hup, if_neg hlong]
      simp only [he', if_neg hrest]
      exact ih
  | case12 links dir n rest hdot hup hlong place a k he hrest =>
      have he' : fs'.find? (dir ++ [n]) = _ := h.find?_eq_some hn he (fun _ _ => Entry.noConfusion)
      simp only [FileSystem.follow, if_neg hdot, if_neg hup, if_neg hlong, he', if_pos hrest]
      exact .error _
  | case13 links dir n rest hdot hup hlong place a hrest pid number isPipe shown hlast he =>
      subst hlast
      have he' : fs'.find? (dir ++ [n]) = _ := h.find?_eq_some hn he (fun _ _ => Entry.noConfusion)
      simp only [FileSystem.follow, if_neg hdot, if_neg hup, if_neg hlong, he', if_neg hrest]
      refine .taken place ?_ (.same _)
      exact trivial
  | case14 links dir n rest hdot hup hlong place a k he hrest hk =>
      have he' : fs'.find? (dir ++ [n]) = _ := h.find?_eq_some hn he (fun _ _ => Entry.noConfusion)
      simp only [FileSystem.follow, if_neg hdot, if_neg hup, if_neg hlong, he', if_neg hrest]
      refine .taken place ?_ (.same _)
      exact trivial
  | case15 links dir n hdot hup hlong place d he =>
      have he' : fs'.find? (dir ++ [n]) = _ := h.find?_eq_some hn he (fun _ _ => Entry.noConfusion)
      rw [follow_of_file ⟨hdot, hup, hlong⟩ he', if_pos rfl]
      refine .taken place ?_ (.same _)
      exact trivial
  | case16 links dir n rest hdot hup hlong place d he hrest =>
      have he' : fs'.find? (dir ++ [n]) = _ := h.find?_eq_some hn he (fun _ _ => Entry.noConfusion)
      rw [follow_of_file ⟨hdot, hup, hlong⟩ he', if_neg hrest]
      exact .error _

/-- A path leads nowhere in both, for the same reason, or to an entry in both. -/
theorem Relisted.entry (h : fs.Relisted fs') (hn : fs.WellNamed) (p : Path) :
    (∃ x, fs.entry p = .error x ∧ fs'.entry p = .error x) ∨
    ∃ e e', fs.entry p = .ok e ∧ fs'.entry p = .ok e' ∧ e.WellNamed ∧ e.Reordered e' := by
  have hlocate : SameOutcome (fs.locate true p) (fs'.locate true p) := by
    rw [locate, locate, h.cwd]
    split
    · exact .error _
    · split
      · exact .error _
      · split
        · exact .error _
        · exact h.follow hn true maxLinks _ _
  rw [FileSystem.entry, FileSystem.entry]
  generalize fs.locate true p = o, fs'.locate true p = o' at hlocate ⊢
  cases hlocate with
  | error x => exact .inl ⟨x, rfl, rfl⟩
  | free dir n asDirectory => exact .inl ⟨.notFound, rfl, rfl⟩
  | @taken place e e' hnamed hr => exact .inr ⟨e, e', rfl, rfl, hnamed, hr⟩

theorem Relisted.refl (fs : FileSystem) : fs.Relisted fs := ⟨.refl _, .refl _, rfl⟩

theorem WellNamed.entry (h : fs.WellNamed) {p : Path} {e : Entry} (he : fs.entry p = .ok e) :
    e.WellNamed := by
  rcases (Relisted.refl fs).entry h p with ⟨x, hx, -⟩ | ⟨e', -, he', -, hnamed, -⟩
  · rw [he] at hx
    cases hx
  · rw [he] at he'
    cases he'
    exact hnamed

end FileSystem

/-! ## The files below a directory -/

/-- The name of a test file has the extension behind its last dot, and something in front. -/
def IsTestName (ext : Text) (n : Name) : Prop :=
  ∃ stem, stem ≠ [] ∧ n = stem ++ '.' :: Octets.ofText ext ∧ '.' ∉ Octets.ofText ext

theorem hasExtension_iff {ext : Text} {names : List Name} :
    hasExtension ext names = true ↔ ∃ above n, names = above ++ [n] ∧ IsTestName ext n := by
  rw [hasExtension]
  rcases List.eq_nil_or_concat names with rfl | ⟨above, n, rfl⟩
  · simp
  · rw [List.concat_eq_append, List.getLast?_concat]
    constructor
    · intro h
      exact ⟨above, n, rfl, Path.extension?_eq_some_iff.mp (beq_iff_eq.mp h)⟩
    · rintro ⟨above', n', hnames, hn⟩
      obtain ⟨-, hsame⟩ := List.append_inj' hnames rfl
      cases hsame
      exact beq_iff_eq.mpr (Path.extension?_eq_some_iff.mpr hn)

section Below

variable {ext : Text} {p : Path} {l l' : Listing} {found found' : List (List Name × Entry)}

theorem testPath?_eq_some_iff {x : List Name × Entry} {q : Path} :
    testPath? ext p x = some q ↔
      ∃ d, x.2 = .file d ∧ hasExtension ext x.1 = true ∧ p.down x.1 = q := by
  obtain ⟨names, e⟩ := x
  cases e with
  | file d =>
      rw [testPath?]
      split <;> simp [*]
  | _ => simp [testPath?]

theorem mem_testPaths_iff (h : l.Covers found) (top : Attributes) {q : Path} :
    q ∈ testPaths ext p found ↔ ∃ above n d, IsTestName ext n ∧
      l.find? top (above ++ [n]) = some (.file d) ∧ q = p.down (above ++ [n]) := by
  rw [testPaths, List.mem_filterMap]
  constructor
  · rintro ⟨⟨names, e⟩, hmem, hq⟩
    obtain ⟨d, rfl, hext, rfl⟩ := testPath?_eq_some_iff.mp hq
    obtain ⟨above, n, rfl, hn⟩ := hasExtension_iff.mp hext
    exact ⟨above, n, d, hn, ((h.mem_iff top _ _).mp hmem).2, rfl⟩
  · rintro ⟨above, n, d, hn, hd, rfl⟩
    refine ⟨(above ++ [n], .file d), (h.mem_iff top _ _).mpr ⟨by simp, hd⟩, ?_⟩
    exact testPath?_eq_some_iff.mpr ⟨d, rfl, hasExtension_iff.mpr ⟨above, n, rfl, hn⟩, rfl⟩

theorem rank_down_inj {names names' : List Name} (h : ∀ n ∈ names, Path.IsEntryName n)
    (h' : ∀ n ∈ names', Path.IsEntryName n) (hrank : (p.down names).rank = (p.down names').rank) :
    names = names' := by
  have hcomponents := Path.same_iff.mp (Path.rank_eq_iff.mp hrank)
  rw [Path.components_down h, Path.components_down h'] at hcomponents
  exact List.map_injective_iff.mpr (fun _ _ => Component.name.inj)
    (List.append_cancel_left hcomponents)

/-- Different chains of names spell different paths. -/
theorem pairwise_testPaths (hl : l.WellNamed) (h : l.Covers found) :
    (testPaths ext p found).Pairwise fun q r => q.rank ≠ r.rank := by
  have hnames : ∀ x ∈ found, ∀ n ∈ x.1, Path.IsEntryName n := fun x hx =>
    Listing.isEntryName_of_find? hl ((h.mem_iff FileSystem.topAttributes _ _).mp hx).2
  refine List.pairwise_filterMap.mpr (h.nodup.imp_of_mem ?_)
  intro x y hx hy hne q hq r hr hrank
  obtain ⟨-, -, -, rfl⟩ := testPath?_eq_some_iff.mp hq
  obtain ⟨-, -, -, rfl⟩ := testPath?_eq_some_iff.mp hr
  exact hne (h.eq_of_names hx hy (rank_down_inj (hnames x hx) (hnames y hy) hrank))

/-- However a tree is listed and walked through, the test files in it are the same. -/
theorem testPaths_perm (hl : l.WellNamed) (hr : l.Reordered l') (h : l.Covers found)
    (h' : l'.Covers found') : (testPaths ext p found).Perm (testPaths ext p found') := by
  have hnodup {l : Listing} {found : List (List Name × Entry)} (hl : l.WellNamed)
      (h : l.Covers found) : (testPaths ext p found).Nodup :=
    (pairwise_testPaths hl h).imp fun hne hqr => hne (congrArg Path.rank hqr)
  rw [List.perm_ext_iff_of_nodup (hnodup hl h) (hnodup (hr.wellNamed hl) h')]
  intro q
  rw [mem_testPaths_iff h FileSystem.topAttributes, mem_testPaths_iff h' FileSystem.topAttributes]
  refine exists_congr fun above => exists_congr fun n => exists_congr fun d => ?_
  rw [hr.find?_file_iff hl]

end Below

/-! ## Discovery -/

theorem discoverBy_relisted {fs fs' : FileSystem} (h : fs.WellNamed) (hr : fs.Relisted fs')
    {walk : Listing → List (List Name × Entry)} (hwalk : Listing.IsWalk walk)
    (p : Path) (ext : Text) : discoverBy walk fs' p ext = discover fs p ext := by
  rw [discover, discoverBy, discoverBy]
  rcases hr.entry h p with ⟨x, he, he'⟩ | ⟨e, e', he, he', hnamed, hre⟩
  · rw [he, he']
  · rw [he, he']
    have hdir (a : Attributes) {c c' : Listing} (hc : c.WellNamed) (hr : c.Reordered c') :
        (testPaths ext p (walk c')).mergeSort Path.le =
          (testPaths ext p (c.walk [])).mergeSort Path.le := by
      have hcovers := Listing.covers_walk hc
      exact (mergeSort_eq_of_perm Path.le_iff (pairwise_testPaths hc hcovers)
        (testPaths_perm hc hr hcovers (hwalk c' (hr.wellNamed hc)))).symm
    cases hre with
    | same =>
        cases e with
        | dir a c => exact congrArg Except.ok (hdir a hnamed (.refl c))
        | _ => rfl
    | dir a hc => exact congrArg Except.ok (hdir a hnamed hc)

/-- The test files below a directory are found once each, in the order of their paths: the regular
files at any depth whose name has the extension behind its last dot and something in front.  In
which order the directories list their entries makes no difference, nor does the order of the walk
that comes to every entry once. -/
theorem discover_tree {fs : FileSystem} (h : fs.WellNamed) (p : Path) (ext : Text) :
    (∀ a l, fs.entry p = .ok (.dir a l) →
      ∃ paths, discover fs p ext = .ok paths ∧ paths.Pairwise Path.Before ∧
        ∀ q, q ∈ paths ↔ ∃ above n d, IsTestName ext n ∧
          l.find? a (above ++ [n]) = some (.file d) ∧ q = p.down (above ++ [n])) ∧
    ∀ fs', fs.Relisted fs' → discover fs' p ext = discover fs p ext ∧
      ∀ walk, Listing.IsWalk walk → discoverBy walk fs' p ext = discover fs p ext := by
  refine ⟨?_, fun fs' hr => ⟨?_, fun walk hwalk => discoverBy_relisted h hr hwalk p ext⟩⟩
  · intro a l he
    have hl : l.WellNamed := h.entry he
    have hcovers := Listing.covers_walk hl
    refine ⟨(testPaths ext p (l.walk [])).mergeSort Path.le, ?_, ?_, ?_⟩
    · rw [discover, discoverBy, he]
    · exact (pairwise_lt_mergeSort Path.le_iff (pairwise_testPaths hl hcovers)).imp
        Path.before_iff.mpr
    · intro q
      rw [(List.mergeSort_perm _ _).mem_iff, mem_testPaths_iff hcovers a]
  · exact discoverBy_relisted h hr Listing.isWalk_walk p ext

/-- A file system with these entries at the top of the tree, where the current directory is. -/
def FileSystem.withTop (root : Listing) : FileSystem :=
  { root, cwd := [], next := 1, now := 0, mask := 0, processes := fun _ => .nil }

theorem FileSystem.locate_withTop {root : Listing} {followLast : Bool} {p : Path}
    (hp : p.written.contains '\x00' = false ∧ p.written ≠ [] ∧ p.written.length < maxPath) :
    (withTop root).locate followLast p =
      (withTop root).follow followLast maxLinks [] (Text.cutAt '/' p.written) := by
  have hcwd : (withTop root).cwd = [] := rfl
  rw [locate_eq_follow hp, hcwd, ite_self]

/-- A file system with a directory `t`. -/
def treeWith (entries : List (Name × Entry)) : FileSystem :=
  .withTop (.dir (text "t") FileSystem.topAttributes (.ofEntries entries) .nil)

/-- Two test files, one of them in a directory whose name is longer than what the other one's
begins with, and three entries that are none. -/
def sampleEntries : List (Name × Entry) :=
  let file := Entry.file { FileSystem.topAttributes with bytes := [] }
  [(text "a-b.zig", file),
   (text "a", .dir FileSystem.topAttributes (.ofEntries
     [(text "c.zig", .link FileSystem.topAttributes (text "b.zig")), (text ".zig", file),
      (text "b.zig", file)])),
   (text "b.zig.md", file)]

def sampleFound : List Path := [.ofText (text "t/a/b.zig"), .ofText (text "t/a-b.zig")]

theorem entry_treeWith (entries : List (Name × Entry)) :
    (treeWith entries).entry (.ofText (text "t")) =
      .ok (.dir FileSystem.topAttributes (.ofEntries entries)) := by
  have hfind : (treeWith entries).find? [text "t"] =
      some (.dir FileSystem.topAttributes (.ofEntries entries)) := by
    rw [FileSystem.find?, if_neg (by decide +kernel)]
    rfl
  have hcut : Text.cutAt '/' (Path.ofText (text "t")).written = [text "t"] := by decide +kernel
  have hlocate : (treeWith entries).locate true (.ofText (text "t")) =
      .ok (.taken [text "t"] (.dir FileSystem.topAttributes (.ofEntries entries))) := by
    rw [treeWith, FileSystem.locate_withTop (by decide +kernel), hcut,
      FileSystem.follow_of_dir (by decide +kernel) hfind]
    exact FileSystem.follow_nil hfind
  rw [FileSystem.entry, hlocate]
  rfl

/-- The walk may come to the files in the other order, too. -/
theorem discover_tree_sample :
    (treeWith sampleEntries).WellNamed ∧
      (treeWith sampleEntries).entry (.ofText (text "t")) =
        .ok (.dir FileSystem.topAttributes (.ofEntries sampleEntries)) ∧
      (treeWith sampleEntries).Relisted (treeWith sampleEntries.reverse) ∧
      discover (treeWith sampleEntries.reverse) (.ofText (text "t")) defaultExtension =
        .ok sampleFound ∧
      discoverBy (fun l => (l.walk []).reverse) (treeWith sampleEntries) (.ofText (text "t"))
        defaultExtension = .ok sampleFound ∧
      sampleFound.Pairwise Path.Before := by
  have hnamed : (treeWith sampleEntries).WellNamed := ⟨by decide +kernel, by decide +kernel⟩
  have he := entry_treeWith sampleEntries
  have hr : (treeWith sampleEntries).Relisted (treeWith sampleEntries.reverse) :=
    ⟨.inside _ _ _ (Listing.reordered_of_perm (by decide +kernel)), .refl _, rfl⟩
  have hwalk : Listing.IsWalk fun l => (l.walk []).reverse := fun l hl =>
    { mem_iff := fun top names x =>
        List.mem_reverse.trans ((Listing.covers_walk hl).mem_iff top names x)
      nodup := List.nodup_reverse.mpr (Listing.covers_walk hl).nodup }
  have hback : discoverBy (fun l => (l.walk []).reverse) (treeWith sampleEntries)
      (.ofText (text "t")) defaultExtension = .ok sampleFound := by
    have hpaths : testPaths defaultExtension (.ofText (text "t"))
        ((Listing.ofEntries sampleEntries).walk []).reverse = sampleFound := by decide +kernel
    rw [discoverBy, he]
    dsimp only
    rw [hpaths, List.mergeSort_of_pairwise (by decide +kernel)]
  obtain ⟨htree, hany⟩ := discover_tree hnamed (.ofText (text "t")) defaultExtension
  have hfound := ((hany _ (.refl _)).2 _ hwalk).symm.trans hback
  obtain ⟨paths, hpaths, hsorted, -⟩ := htree _ _ he
  rw [hfound] at hpaths
  cases hpaths
  exact ⟨hnamed, he, hr, (hany _ hr).1.trans hfound, hback, hsorted⟩

end SkipAudit
