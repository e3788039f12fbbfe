/-
# Looking for the compiler twice

Whether there is a compiler is asked once (`World.hasCompiler`), and each start looks for it again
by the rule of the system (`World.findProgram`).  The first look-up tells a bare name by its
components, the second by its slashes; the first falls back to the current directory, the second
does not.

    FileSystem.endsInName_of_isFile  a path to a file ends in a name, so no compiler that is
                                     accepted as a bare name has a slash in it
    World.findProgram_eq_ok          a start finds a file under one of the paths of the program
    World.findProgram_eq_error       it fails because none of them is a file, or one is refused
    search_of_accepted               so what the first look-up accepts the second one finds,
                                     unless the compiler is `Stray`

A stray compiler is accepted and cannot be started (`stray_compiler_accepted`): each test fails, and
nothing is formatted.  What is found need not be a program, and its interpreter may be missing; of
that nothing is said.
-/
import SkipAudit.CommandLine.Run
import SkipAudit.Proofs.Discovery

namespace SkipAudit

/-! ## Paths to files -/

namespace FileSystem

variable {fs : FileSystem} {followLast : Bool} {links : Nat} {dir place : List Name}
  {pieces : List Octets} {d : FileData} {p : Path}

/-- No regular file stands at a place, or on the way there. -/
def Passable (fs : FileSystem) (place : List Name) : Prop :=
  ∀ names, names <+: place → ∀ d, fs.find? names ≠ some (.file d)

theorem passable_nil (fs : FileSystem) : fs.Passable [] := by
  intro names hnames d
  rw [List.prefix_nil.mp hnames]
  exact fun h => by cases h

theorem Passable.of_prefix (h : fs.Passable place) (hdir : dir <+: place) : fs.Passable dir :=
  fun names hnames => h names (hnames.trans hdir)

theorem Passable.concat (h : fs.Passable dir) {n : Name}
    (hn : ∀ d, fs.find? (dir ++ [n]) ≠ some (.file d)) : fs.Passable (dir ++ [n]) := by
  intro names hnames
  rcases List.prefix_concat_iff.mp hnames with rfl | hnames
  · exact hn
  · exact h names hnames

/-- A path that leads to a file has a name as its last piece: what follows a name is looked for in a
directory, and dots lead to one. -/
theorem lastIsName_of_follow (hdir : fs.Passable dir)
    (h : fs.follow followLast links dir pieces = .ok (.taken place (.file d))) :
    Path.LastIsName pieces := by
  have hsingle {n : Octets} (hdot : ¬(n = [] ∨ n = ['.'])) (hup : n ≠ ['.', '.']) :
      Path.LastIsName [n] := by
    rw [not_or] at hdot
    exact Path.lastIsName_singleton_iff.mpr ⟨hdot.1, hdot.2, hup⟩
  fun_induction FileSystem.follow fs followLast links dir pieces with
  | case1 links dir e he =>
      cases h
      exact absurd he (hdir _ (List.prefix_refl _) d)
  | case3 links dir n rest hdot ih => exact (ih hdir h).cons n
  | case4 links dir rest hdot ih =>
      exact (ih (hdir.of_prefix (List.dropLast_prefix dir)) h).cons _
  | case8 links dir n rest hdot hup hlong place a c he ih =>
      refine (ih (hdir.concat ?_) h).cons n
      intro d hd
      cases he.symm.trans hd
  | case11 dir n rest hdot hup hlong place a t he hfollow links pieces ih =>
      -- The target of the link is followed first, and then what is left of the path.
      have htarget : fs.Passable (if Text.startsWith ['/'] t = true then [] else dir) := by
        split
        · exact passable_nil fs
        · exact hdir
      have hlast := ih htarget h
      cases rest with
      | nil => exact hsingle hdot hup
      | cons r rest =>
          exact ((Path.lastIsName_append_iff (List.cons_ne_nil r rest)).mp hlast).cons n
  | case15 links dir n hdot hup hlong place d' he => exact hsingle hdot hup
  | _ => simp at h

theorem exists_of_isFile (h : fs.isFile p = true) : ∃ d, fs.entry p = .ok (.file d) := by
  rw [isFile] at h
  split at h
  · rename_i d hd
    exact ⟨d, hd⟩
  · cases h

theorem isFile_of_entry (h : fs.entry p = .ok (.file d)) : fs.isFile p = true := by
  rw [isFile, h]

theorem exists_locate_of_entry {e : Entry} (h : fs.entry p = .ok e) :
    ∃ place, fs.locate true p = .ok (.taken place e) := by
  rw [FileSystem.entry] at h
  cases ho : fs.locate true p with
  | error x =>
      rw [ho] at h
      cases h
  | ok o =>
      rw [ho] at h
      cases o with
      | free dir n asDirectory => cases h
      | taken place e =>
          cases h
          exact ⟨place, rfl⟩

theorem follow_of_locate {o : Place} (h : fs.locate followLast p = .ok o) :
    fs.follow followLast maxLinks (if p.isAbsolute then [] else fs.cwd)
      (Text.cutAt '/' p.written) = .ok o := by
  rw [locate] at h
  split at h
  · cases h
  · split at h
    · cases h
    · split at h
      · cases h
      · exact h

/-- A path to a file does not end in a slash or in dots. -/
theorem endsInName_of_isFile (hcwd : fs.Passable fs.cwd) (h : fs.isFile p = true) :
    p.EndsInName := by
  obtain ⟨d, hd⟩ := exists_of_isFile h
  obtain ⟨place, hplace⟩ := exists_locate_of_entry hd
  refine lastIsName_of_follow ?_ (follow_of_locate hplace)
  split
  · exact passable_nil fs
  · exact hcwd

end FileSystem

/-! ## The rule of the system -/

namespace World

variable {w : World} {isWritten : Nat → Bool} {name : Octets} {p c : Path} {d : FileData}
  {e : FileError}

/-- The directories of the search path. -/
def searchDirs (w : World) : List Path := (w.searchPath.map Path.ofSearchPath).getD []

/-- The paths under which a program is looked for when it is started: a name with a slash is one,
any other name is looked for in the directories of the search path. -/
def programPaths (w : World) (name : Octets) : List Path :=
  if '/' ∈ name then [⟨name⟩] else w.searchDirs.map (·.join ⟨name⟩)

/-- An error says that there is nothing under a path. -/
def IsLack (e : FileError) : Prop := e = .notFound ∨ e = .notDirectory

theorem programAt_eq_ok (h : w.programAt isWritten p = .ok d) : w.fs.entry p = .ok (.file d) := by
  rw [programAt] at h
  cases he : w.fs.entry p with
  | error x =>
      rw [he] at h
      cases h
  | ok e =>
      rw [he] at h
      cases e with
      | file d' =>
          simp only [bind, Except.bind] at h
          split at h
          · cases h
          · split at h <;> cases h
            rfl
      | _ => cases h

theorem programAt_eq_error (hfile : w.fs.isFile p = true) (h : w.programAt isWritten p = .error e) :
    ¬ IsLack e := by
  obtain ⟨d, hd⟩ := FileSystem.exists_of_isFile hfile
  rw [programAt, hd] at h
  simp only [bind, Except.bind] at h
  split at h
  · cases h
    simp [IsLack]
  · split at h
    · cases h
      simp [IsLack]
    · cases h

/-- What looking for a program in one more directory comes to. -/
inductive SearchStep (w : World) (isWritten : Nat → Bool) (name : Octets) (refused : Bool)
    (dirs : List Path) (p : Path) : Except FileError (Path × FileData) → Prop
  | found (d : FileData) : w.programAt isWritten p = .ok d →
      SearchStep w isWritten name refused dirs p (.ok (p, d))
  | passed (e : FileError) : w.programAt isWritten p = .error e → IsLack e →
      SearchStep w isWritten name refused dirs p (w.searchIn isWritten name refused dirs)
  | refused : w.programAt isWritten p = .error .permission →
      SearchStep w isWritten name refused dirs p (w.searchIn isWritten name true dirs)
  | stopped (e : FileError) : w.programAt isWritten p = .error e → ¬ IsLack e →
      SearchStep w isWritten name refused dirs p (.error e)

theorem searchIn_cons (w : World) (isWritten : Nat → Bool) (name : Octets) (refused : Bool)
    (dir : Path) (dirs : List Path) :
    SearchStep w isWritten name refused dirs (dir.join ⟨name⟩)
      (w.searchIn isWritten name refused (dir :: dirs)) := by
  rw [searchIn]
  split
  · rename_i d hd
    exact .found d hd
  · rename_i he
    exact .passed _ he (.inl rfl)
  · rename_i he
    exact .passed _ he (.inr rfl)
  · rename_i he
    exact .refused he
  · rename_i e hfound hdirectory _ he
    refine .stopped e he ?_
    rintro (rfl | rfl)
    · exact hfound rfl
    · exact hdirectory rfl

theorem searchIn_eq_ok {refused : Bool} {dirs : List Path}
    (h : w.searchIn isWritten name refused dirs = .ok (p, d)) :
    (∃ dir ∈ dirs, dir.join ⟨name⟩ = p) ∧ w.programAt isWritten p = .ok d := by
  induction dirs generalizing refused with
  | nil => cases h
  | cons dir dirs ih =>
      have hstep := searchIn_cons w isWritten name refused dir dirs
      have hlater {refused : Bool} (h : w.searchIn isWritten name refused dirs = .ok (p, d)) :
          (∃ dir' ∈ dir :: dirs, dir'.join ⟨name⟩ = p) ∧ w.programAt isWritten p = .ok d := by
        obtain ⟨⟨dir', hdir', hp⟩, hd⟩ := ih h
        exact ⟨⟨dir', List.mem_cons_of_mem dir hdir', hp⟩, hd⟩
      generalize w.searchIn isWritten name refused (dir :: dirs) = r at h hstep
      cases hstep with
      | found d hd =>
          cases h
          exact ⟨⟨dir, List.mem_cons_self, rfl⟩, hd⟩
      | passed e he hlack => exact hlater h
      | refused he => exact hlater h
      | stopped e he hlack => cases h

/-- If a search says that there is nothing, there is no file under any of its paths. -/
theorem isFile_of_searchIn_lack {refused : Bool} {dirs : List Path}
    (h : w.searchIn isWritten name refused dirs = .error e) (he : IsLack e) :
    refused = false ∧ ∀ dir ∈ dirs, w.fs.isFile (dir.join ⟨name⟩) = false := by
  induction dirs generalizing refused with
  | nil =>
      cases refused with
      | false => exact ⟨rfl, List.forall_mem_nil _⟩
      | true =>
          cases h
          exact absurd he (by simp [IsLack])
  | cons dir dirs ih =>
      have hstep := searchIn_cons w isWritten name refused dir dirs
      generalize w.searchIn isWritten name refused (dir :: dirs) = r at h hstep
      cases hstep with
      | found d hd => cases h
      | passed x hx hlack =>
          obtain ⟨hr, hnone⟩ := ih h
          refine ⟨hr, List.forall_mem_cons.mpr ⟨?_, hnone⟩⟩
          exact Bool.eq_false_iff.mpr fun hfile => programAt_eq_error hfile hx hlack
      | refused hx => exact absurd (ih h).1.symm Bool.false_ne_true
      | stopped x hx hlack =>
          cases h
          exact absurd he hlack

/-- If it says anything else, something under one of its paths was refused. -/
theorem programAt_of_searchIn {refused : Bool} {dirs : List Path}
    (h : w.searchIn isWritten name refused dirs = .error e) (he : ¬ IsLack e) :
    (refused = true ∧ e = .permission) ∨
      ∃ dir ∈ dirs, w.programAt isWritten (dir.join ⟨name⟩) = .error e := by
  induction dirs generalizing refused with
  | nil =>
      cases refused with
      | false =>
          cases h
          exact absurd (.inl rfl) he
      | true =>
          cases h
          exact .inl ⟨rfl, rfl⟩
  | cons dir dirs ih =>
      have hstep := searchIn_cons w isWritten name refused dir dirs
      generalize w.searchIn isWritten name refused (dir :: dirs) = r at h hstep
      cases hstep with
      | found d hd => cases h
      | passed x hx hlack =>
          exact (ih h).imp_right fun ⟨dir', hdir', he'⟩ =>
            ⟨dir', List.mem_cons_of_mem dir hdir', he'⟩
      | refused hx =>
          rcases ih h with ⟨-, rfl⟩ | ⟨dir', hdir', he'⟩
          · exact .inr ⟨dir, List.mem_cons_self, hx⟩
          · exact .inr ⟨dir', List.mem_cons_of_mem dir hdir', he'⟩
      | stopped x hx hlack =>
          cases h
          exact .inr ⟨dir, List.mem_cons_self, hx⟩

/-! ## A start's look-up -/

theorem findProgram_of_slash (h : '/' ∈ name) :
    w.findProgram isWritten name = (w.programAt isWritten ⟨name⟩).map (⟨name⟩, ·) := by
  rw [findProgram, if_neg (List.ne_nil_of_mem h), if_pos (List.contains_iff_mem.mpr h)]

theorem findProgram_of_bare (hname : name ≠ []) (h : '/' ∉ name) :
    w.findProgram isWritten name = w.searchIn isWritten name false w.searchDirs := by
  have hcontains : ¬ name.contains '/' = true := fun hc => h (List.contains_iff_mem.mp hc)
  rw [findProgram, if_neg hname, if_neg hcontains, searchDirs]
  cases w.searchPath <;> rfl

theorem findProgram_eq_ok (h : w.findProgram isWritten name = .ok (p, d)) :
    p ∈ w.programPaths name ∧ w.fs.entry p = .ok (.file d) := by
  by_cases hname : name = []
  · rw [findProgram, if_pos hname] at h
    cases h
  by_cases hslash : '/' ∈ name
  · rw [findProgram_of_slash hslash] at h
    cases hp : w.programAt isWritten ⟨name⟩ with
    | error x =>
        rw [hp] at h
        cases h
    | ok d' =>
        rw [hp] at h
        cases h
        rw [programPaths, if_pos hslash]
        exact ⟨List.mem_singleton_self _, programAt_eq_ok hp⟩
  · rw [findProgram_of_bare hname hslash] at h
    obtain ⟨⟨dir, hdir, hp⟩, hd⟩ := searchIn_eq_ok h
    rw [programPaths, if_neg hslash]
    exact ⟨List.mem_map.mpr ⟨dir, hdir, hp⟩, programAt_eq_ok hd⟩

theorem findProgram_eq_error (hname : name ≠ []) (h : w.findProgram isWritten name = .error e) :
    (IsLack e ∧ ∀ p ∈ w.programPaths name, w.fs.isFile p = false) ∨
      ¬ IsLack e ∧ ∃ p ∈ w.programPaths name, w.programAt isWritten p = .error e := by
  by_cases hslash : '/' ∈ name
  · rw [findProgram_of_slash hslash] at h
    rw [programPaths, if_pos hslash]
    cases hp : w.programAt isWritten ⟨name⟩ with
    | ok d =>
        rw [hp] at h
        cases h
    | error x =>
        rw [hp] at h
        cases h
        by_cases hlack : IsLack e
        · refine .inl ⟨hlack, fun q hq => ?_⟩
          rw [List.mem_singleton.mp hq]
          exact Bool.eq_false_iff.mpr fun hfile => programAt_eq_error hfile hp hlack
        · exact .inr ⟨hlack, ⟨name⟩, List.mem_singleton_self _, hp⟩
  · rw [findProgram_of_bare hname hslash] at h
    rw [programPaths, if_neg hslash]
    by_cases hlack : IsLack e
    · exact .inl ⟨hlack, List.forall_mem_map.mpr (isFile_of_searchIn_lack h hlack).2⟩
    · rcases programAt_of_searchIn h hlack with ⟨hr, -⟩ | ⟨dir, hdir, he⟩
      · exact absurd hr Bool.false_ne_true
      · exact .inr ⟨hlack, dir.join ⟨name⟩, List.mem_map.mpr ⟨dir, hdir, rfl⟩, he⟩

/-! ## Both look-ups -/

/-- A compiler is a file of the current directory, called by a bare name, and there is no such file
in any directory of the search path. -/
def Stray (w : World) (c : Path) : Prop :=
  '/' ∉ c.written ∧ w.fs.isFile c = true ∧ ∀ p ∈ w.programPaths c.written, w.fs.isFile p = false

/-- Looking for a program that is started comes to an existing file, or fails because of what is
under one of its paths; it never fails because there is nothing. -/
structure Resolves (w : World) (isWritten : Nat → Bool) (name : Octets) : Prop where
  exists_file : ∃ p ∈ w.programPaths name, w.fs.isFile p = true
  found : ∀ p d, w.findProgram isWritten name = .ok (p, d) →
    p ∈ w.programPaths name ∧ w.fs.entry p = .ok (.file d)
  refused : ∀ e, w.findProgram isWritten name = .error e →
    ¬ IsLack e ∧ ∃ p ∈ w.programPaths name, w.programAt isWritten p = .error e

theorem Stray.findProgram (h : w.Stray c) (isWritten : Nat → Bool) :
    ∃ e, w.findProgram isWritten c.written = .error e := by
  cases hfound : w.findProgram isWritten c.written with
  | error e => exact ⟨e, rfl⟩
  | ok found =>
      obtain ⟨p, d⟩ := found
      obtain ⟨hp, hd⟩ := findProgram_eq_ok hfound
      have hfile := FileSystem.isFile_of_entry hd
      rw [h.2.2 p hp] at hfile
      cases hfile

theorem endsInName_of_hasCompiler (hcwd : w.fs.Passable w.fs.cwd) (hc : w.hasCompiler c = true) :
    c.EndsInName := by
  have hfile {p : Path} (hp : w.fs.isFile p = true) : p.EndsInName :=
    FileSystem.endsInName_of_isFile hcwd hp
  rw [hasCompiler] at hc
  split at hc
  · exact hfile hc
  · rcases (Bool.or_eq_true _ _).mp hc with hdirs | hhere
    · obtain ⟨dir, -, hdir⟩ := List.any_eq_true.mp hdirs
      exact Path.endsInName_join.mp (hfile hdir)
    · exact hfile hhere

/-- A compiler that is accepted is an existing file where a start looks for it, or it is stray. -/
theorem exists_or_stray_of_hasCompiler (hcwd : w.fs.Passable w.fs.cwd)
    (hc : w.hasCompiler c = true) :
    (∃ p ∈ w.programPaths c.written, w.fs.isFile p = true) ∨ w.Stray c := by
  have hname := endsInName_of_hasCompiler hcwd hc
  rw [hasCompiler] at hc
  split at hc
  · rename_i hpath
    have hslash : '/' ∈ c.written := by
      rcases (Bool.or_eq_true _ _).mp hpath with hlong | habsolute
      · exact Path.mem_slash_of_components (decide_eq_true_iff.mp hlong)
      · exact Path.mem_slash_of_isAbsolute habsolute
    refine .inl ⟨c, ?_, hc⟩
    rw [programPaths, if_pos hslash]
    exact List.mem_singleton_self c
  · rename_i hbare
    rw [Bool.or_eq_true, not_or, decide_eq_true_iff, Bool.not_eq_true] at hbare
    have hslash : '/' ∉ c.written := fun hslash =>
      hbare.1 (hname.one_lt_length_components hbare.2 hslash)
    by_cases hfile : ∃ p ∈ w.programPaths c.written, w.fs.isFile p = true
    · exact .inl hfile
    · have hnone : ∀ p ∈ w.programPaths c.written, w.fs.isFile p = false := fun p hp =>
        Bool.eq_false_iff.mpr fun h => hfile ⟨p, hp, h⟩
      rcases (Bool.or_eq_true _ _).mp hc with hdirs | hhere
      · obtain ⟨dir, hdir, hfound⟩ := List.any_eq_true.mp hdirs
        refine .inl ⟨dir.join c, ?_, hfound⟩
        rw [programPaths, if_neg hslash]
        exact List.mem_map.mpr ⟨dir, hdir, rfl⟩
      · exact .inr ⟨hslash, hhere, hnone⟩

end World

/-! ## Two worlds -/

/-- A world with these entries at the top of the tree, and programs in `/bin`. -/
def worldWith (root : Listing) : World :=
  ⟨.withTop root, some (text "/bin"), .ofText (text "/tmp")⟩

/-- A file with nothing in it. -/
def emptyFile : FileData := { FileSystem.topAttributes with bytes := [] }

/-- A program with nothing in it, under a name. -/
def emptyProgram (name : Text) : Listing := .file (Octets.ofText name) emptyFile .nil

/-- The compiler is in the only directory of the search path. -/
def installedWorld : World :=
  worldWith (.dir (text "bin") FileSystem.topAttributes (emptyProgram (text "zig")) .nil)

/-- The compiler is in the current directory and in no other. -/
def strayWorld : World := worldWith (emptyProgram (text "zig"))

section WorldWith

variable (root : Listing)

theorem searchDirs_worldWith : (worldWith root).searchDirs = [.ofText (text "/bin")] := by
  have hdirs : ((some (text "/bin")).map Path.ofSearchPath).getD [] = [.ofText (text "/bin")] := by
    decide +kernel
  exact hdirs

theorem join_bin_zig :
    (Path.ofText (text "/bin")).join ⟨text "zig"⟩ = .ofText (text "/bin/zig") := by
  decide +kernel

theorem programPaths_worldWith :
    (worldWith root).programPaths (text "zig") = [.ofText (text "/bin/zig")] := by
  rw [World.programPaths, if_neg (by decide), searchDirs_worldWith, List.map_singleton,
    join_bin_zig]

theorem hasCompiler_worldWith :
    (worldWith root).hasCompiler ⟨text "zig"⟩ =
      ((worldWith root).fs.isFile (.ofText (text "/bin/zig")) ||
        (worldWith root).fs.isFile ⟨text "zig"⟩) := by
  have hdirs : ((worldWith root).searchPath.map Path.ofSearchPath).getD [] =
      [.ofText (text "/bin")] := searchDirs_worldWith root
  rw [World.hasCompiler, if_neg (by decide +kernel), hdirs]
  simp only [List.any_cons, List.any_nil, join_bin_zig, Bool.or_false]

theorem findProgram_worldWith
    (h : (worldWith root).fs.entry (.ofText (text "/bin/zig")) = .error .notFound)
    (isWritten : Nat → Bool) :
    (worldWith root).findProgram isWritten (text "zig") = .error .notFound := by
  have hprogram : (worldWith root).programAt isWritten (.ofText (text "/bin/zig")) =
      .error .notFound := by
    rw [World.programAt, h]
    rfl
  rw [World.findProgram_of_bare (by decide) (by decide), searchDirs_worldWith, World.searchIn,
    join_bin_zig, hprogram]
  rfl

theorem locate_bin_zig :
    (worldWith root).fs.locate true (.ofText (text "/bin/zig")) =
      (worldWith root).fs.follow true FileSystem.maxLinks [] [text "bin", text "zig"] := by
  have hcut : Text.cutAt '/' (Path.ofText (text "/bin/zig")).written =
      [[], text "bin", text "zig"] := by decide +kernel
  rw [worldWith, FileSystem.locate_withTop (by decide +kernel), hcut,
    FileSystem.follow_of_dot (.inl rfl)]

theorem locate_zig :
    (worldWith root).fs.locate true ⟨text "zig"⟩ =
      (worldWith root).fs.follow true FileSystem.maxLinks [] [text "zig"] := by
  have hcut : Text.cutAt '/' (text "zig") = [text "zig"] := by decide
  rw [worldWith, FileSystem.locate_withTop (by decide +kernel), hcut]

end WorldWith

theorem isFile_installedWorld :
    installedWorld.fs.isFile (.ofText (text "/bin/zig")) = true ∧
      installedWorld.fs.isFile ⟨text "zig"⟩ = false := by
  constructor
  · rw [FileSystem.isFile, FileSystem.entry, installedWorld, locate_bin_zig,
      FileSystem.follow_of_dir (by decide) rfl, FileSystem.follow_of_file (by decide) rfl]
    rfl
  · rw [FileSystem.isFile, FileSystem.entry, installedWorld, locate_zig,
      FileSystem.follow_of_none (by decide) rfl]
    rfl

theorem entry_strayWorld :
    strayWorld.fs.entry (.ofText (text "/bin/zig")) = .error .notFound ∧
      strayWorld.fs.entry ⟨text "zig"⟩ = .ok (.file emptyFile) := by
  constructor
  · rw [FileSystem.entry, strayWorld, locate_bin_zig, FileSystem.follow_of_none (by decide) rfl,
      if_neg (by decide)]
    rfl
  · rw [FileSystem.entry, strayWorld, locate_zig, FileSystem.follow_of_file (by decide) rfl]
    rfl

/-! ## Starting the compiler -/

theorem System.start_of_error {s : System} {program : Path} {e : FileError}
    (h : s.world.findProgram s.isWritten program.written = .error e) (load : Loader) (number : Nat)
    (args : List Octets) (limit : Option Nat) :
    s.start load number program args limit =
      .error (if (program.written :: args).any (·.contains Octets.nul) then .nulInArgument
        else e) := by
  rw [start]
  split
  · rfl
  · rw [h]
    rfl

namespace Laboratory

/-- The world in which the compiler would be started for a test: the one with the scratch file. -/
def StartsIn (l : Laboratory) (j : Job) (w : World) : Prop :=
  ∀ p w', l.system.worldNow.createScratch j.fileName j.isolated = .ok (p, w') →
    (l.system.withFiles w'.fs).world = w

theorem executor_refused [Programs] (v : Invocation) (number : Nat) (e : HarnessError)
    (l : Laboratory) :
    ∃ l', v.executor.result? number (l.withTrial number (.refused e)) =
      some (some (.harnessFailed e.message), l') := by
  refine ⟨(l.withTrial number (.refused e)).withoutTrial number, ?_⟩
  simp [Invocation.executor, result?, withTrial, Invocation.outcomeOf]

/-- A test fails if its compiler cannot be found when it is started. -/
theorem harnessFailed_of_stray [Programs] {v : Invocation} {j : Job} {l : Laboratory} {w : World}
    (hw : l.StartsIn j w) (hstray : w.Stray v.compiler) (number : Nat) :
    ∃ message l', v.executor.result? number (v.executor.start number j l) =
      some (some (.harnessFailed message), l') := by
  have hstart : v.executor.start number j l = l.start v number j := rfl
  rw [hstart, Laboratory.start]
  cases hscratch : l.system.worldNow.createScratch j.fileName j.isolated with
  | error e => exact ⟨_, executor_refused v number (.scratch e) l⟩
  | ok created =>
      obtain ⟨p, w'⟩ := created
      let s := (l.system.withFiles w'.fs).keepWritten l.system.worldNow.fs.next
      have hworld : s.world = w := hw p w' hscratch
      have hlost : s.world.Stray v.compiler := hworld ▸ hstray
      obtain ⟨e, he⟩ := hlost.findProgram s.isWritten
      have hstart := s.start_of_error he Programs.load number (v.testArguments p) (some v.timeout)
      simp only [hstart, s]
      exact ⟨_, executor_refused v number (.spawn v.compiler _) _⟩

end Laboratory

/-- A compiler that is accepted is found whenever it is started, unless it is stray; no start of a
stray one succeeds, and each test of it fails. -/
theorem search_of_accepted {w : World} (hcwd : w.fs.Passable w.fs.cwd) {c : Path}
    (hc : w.hasCompiler c = true) :
    (∀ isWritten, w.Resolves isWritten c.written ↔ ¬ w.Stray c) ∧
    (w.Stray c → ∀ s : System, s.world = w → ∀ load number args limit,
      ∃ e, s.start load number c args limit = .error e) ∧
    (w.Stray c → ∀ [Programs] (v : Invocation) (number : Nat) (j : Job) (l : Laboratory),
      v.compiler = c → l.StartsIn j w →
      ∃ message l', v.executor.result? number (v.executor.start number j l) =
        some (some (.harnessFailed message), l')) := by
  refine ⟨fun isWritten => ⟨?_, ?_⟩, ?_, ?_⟩
  · intro hr hstray
    obtain ⟨p, hp, hfile⟩ := hr.exists_file
    rw [hstray.2.2 p hp] at hfile
    cases hfile
  · intro hstray
    obtain ⟨p, hp, hfile⟩ := (World.exists_or_stray_of_hasCompiler hcwd hc).resolve_right hstray
    have hname := (World.endsInName_of_hasCompiler hcwd hc).written_ne_nil
    refine ⟨⟨p, hp, hfile⟩, fun _ _ => World.findProgram_eq_ok, fun e he => ?_⟩
    rcases World.findProgram_eq_error hname he with ⟨-, hnone⟩ | hrefused
    · rw [hnone p hp] at hfile
      cases hfile
    · exact hrefused
  · rintro hstray s rfl load number args limit
    obtain ⟨e, he⟩ := hstray.findProgram s.isWritten
    exact ⟨_, s.start_of_error he load number args limit⟩
  · rintro hstray _ v number j l rfl hw
    exact Laboratory.harnessFailed_of_stray hw hstray number

theorem search_of_accepted_sample :
    installedWorld.fs.Passable installedWorld.fs.cwd ∧
      installedWorld.hasCompiler (.ofText (text "zig")) = true ∧
      installedWorld.Resolves (fun _ => false) (text "zig") := by
  have hname : Path.ofText (text "zig") = ⟨text "zig"⟩ := by decide +kernel
  obtain ⟨hthere, hhere⟩ := isFile_installedWorld
  have hcwd : installedWorld.fs.Passable installedWorld.fs.cwd := FileSystem.passable_nil _
  have hc : installedWorld.hasCompiler ⟨text "zig"⟩ = true :=
    (hasCompiler_worldWith _).trans (congrArg₂ or hthere hhere)
  have hstray : ¬ installedWorld.Stray ⟨text "zig"⟩ := fun hstray =>
    Bool.false_ne_true (hhere.symm.trans hstray.2.1)
  exact ⟨hcwd, hname ▸ hc, ((search_of_accepted hcwd hc).1 _).mpr hstray⟩

theorem stray_compiler_accepted :
    strayWorld.hasCompiler (.ofText (text "zig")) = true ∧
      strayWorld.programPaths (text "zig") = [.ofText (text "/bin/zig")] ∧
      strayWorld.fs.isFile (.ofText (text "/bin/zig")) = false ∧
      strayWorld.findProgram (fun _ => false) (text "zig") = .error .notFound ∧
      ∀ load : Loader,
        (System.idle strayWorld).start load 0 (.ofText (text "zig")) [text "fmt"] none =
          .error .notFound := by
  have hname : Path.ofText (text "zig") = ⟨text "zig"⟩ := by decide +kernel
  obtain ⟨hnone, hsome⟩ := entry_strayWorld
  have hthere : strayWorld.fs.isFile (.ofText (text "/bin/zig")) = false := by
    rw [FileSystem.isFile, hnone]
  have hfind := findProgram_worldWith (emptyProgram (text "zig")) hnone
  rw [hname]
  refine ⟨?_, programPaths_worldWith _, hthere, hfind _, fun load => ?_⟩
  · exact (hasCompiler_worldWith _).trans
      (congrArg₂ or hthere (FileSystem.isFile_of_entry hsome))
  · refine (System.start_of_error (hfind _) load 0 [text "fmt"] none).trans ?_
    rw [if_neg (by decide)]

end SkipAudit
