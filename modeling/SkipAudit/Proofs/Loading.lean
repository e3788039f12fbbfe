/-
# The corpus as an ordered map

A corpus keeps files under their paths, and a path is the same in every spelling.  What it holds
after some files were added, one after the other, can be said without the index and without the
replacing (`MapOf`):

    order       the paths stand in the order in which they first came, each of them once
    position    the index leads to the file with a path, and nowhere else
    file        looking a path up gives the file that came last under it
    modify      a change through a path is a change of that file

An index that leads astray would put a result into another file, or write one file over
another.  Reading the files of a run comes to adding those that can be read (`load_eq`), with all
their units selected if they are to be checked again.  So all this is true of what was read, and
a file that cannot be read is as good as not asked for.
-/
import Mathlib.Data.List.Induction
import SkipAudit.Proofs.Discovery

namespace SkipAudit

namespace Corpus

/-- The corpus of some files, added one after the other. -/
def ofFiles (fs : List SourceFile) : Corpus := fs.foldl push .empty

theorem ofFiles_concat (fs : List SourceFile) (f : SourceFile) :
    ofFiles (fs ++ [f]) = (ofFiles fs).push f := by
  rw [ofFiles, List.foldl_append]
  rfl

theorem indexed_ofFiles (fs : List SourceFile) : (ofFiles fs).Indexed := by
  induction fs using List.reverseRecOn with
  | nil => exact wellFormed_empty.toIndexed
  | append_singleton fs f ih =>
      rw [ofFiles_concat]
      exact ih.push f

/-! ## One file more -/

namespace Indexed

variable {c : Corpus} (h : c.Indexed)

include h

theorem position?_congr {p q : Path} (hpq : p.same q = true) : c.position? p = c.position? q := by
  rw [h.position, h.position, Path.same_iff.mp hpq]

/-- No two files have one path, so the first position with a path is the only one. -/
theorem position?_iff_places {p : Path} {i : Nat} :
    c.position? p = some i ↔ c.places[i]? = some p.components := by
  constructor
  · intro hi
    obtain ⟨hlt, hat⟩ := h.getElem_places hi
    exact List.getElem?_eq_some_iff.mpr ⟨hlt, hat⟩
  · intro hi
    cases hpos : c.position? p with
    | none => exact absurd (List.mem_of_getElem? hi) (h.position?_eq_none_iff.mp hpos)
    | some j =>
        obtain ⟨hlt, hat⟩ := h.getElem_places hpos
        obtain ⟨hlt', hat'⟩ := List.getElem?_eq_some_iff.mp hi
        rw [h.nodup.getElem_inj_iff.mp (hat.trans hat'.symm)]

/-- The index has the position of every file under its path, and no other positions. -/
theorem position?_eq_some_iff {p : Path} {i : Nat} :
    c.position? p = some i ↔ ∃ f, c.files[i]? = some f ∧ f.path.same p = true := by
  rw [h.position?_iff_places, places, List.getElem?_map, Option.map_eq_some_iff]
  exact exists_congr fun f => and_congr_right fun _ => Path.same_iff.symm

/-- A file that is added is found under its path from then on; nothing has changed under other
paths. -/
theorem file?_push (f : SourceFile) (p : Path) :
    (c.push f).file? p = if f.path.same p then some f else c.file? p := by
  cases hpos : c.position? f.path with
  | none =>
      have hfiles : (c.push f).files = c.files ++ [f] := by rw [Corpus.push, hpos]
      rw [(h.push f).file?_eq, hfiles, List.find?_append, ← h.file?_eq, List.find?_singleton]
      split
      · rename_i hfp
        rw [file?, ← h.position?_congr hfp, hpos, Option.bind_none, Option.none_or]
      · rw [Option.or_none]
  | some i =>
      have hpush : (c.push f).file? p = (c.position? p).bind ((c.files.set i f)[·]?) := by
        rw [Corpus.push, hpos]
        rfl
      -- The file `g` gives way to `f`, and `f` is found through the entry that was made for `g`.
      obtain ⟨g, hg, hgf⟩ := h.position?_eq_some_iff.mp hpos
      rw [hpush]
      split
      · rename_i hfp
        obtain ⟨hlt, -⟩ := List.getElem?_eq_some_iff.mp hg
        rw [← h.position?_congr hfp, hpos, Option.bind_some, List.getElem?_set_self hlt]
      · rename_i hfp
        rw [file?]
        cases hp : c.position? p with
        | none => rfl
        | some j =>
            rw [Option.bind_some, Option.bind_some, List.getElem?_set_ne]
            rintro rfl
            obtain ⟨g', hg', hgp⟩ := h.position?_eq_some_iff.mp hp
            obtain rfl := Option.some.inj (hg.symm.trans hg')
            exact hfp (Path.same_iff.mpr ((Path.same_iff.mp hgf).symm.trans (Path.same_iff.mp hgp)))

/-- A change through a path is a change of the file that is found under it. -/
theorem modifyFile_eq_set (p : Path) (g : SourceFile → SourceFile) :
    c.modifyFile p g =
      match c.position? p, c.file? p with
      | some i, some f => { c with files := c.files.set i (g f) }
      | _, _ => c := by
  rw [modifyFile, file?]
  cases hpos : c.position? p with
  | none => rfl
  | some i =>
      obtain ⟨f, hf, -⟩ := h.position?_eq_some_iff.mp hpos
      dsimp only
      rw [Option.bind_some, hf, List.modify_eq_set_getElem?, hf]
      rfl

/-- The entries of the index are the paths and the positions of the files, path by path. -/
theorem index_push (hindex : c.index.map (fun e => (e.1.components, e.2)) = c.places.zipIdx)
    (f : SourceFile) :
    (c.push f).index.map (fun e => (e.1.components, e.2)) = (c.push f).places.zipIdx := by
  rw [h.places_push]
  cases hpos : c.position? f.path with
  | none =>
      have hindex' : (c.push f).index = c.index ++ [(f.path, c.files.length)] := by
        rw [Corpus.push, hpos]
      rw [if_neg (h.position?_eq_none_iff.mp hpos), hindex', List.map_append, hindex,
        List.zipIdx_append, places, List.length_map, Nat.zero_add]
      rfl
  | some i =>
      have hindex' : (c.push f).index = c.index := by rw [Corpus.push, hpos]
      obtain ⟨hlt, hat⟩ := h.getElem_places hpos
      rw [if_pos (hat ▸ List.getElem_mem hlt), hindex', hindex]

end Indexed

/-! ## All files that were added -/

/-- The file that came last under a path. -/
def lastUnder (fs : List SourceFile) (p : Path) : Option SourceFile :=
  (fs.filter (·.path.same p)).getLast?

theorem eraseDups_concat {α : Type} [BEq α] [LawfulBEq α] (l : List α) (a : α) :
    (l ++ [a]).eraseDups = if a ∈ l then l.eraseDups else l.eraseDups ++ [a] := by
  rw [List.eraseDups_append, List.removeAll, List.filter_singleton]
  by_cases ha : a ∈ l
  · simp [ha]
  · simp [ha, List.eraseDups_cons]

theorem places_ofFiles (fs : List SourceFile) :
    (ofFiles fs).places = (fs.map (·.path.components)).eraseDups := by
  induction fs using List.reverseRecOn with
  | nil => rfl
  | append_singleton fs f ih =>
      rw [ofFiles_concat, (indexed_ofFiles fs).places_push, ih, List.map_append,
        List.map_singleton, eraseDups_concat]
      exact if_congr List.mem_eraseDups rfl rfl

/-- A file of the corpus is one of those that were added. -/
theorem mem_of_mem_ofFiles {fs : List SourceFile} {f : SourceFile} (hf : f ∈ (ofFiles fs).files) :
    f ∈ fs := by
  induction fs using List.reverseRecOn with
  | nil => exact hf
  | append_singleton fs g ih =>
      rw [ofFiles_concat, push] at hf
      rw [List.mem_append, List.mem_singleton]
      split at hf
      · exact (List.mem_or_eq_of_mem_set hf).imp_left ih
      · exact (List.mem_append.mp hf).imp ih List.mem_singleton.mp

/-- Files with different paths are all there, in their order. -/
theorem files_ofFiles {fs : List SourceFile}
    (h : fs.Pairwise fun f g => f.path.same g.path = false) : (ofFiles fs).files = fs := by
  induction fs using List.reverseRecOn with
  | nil => rfl
  | append_singleton fs f ih =>
      obtain ⟨hfs, -, hf⟩ := List.pairwise_append.mp h
      have hnew : f.path.components ∉ (ofFiles fs).places := by
        rw [places, ih hfs, List.mem_map]
        rintro ⟨g, hg, hgf⟩
        have hne := hf g hg f (List.mem_singleton_self f)
        exact absurd (Path.same_iff.mpr hgf) (ne_true_of_eq_false hne)
      rw [ofFiles_concat, push, (indexed_ofFiles fs).position?_eq_none_iff.mpr hnew]
      exact congrArg (· ++ [f]) (ih hfs)

theorem file?_ofFiles (fs : List SourceFile) (p : Path) :
    (ofFiles fs).file? p = lastUnder fs p := by
  induction fs using List.reverseRecOn with
  | nil => rfl
  | append_singleton fs f ih =>
      rw [ofFiles_concat, (indexed_ofFiles fs).file?_push, ih, lastUnder, lastUnder,
        List.filter_append, List.getLast?_append, List.filter_singleton]
      cases f.path.same p <;> rfl

theorem index_ofFiles (fs : List SourceFile) :
    (ofFiles fs).index.map (fun e => (e.1.components, e.2)) = (ofFiles fs).places.zipIdx := by
  induction fs using List.reverseRecOn with
  | nil => rfl
  | append_singleton fs f ih =>
      rw [ofFiles_concat]
      exact (indexed_ofFiles fs).index_push ih f

/-- A corpus is the ordered map of some files that were added one after the other. -/
structure MapOf (fs : List SourceFile) (c : Corpus) : Prop where
  /-- No two files have one path. -/
  apart : c.files.Pairwise fun f g => f.path.same g.path = false
  /-- The files stand in the order in which their paths came first. -/
  order : c.files.map (·.path.components) = (fs.map (·.path.components)).eraseDups
  /-- The index has the path and the position of every file, and nothing else. -/
  index : c.index.map (fun e => (e.1.components, e.2)) =
    (c.files.map (·.path.components)).zipIdx
  /-- In whatever spelling a path is looked up, the index leads to the file with that path. -/
  position : ∀ p i, c.position? p = some i ↔ ∃ f, c.files[i]? = some f ∧ f.path.same p = true
  /-- The file with a path is the one that came last under it. -/
  file : ∀ p, c.file? p = lastUnder fs p
  /-- A change through a path is a change of that file in its place. -/
  modify : ∀ p g, c.modifyFile p g =
    match c.position? p, lastUnder fs p with
    | some i, some f => { c with files := c.files.set i (g f) }
    | _, _ => c

theorem mapOf_ofFiles (fs : List SourceFile) : MapOf fs (ofFiles fs) := by
  have h := indexed_ofFiles fs
  refine ⟨?_, places_ofFiles fs, index_ofFiles fs, fun p i => h.position?_eq_some_iff,
    file?_ofFiles fs, fun p g => ?_⟩
  · refine (List.pairwise_map.mp h.nodup).imp fun hne => ?_
    rw [← Bool.not_eq_true, Path.same_iff]
    exact hne
  · rw [h.modifyFile_eq_set, file?_ofFiles]

/-! ## Loading -/

/-- The file that is loaded from a path, if it can be: when it is to be checked again, each of
its units is selected, and nothing else is changed. -/
def loaded? (sys : FileSystem) (recheck : Bool) (p : Path) : Option SourceFile :=
  match SourceFile.load sys p with
  | .ok f =>
      some (if recheck then { f with units := f.units.map ({ · with selected := true }) } else f)
  | .error _ => none

/-- Why no file can be loaded from a path, if none can. -/
def refusal? (sys : FileSystem) (p : Path) : Option CorpusError :=
  match SourceFile.load sys p with
  | .ok _ => none
  | .error e => some e

/-- Loading is adding what can be loaded, and telling of the rest. -/
theorem load_eq (sys : FileSystem) (recheck : Bool) (paths : List Path) :
    load sys recheck paths =
      (ofFiles (paths.filterMap (loaded? sys recheck)), paths.filterMap (refusal? sys)) := by
  induction paths using List.reverseRecOn with
  | nil => rfl
  | append_singleton paths p ih =>
      have hstep : load sys recheck (paths ++ [p]) =
          match SourceFile.load sys p with
          | .ok f => ((load sys recheck paths).1.push (if recheck then f.selectAll else f),
              (load sys recheck paths).2)
          | .error e => ((load sys recheck paths).1, (load sys recheck paths).2 ++ [e]) := by
        rw [load, load, List.foldl_append]
        rfl
      rw [hstep, ih, List.filterMap_append, List.filterMap_append]
      cases hp : SourceFile.load sys p with
      | ok f =>
          have hloaded : [p].filterMap (loaded? sys recheck) =
              [if recheck then f.selectAll else f] := by simp [loaded?, hp, SourceFile.selectAll]
          have hrefusal : [p].filterMap (refusal? sys) = [] := by simp [refusal?, hp]
          rw [hloaded, hrefusal, ofFiles_concat, List.append_nil]
      | error e =>
          have hloaded : [p].filterMap (loaded? sys recheck) = [] := by simp [loaded?, hp]
          have hrefusal : [p].filterMap (refusal? sys) = [e] := by simp [refusal?, hp]
          rw [hloaded, hrefusal, List.append_nil]

/-- When files are to be checked again, all their units are selected. -/
theorem selected_of_loaded? {sys : FileSystem} {p : Path} {f : SourceFile}
    (h : loaded? sys true p = some f) : ∀ u ∈ f.units, u.selected = true := by
  rw [loaded?] at h
  split at h
  · obtain rfl := Option.some.inj h
    intro u hu
    obtain ⟨v, -, rfl⟩ := List.mem_map.mp hu
    rfl
  · exact absurd h (by simp)

theorem exists_loaded?_of_mem_load {sys : FileSystem} {recheck : Bool} {paths : List Path}
    {f : SourceFile} (hf : f ∈ (load sys recheck paths).1.files) :
    ∃ p ∈ paths, loaded? sys recheck p = some f := by
  rw [load_eq] at hf
  exact List.mem_filterMap.mp (mem_of_mem_ofFiles hf)

/-- A path that cannot be loaded, wherever it stands, changes the list of errors and nothing
else. -/
theorem load_of_error {sys : FileSystem} {p : Path} {e : CorpusError}
    (h : SourceFile.load sys p = .error e) (recheck : Bool) (before after : List Path) :
    load sys recheck (before ++ p :: after) =
      ((load sys recheck (before ++ after)).1,
        (load sys recheck before).2 ++ e :: (load sys recheck after).2) := by
  have hloaded : loaded? sys recheck p = none := by rw [loaded?, h]
  have hrefusal : refusal? sys p = some e := by rw [refusal?, h]
  rw [load_eq, load_eq, load_eq, load_eq, List.filterMap_append, List.filterMap_append,
    List.filterMap_append, List.filterMap_cons_none hloaded, List.filterMap_cons_some hrefusal]

/-- A test that passes. -/
def passingText : Text := text "test \"a\" \x7b\n\x7d\n"

/-- Its file, in a directory. -/
def passingData : FileData := ⟨⟨1, 0o644, 0, 0, 0, 0, 0⟩, Utf8.encode passingText⟩

/-- A file system with that file only. -/
def passingSystem : FileSystem := .withTop (.file (text "a.zig") passingData .nil)

theorem readText_passingSystem : passingSystem.readText ⟨text "a.zig"⟩ = .ok passingText := by
  have hcut : Text.cutAt '/' (text "a.zig") = [text "a.zig"] := by decide
  have hlocate : passingSystem.locate true ⟨text "a.zig"⟩ =
      .ok (.taken [text "a.zig"] (.file passingData)) := by
    rw [passingSystem, FileSystem.locate_withTop (by decide), hcut,
      FileSystem.follow_of_file (by decide) rfl]
    rfl
  have hentry : passingSystem.entry ⟨text "a.zig"⟩ = .ok (.file passingData) := by
    rw [FileSystem.entry, hlocate]
    rfl
  rw [FileSystem.readText, FileSystem.readBytes, hentry]
  decide +kernel

/-- Its file in memory, with the test selected or not. -/
def passingFile (selected : Bool) : SourceFile where
  path := ⟨text "a.zig"⟩
  lines :=
    [text "test \"a\" \x7b\n",
      text "    if (builtin.zig_backend == .stage2_riscv64) return error.SkipZigTest;" ++
        text " // inserted by unskip\n",
      text "\n", text "\x7d\n"]
  units := [⟨0, 1, text "a", true, selected, none⟩]

/-- **A corpus is an ordered map, and loading a file does not depend on the others.**  Files that
are added make an ordered map by path.  Those that can be loaded are added in the order of the
paths asked for, all units being selected if they are to be checked again; for each of the others
there is one error, and nothing more. -/
theorem map_of_added_files :
    (∀ fs : List SourceFile, MapOf fs (ofFiles fs)) ∧
    ∀ (sys : FileSystem) (recheck : Bool) (paths : List Path),
      load sys recheck paths =
        (ofFiles (paths.filterMap (loaded? sys recheck)), paths.filterMap (refusal? sys)) ∧
      (load sys recheck paths).1.Reachable ∧
      (∀ f ∈ (load sys recheck paths).1.files,
        (∃ p ∈ paths, loaded? sys recheck p = some f) ∧
        (recheck = true → ∀ u ∈ f.units, u.selected = true)) ∧
      ∀ before p after e, paths = before ++ p :: after → SourceFile.load sys p = .error e →
        load sys recheck paths =
          ((load sys recheck (before ++ after)).1,
            (load sys recheck before).2 ++ e :: (load sys recheck after).2) := by
  refine ⟨mapOf_ofFiles, fun sys recheck paths =>
    ⟨load_eq sys recheck paths, reachable_load sys recheck paths, fun f hf => ?_, ?_⟩⟩
  · obtain ⟨p, hp, hloaded⟩ := exists_loaded?_of_mem_load hf
    refine ⟨⟨p, hp, hloaded⟩, ?_⟩
    rintro rfl
    exact selected_of_loaded? hloaded
  · rintro before p after e rfl h
    exact load_of_error h recheck before after

/-- The file of a path that was added in two spellings is the second one.  A path that leads
nowhere does not keep the file before it from being loaded, and the test of this file, which
passes, is selected when it is to be checked again and is not otherwise. -/
theorem map_of_added_files_sample :
    (ofFiles [⟨⟨text "lib/a.zig"⟩, [], []⟩, ⟨⟨text "lib//a.zig"⟩, [text "// new"], []⟩,
        ⟨⟨text "lib/c.zig"⟩, [], []⟩]).file? ⟨text "lib/./a.zig"⟩ =
      some ⟨⟨text "lib//a.zig"⟩, [text "// new"], []⟩ ∧
    ∀ recheck : Bool, load passingSystem recheck [⟨text "a.zig"⟩, ⟨[]⟩] =
      (⟨[passingFile recheck], [(⟨text "a.zig"⟩, 0)]⟩, [.read ⟨[]⟩ .notFound]) := by
  obtain ⟨hmap, hload⟩ := map_of_added_files
  refine ⟨((hmap _).file _).trans (by decide), fun recheck => ?_⟩
  have htext : SourceFile.ofText ⟨text "a.zig"⟩ passingText = .ok (passingFile false) := by
    decide +kernel
  have hfile : SourceFile.load passingSystem ⟨text "a.zig"⟩ = .ok (passingFile false) := by
    rw [SourceFile.load, readText_passingSystem]
    exact htext
  have hloaded : loaded? passingSystem recheck ⟨text "a.zig"⟩ = some (passingFile recheck) := by
    rw [loaded?, hfile]
    cases recheck <;> rfl
  have hnone : SourceFile.load passingSystem ⟨[]⟩ = .error (.read ⟨[]⟩ .notFound) := rfl
  refine ((hload passingSystem recheck _).2.2.2 [⟨text "a.zig"⟩] ⟨[]⟩ [] _ rfl hnone).trans ?_
  rw [List.append_nil, (hload passingSystem recheck [⟨text "a.zig"⟩]).1]
  simp only [List.filterMap_cons, List.filterMap_nil, hloaded, refusal?, hfile]
  rfl

end Corpus

end SkipAudit
