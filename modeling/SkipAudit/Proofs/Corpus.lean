/-
# Corpora that can come about

A corpus is filled by adding files, and then the selection and the failures of its units are
changed, in any way and any number of times.  Whatever is done, three things stay true.

    the index finds the first file with a path, in whatever spelling
    no two files have one path
    the units of a file stand in the order of their declarations

The first two (`Indexed`), which need nothing of the files that are added, make look-up by path
a look-up among the files; with the third, a change of the one unit that a key names is a change
of every unit with that key, that is, a map over the corpus (`setFailure_eq`).  Maps over a corpus
compose, and nothing else is needed to follow a run.
-/
import Mathlib.Data.List.Nodup
import SkipAudit.Run.Tally
import SkipAudit.Proofs.Units

namespace SkipAudit

/-! ## Spellings -/

theorem Path.same_iff {p q : Path} : p.same q = true ↔ p.components = q.components :=
  beq_iff_eq

theorem Path.same_comm (p q : Path) : p.same q = q.same p := by
  rw [Bool.eq_iff_iff, same_iff, same_iff, eq_comm]

/-- What two keys of one test have in common. -/
def UnitKey.place (k : UnitKey) : List Component × Nat := (k.path.components, k.declIndex)

theorem UnitKey.same_iff {a b : UnitKey} : a.same b = true ↔ a.place = b.place := by
  rw [same, Bool.and_eq_true, Path.same_iff, beq_iff_eq, place, place, Prod.mk.injEq]

theorem UnitKey.same_refl (k : UnitKey) : k.same k = true := same_iff.mpr rfl

theorem UnitKey.same_comm (a b : UnitKey) : a.same b = b.same a := by
  rw [Bool.eq_iff_iff, same_iff, same_iff, eq_comm]

theorem UnitKey.same_of_both {a b k : UnitKey} (ha : a.same k = true) (hb : b.same k = true) :
    a.same b = true := same_iff.mpr ((same_iff.mp ha).trans (same_iff.mp hb).symm)

theorem UnitKey.same_congr {a b : UnitKey} (h : a.same b = true) (k : UnitKey) :
    a.same k = b.same k := by
  rw [Bool.eq_iff_iff, same_iff, same_iff, same_iff.mp h]

/-! ## Changing units -/

/-- The file with its units changed. -/
def SourceFile.mapUnits (g : TestUnit → TestUnit) (f : SourceFile) : SourceFile :=
  { f with units := f.units.map g }

/-- Units standing in the order of their declarations, the first one with an index is the
only one. -/
theorem SourceFile.modifyUnit_eq {f : SourceFile}
    (h : f.units.Pairwise fun u v => u.declIndex < v.declIndex) (i : Nat)
    (g : TestUnit → TestUnit) :
    f.modifyUnit i g = f.mapUnits fun u => if u.declIndex = i then g u else u := by
  rw [modifyUnit, mapUnits]
  congr 1
  revert h
  generalize f.units = us
  intro h
  induction us with
  | nil => rfl
  | cons u us ih =>
      rw [modifyUnit.go, List.map_cons]
      split
      · rename_i hu
        have hrest : ∀ v ∈ us, (if v.declIndex = i then g v else v) = v := fun v hv =>
          if_neg fun hi => absurd (List.rel_of_pairwise_cons h hv) (by omega)
        rw [List.map_congr_left hrest, List.map_id']
      · rw [ih h.of_cons]

theorem SourceFile.hasUnit_mapUnits {g : TestUnit → TestUnit}
    (hg : ∀ u, (g u).declIndex = u.declIndex) (f : SourceFile) (i : Nat) :
    (f.mapUnits g).hasUnit i = f.hasUnit i := by
  rw [hasUnit, hasUnit, mapUnits, List.any_map]
  exact congrArg f.units.any (funext fun u => by rw [Function.comp_apply, hg])

theorem SourceFile.mapUnits_eq_self {f : SourceFile} {g : TestUnit → TestUnit}
    (h : ∀ u ∈ f.units, g u = u) : f.mapUnits g = f := by
  rw [mapUnits, List.map_congr_left h, List.map_id']

namespace Corpus

/-- The corpus with its units changed, each in view of its file. -/
def mapUnits (g : SourceFile → TestUnit → TestUnit) (c : Corpus) : Corpus :=
  { c with files := c.files.map fun f => f.mapUnits (g f) }

/-- What a corpus is when failures and selection are not looked at. -/
def bare (c : Corpus) : Corpus :=
  c.mapUnits fun _ u => { u with selected := false, failure := none }

/-- The corpora that can come about. -/
inductive Reachable : Corpus → Prop
  | empty : Reachable .empty
  /-- A file is added, made of any text that has units. -/
  | push {c : Corpus} {p : Path} {t : Text} {f : SourceFile} :
      Reachable c → SourceFile.ofText p t = .ok f → Reachable (c.push f)
  /-- Units are selected or not, and have failures or none, in any other way. -/
  | change {c c' : Corpus} : Reachable c → c'.bare = c.bare → Reachable c'

/-- The paths of the files, spelling aside. -/
def places (c : Corpus) : List (List Component) := c.files.map (·.path.components)

/-- The indices of the declarations of each file. -/
def declarations (c : Corpus) : List (List Nat) := c.files.map fun f => f.units.map (·.declIndex)

/-- The index says where the files stand. -/
structure Indexed (c : Corpus) : Prop where
  /-- It finds the first file with a path. -/
  position : ∀ p, c.position? p = c.places.idxOf? p.components
  /-- No two files have one path. -/
  nodup : c.places.Nodup

/-- What stays true of a corpus. -/
structure WellFormed (c : Corpus) : Prop extends Indexed c where
  /-- Units stand in the order of their declarations. -/
  ascending : ∀ is ∈ c.declarations, is.Pairwise (· < ·)

/-! ## Maps over a corpus -/

theorem mapUnits_congr {c : Corpus} {g h : SourceFile → TestUnit → TestUnit}
    (hgh : ∀ f ∈ c.files, ∀ u ∈ f.units, g f u = h f u) : c.mapUnits g = c.mapUnits h := by
  rw [mapUnits, mapUnits]
  congr 1
  refine List.map_congr_left fun f hf => ?_
  rw [SourceFile.mapUnits, SourceFile.mapUnits, List.map_congr_left (hgh f hf)]

theorem mapUnits_eq_self {c : Corpus} {g : SourceFile → TestUnit → TestUnit}
    (hg : ∀ f ∈ c.files, ∀ u ∈ f.units, g f u = u) : c.mapUnits g = c := by
  rw [mapUnits, List.map_congr_left fun f hf => SourceFile.mapUnits_eq_self (hg f hf),
    List.map_id']

/-- One map after another, when the second one looks at keys only. -/
theorem mapUnits_mapUnits {h : SourceFile → TestUnit → TestUnit}
    (hh : ∀ f u, (h f u).declIndex = u.declIndex) (g : UnitKey → TestUnit → TestUnit)
    (c : Corpus) :
    (c.mapUnits h).mapUnits (fun f u => g (f.keyOf u) u) =
      c.mapUnits fun f u => g (f.keyOf u) (h f u) := by
  rw [mapUnits, mapUnits, mapUnits, List.map_map]
  congr 1
  refine List.map_congr_left fun f _ => ?_
  rw [Function.comp_apply, SourceFile.mapUnits, SourceFile.mapUnits, SourceFile.mapUnits,
    List.map_map]
  congr 1
  refine List.map_congr_left fun u _ => ?_
  rw [Function.comp_apply, SourceFile.keyOf, hh f u]
  rfl

theorem file?_mapUnits (g : SourceFile → TestUnit → TestUnit) (c : Corpus) (p : Path) :
    (c.mapUnits g).file? p = (c.file? p).map fun f => f.mapUnits (g f) := by
  rw [file?, file?, Option.map_bind]
  exact congrArg _ (funext fun i => List.getElem?_map)

/-! ## What stays true -/

theorem places_mapUnits (g : SourceFile → TestUnit → TestUnit) (c : Corpus) :
    (c.mapUnits g).places = c.places := by
  rw [places, places, mapUnits, List.map_map]
  rfl

theorem declarations_mapUnits {g : SourceFile → TestUnit → TestUnit}
    (hg : ∀ f u, (g f u).declIndex = u.declIndex) (c : Corpus) :
    (c.mapUnits g).declarations = c.declarations := by
  rw [declarations, declarations, mapUnits, List.map_map]
  refine List.map_congr_left fun f _ => ?_
  rw [Function.comp_apply, SourceFile.mapUnits, List.map_map]
  exact List.map_congr_left fun u _ => hg f u

theorem wellFormed_empty : WellFormed .empty where
  position _ := rfl
  nodup := List.nodup_nil
  ascending _ h := absurd h List.not_mem_nil

/-- A change that leaves the declarations alone keeps a corpus well-formed. -/
theorem WellFormed.of_eq {c c' : Corpus} (h : c.WellFormed) (hindex : c'.index = c.index)
    (hplaces : c'.places = c.places) (hdecl : c'.declarations = c.declarations) :
    c'.WellFormed where
  position p := by rw [hplaces, ← h.position p, position?, position?, hindex]
  nodup := hplaces ▸ h.nodup
  ascending := hdecl ▸ h.ascending

theorem WellFormed.mapUnits {c : Corpus} (h : c.WellFormed)
    {g : SourceFile → TestUnit → TestUnit} (hg : ∀ f u, (g f u).declIndex = u.declIndex) :
    (c.mapUnits g).WellFormed :=
  h.of_eq rfl (places_mapUnits g c) (declarations_mapUnits hg c)

theorem WellFormed.of_bare_eq {c c' : Corpus} (h : c.WellFormed) (hc : c'.bare = c.bare) :
    c'.WellFormed := by
  refine h.of_eq ?_ ?_ ?_
  · have hindex := congrArg Corpus.index hc
    exact hindex
  · have hplaces := congrArg places hc
    rwa [bare, bare, places_mapUnits, places_mapUnits] at hplaces
  · have hdecl := congrArg declarations hc
    rwa [bare, bare, declarations_mapUnits (by exact fun _ _ => rfl),
      declarations_mapUnits (by exact fun _ _ => rfl)] at hdecl

theorem ascending_ofText {p : Path} {t : Text} {f : SourceFile}
    (h : SourceFile.ofText p t = .ok f) : (f.units.map (·.declIndex)).Pairwise (· < ·) := by
  rw [SourceFile.ofText] at h
  split at h
  · rename_i us hus
    obtain rfl := Except.ok.inj h
    exact List.pairwise_map.mpr (unitsOf_ascending hus)
  · exact absurd h (by simp)

theorem Indexed.getElem_places {c : Corpus} (h : c.Indexed) {p : Path} {i : Nat}
    (hi : c.position? p = some i) : ∃ hlt : i < c.places.length, c.places[i] = p.components := by
  have hpos := h.position p
  rw [hi, eq_comm, List.idxOf?_eq_some_iff] at hpos
  obtain ⟨hlt, hat, -⟩ := hpos
  exact ⟨hlt, hat⟩

theorem Indexed.position?_eq_none_iff {c : Corpus} (h : c.Indexed) {p : Path} :
    c.position? p = none ↔ p.components ∉ c.places := by
  rw [h.position, List.idxOf?_eq_none_iff]

/-- A file under a new path comes last; one under an old path stands where the old one stood,
under a path that is the same but for its spelling. -/
theorem Indexed.places_push {c : Corpus} (h : c.Indexed) (f : SourceFile) :
    (c.push f).places =
      if f.path.components ∈ c.places then c.places else c.places ++ [f.path.components] := by
  rw [Corpus.push]
  split
  · rename_i i hi
    obtain ⟨hlt, hat⟩ := h.getElem_places hi
    rw [if_pos (hat ▸ List.getElem_mem hlt), places, List.map_set, ← hat]
    exact List.set_getElem_self _
  · rename_i hnone
    rw [if_neg (h.position?_eq_none_iff.mp hnone), places, List.map_append]
    rfl

theorem Indexed.push {c : Corpus} (h : c.Indexed) (f : SourceFile) : (c.push f).Indexed := by
  have hplaces := h.places_push f
  constructor
  · intro p
    rw [hplaces, Corpus.push]
    split
    · rename_i i hi
      obtain ⟨hlt, hat⟩ := h.getElem_places hi
      rw [if_pos (hat ▸ List.getElem_mem hlt)]
      exact h.position p
    · rename_i hnone
      have hp := h.position p
      rw [position?] at hp ⊢
      rw [if_neg (h.position?_eq_none_iff.mp hnone), List.idxOf?, List.findIdx?_append,
        ← List.idxOf?, ← hp, List.find?_append, Option.map_or, List.idxOf?_singleton,
        List.find?_singleton, Path.same, places, List.length_map]
      congr 1
      split
      · rw [Option.map_some, Option.map_some, Nat.zero_add]
      · rfl
  · rw [hplaces]
    split
    · exact h.nodup
    · rename_i hnew
      exact List.nodup_append.mpr ⟨h.nodup, List.nodup_singleton _, fun a ha b hb hab =>
        hnew (List.mem_singleton.mp hb ▸ hab ▸ ha)⟩

theorem WellFormed.push {c : Corpus} (h : c.WellFormed) {f : SourceFile}
    (hf : (f.units.map (·.declIndex)).Pairwise (· < ·)) : (c.push f).WellFormed := by
  refine ⟨h.toIndexed.push f, fun is his => ?_⟩
  rw [declarations, Corpus.push] at his
  split at his
  · rw [List.map_set] at his
    rcases List.mem_or_eq_of_mem_set his with his | rfl
    · exact h.ascending is his
    · exact hf
  · rw [List.map_append, List.mem_append] at his
    rcases his with his | his
    · exact h.ascending is his
    · exact List.mem_singleton.mp his ▸ hf

theorem Reachable.wellFormed {c : Corpus} (h : c.Reachable) : c.WellFormed := by
  induction h with
  | empty => exact wellFormed_empty
  | push _ hf ih => exact ih.push (ascending_ofText hf)
  | change _ hc ih => exact ih.of_bare_eq hc

/-- Selecting all units of a file that is added is a change of the corpus. -/
theorem bare_push_selectAll (c : Corpus) (f : SourceFile) :
    (c.push f.selectAll).bare = (c.push f).bare := by
  have hf : ∀ g : TestUnit → TestUnit, (∀ u, g { u with selected := true } = g u) →
      f.selectAll.mapUnits g = f.mapUnits g := fun g hg => by
    rw [SourceFile.selectAll, SourceFile.mapUnits, SourceFile.mapUnits, List.map_map]
    congr 1
    exact List.map_congr_left fun u _ => hg u
  have hpath : f.selectAll.path = f.path := rfl
  rw [push, push, hpath]
  cases c.position? f.path with
  | none =>
      rw [bare, bare, mapUnits, mapUnits]
      dsimp only
      rw [List.map_append, List.map_append, List.map_singleton, List.map_singleton,
        hf _ fun _ => rfl]
  | some i =>
      rw [bare, bare, mapUnits, mapUnits]
      dsimp only
      rw [List.map_set, List.map_set, hf _ fun _ => rfl]

/-- The corpora that are read from a file system can come about. -/
theorem reachable_load (fs : FileSystem) (recheck : Bool) (paths : List Path) :
    (load fs recheck paths).1.Reachable := by
  have hpush : ∀ {c : Corpus} {p : Path} {f : SourceFile}, c.Reachable →
      SourceFile.load fs p = .ok f → (c.push (if recheck then f.selectAll else f)).Reachable := by
    intro c p f hc hf
    have hplain : (c.push f).Reachable := by
      rw [SourceFile.load] at hf
      split at hf
      · exact hc.push hf
      · exact absurd hf (by simp)
    split
    · exact hplain.change (bare_push_selectAll c f)
    · exact hplain
  rw [load]
  refine List.foldlRecOn (motive := fun acc : Corpus × List CorpusError => acc.1.Reachable)
    paths _ .empty ?_
  rintro ⟨c, errors⟩ hc p -
  dsimp only
  split
  · rename_i f hf
    exact hpush hc hf
  · exact hc

/-- The corpus with the file that a text makes. -/
def addText (c : Corpus) (p : Path) (t : Text) : Corpus :=
  match SourceFile.ofText p t with
  | .ok f => c.push f
  | .error _ => c

theorem Reachable.addText {c : Corpus} (hc : c.Reachable) (p : Path) (t : Text) :
    (c.addText p t).Reachable := by
  rw [Corpus.addText]
  split
  · rename_i f hf
    exact hc.push hf
  · exact hc

/-- A test that is outstanding and one that passes. -/
def sampleText : Text :=
  text "test \"one\" \x7b\n" ++ Line.plainSkip Line.lf ++
    text "\x7d\ntest \"two\" \x7b\n\x7d\n"

/-- Two files of such tests. -/
def sample : Corpus :=
  (Corpus.empty.addText ⟨text "lib/a.zig"⟩ sampleText).addText ⟨text "lib/c.zig"⟩ sampleText

theorem reachable_sample : sample.Reachable := by
  rw [sample]
  exact (Reachable.empty.addText _ _).addText _ _

/-! ## Looking up -/

theorem Indexed.file?_eq {c : Corpus} (h : c.Indexed) (p : Path) :
    c.file? p = c.files.find? (·.path.same p) := by
  rw [file?, h.position p, places, List.idxOf?, List.findIdx?_map,
    List.find?_eq_bind_findIdx?_getElem?]
  rfl

namespace WellFormed

variable {c : Corpus} (h : c.WellFormed)

include h

theorem eq_of_same_path {f g : SourceFile} (hf : f ∈ c.files) (hg : g ∈ c.files)
    (hfg : f.path.same g.path = true) : f = g :=
  List.inj_on_of_nodup_map h.nodup hf hg (Path.same_iff.mp hfg)

theorem file?_of_mem {f : SourceFile} {p : Path} (hf : f ∈ c.files)
    (hp : f.path.same p = true) : c.file? p = some f := by
  rw [h.file?_eq]
  cases hfind : c.files.find? (·.path.same p) with
  | none => exact absurd hp (List.find?_eq_none.mp hfind f hf)
  | some g =>
      have hgp := List.find?_some hfind
      have hpaths : g.path.same f.path = true :=
        Path.same_iff.mpr ((Path.same_iff.mp hgp).trans (Path.same_iff.mp hp).symm)
      rw [h.eq_of_same_path (List.mem_of_find?_eq_some hfind) hf hpaths]

theorem pairwise_declIndex {f : SourceFile} (hf : f ∈ c.files) :
    f.units.Pairwise fun u v => u.declIndex < v.declIndex :=
  List.pairwise_map.mp (h.ascending _ (List.mem_map_of_mem hf))

/-- A key is the key of one unit at most. -/
theorem eq_of_same_key {f g : SourceFile} (hf : f ∈ c.files) (hg : g ∈ c.files)
    {u v : TestUnit} (hu : u ∈ f.units) (hv : v ∈ g.units)
    (hkey : (f.keyOf u).same (g.keyOf v) = true) : f = g ∧ u = v := by
  obtain ⟨hpath, hdecl⟩ := Prod.mk.inj (UnitKey.same_iff.mp hkey)
  obtain rfl := h.eq_of_same_path hf hg (Path.same_iff.mpr hpath)
  have hnodup : (f.units.map (·.declIndex)).Nodup :=
    List.pairwise_map.mpr ((h.pairwise_declIndex hf).imp Nat.ne_of_lt)
  exact ⟨rfl, List.inj_on_of_nodup_map hnodup hu hv hdecl⟩

end WellFormed

/-! ## Changing the unit with a key -/

theorem WellFormed.modifyFile_eq {c : Corpus} (h : c.WellFormed) (p : Path)
    (g : SourceFile → SourceFile) :
    c.modifyFile p g =
      { c with files := c.files.map fun f => if f.path.same p then g f else f } := by
  rw [modifyFile]
  split
  · rename_i i hi
    obtain ⟨hlt, hat⟩ := h.toIndexed.getElem_places hi
    have hone : ∀ j (hj : j < c.files.length), c.files[j].path.same p = true ↔ i = j := by
      intro j hj
      have hj' : j < c.places.length := (List.length_map _).symm ▸ hj
      have hplace : c.places[j] = c.files[j].path.components := List.getElem_map _
      rw [Path.same_iff, ← hplace, ← hat, h.nodup.getElem_inj_iff, eq_comm]
    congr 1
    refine List.ext_getElem (by simp) fun j h₁ h₂ => ?_
    rw [List.getElem_modify, List.getElem_map]
    exact (if_congr (hone j (by simpa using h₂)) rfl rfl).symm
  · rename_i hnone
    have hno := h.toIndexed.position?_eq_none_iff.mp hnone
    have hother : ∀ f ∈ c.files, (if f.path.same p then g f else f) = f := fun f hf =>
      if_neg fun hp => hno (Path.same_iff.mp hp ▸ List.mem_map_of_mem hf)
    rw [List.map_congr_left hother, List.map_id']

/-- Setting the failure of the unit with a key is a map over all units. -/
theorem WellFormed.setFailure_eq {c : Corpus} (h : c.WellFormed) (k : UnitKey)
    (f? : Option Failure) :
    Tally.setFailure c k f? = c.mapUnits fun f u =>
      if (f.keyOf u).same k then { u with failure := f? } else u := by
  rw [Tally.setFailure, h.modifyFile_eq, Corpus.mapUnits]
  congr 1
  refine List.map_congr_left fun f hf => ?_
  split
  · rename_i hp
    rw [SourceFile.modifyUnit_eq (h.pairwise_declIndex hf)]
    congr 1
    funext u
    rw [UnitKey.same, SourceFile.keyOf, hp, Bool.true_and]
    exact if_congr beq_iff_eq.symm rfl rfl
  · rename_i hp
    exact (SourceFile.mapUnits_eq_self fun u _ =>
      if_neg fun hk => hp ((Bool.and_eq_true _ _).mp hk).1).symm

/-! ## The keys of the selected units -/

theorem mem_selectedKeys {c : Corpus} {k : UnitKey} :
    k ∈ Tally.selectedKeys c ↔
      ∃ f ∈ c.files, ∃ u ∈ f.units, u.selected = true ∧ f.keyOf u = k := by
  simp only [Tally.selectedKeys, List.mem_flatMap, List.mem_map, List.mem_filter, and_assoc]

theorem length_selectedKeys (c : Corpus) :
    (Tally.selectedKeys c).length = c.selectedCount := by
  rw [Tally.selectedKeys, selectedCount]
  induction c.files with
  | nil => rfl
  | cons f fs ih =>
      rw [List.flatMap_cons, List.length_append, ih, List.length_map,
        ← List.countP_eq_length_filter]
      rfl

/-- No test is selected twice. -/
theorem WellFormed.pairwise_selectedKeys {c : Corpus} (h : c.WellFormed) :
    (Tally.selectedKeys c).Pairwise fun a b => a.same b = false := by
  rw [Tally.selectedKeys, List.pairwise_flatMap]
  refine ⟨fun f hf => List.pairwise_map.mpr (((h.pairwise_declIndex hf).filter _).imp ?_), ?_⟩
  · intro u v huv
    rw [← Bool.not_eq_true, UnitKey.same_iff]
    exact fun hk => absurd (congrArg Prod.snd hk) (Nat.ne_of_lt huv)
  · refine (List.pairwise_map.mp h.nodup).imp ?_
    intro f g hfg a ha b hb
    obtain ⟨u, -, rfl⟩ := List.mem_map.mp ha
    obtain ⟨v, -, rfl⟩ := List.mem_map.mp hb
    rw [← Bool.not_eq_true, UnitKey.same_iff]
    exact fun hk => hfg (congrArg Prod.fst hk)

end Corpus

end SkipAudit
