/-
# Skip lines that stay

A skip line that a file had before a run marks a test that does not pass.  It should go when
this test has been run and has passed, and for no other reason.  Here it is told when it does go,
for any text, with a re-check or without, and whatever results arrive.

    corpus_reconcile          a run changes the failures of units, and nothing else
    isMarked_blockAt?         what becomes of the one skip line of a marked block
    isMarked_settled_iff      both together

A skip line without a tag goes when its test has passed, and only then.  One with a tag is taken
for a line that the run itself has put in.  Without a re-check its test is not run, and the line
goes.  With one it stays when the test fails, but not always as a skip line: with the tag taken
off it may begin with a declaration.  `tagged_skip_lines_go` has a file for each.
-/
import SkipAudit.Proofs.Places
import SkipAudit.Proofs.Tally
import SkipAudit.Proofs.Update

namespace SkipAudit

open Tally

/-! ## The units after a run -/

/-- The first result for a test is that it passed. -/
def PassedIn (rs : List JobResult) (k : UnitKey) : Prop :=
  (rs.find? (·.key.same k)).map (·.outcome) = some .passed

instance (rs : List JobResult) (k : UnitKey) : Decidable (PassedIn rs k) :=
  inferInstanceAs (Decidable (_ = _))

theorem Outcome.failure?_eq_none_iff {o : Outcome} : o.failure? = none ↔ o = .passed := by
  cases o <;> simp [failure?]

theorem verdict_eq_none_iff {rs : List JobResult} {k : UnitKey} :
    verdict rs k = none ↔ PassedIn rs k := by
  rw [verdict, answer?, PassedIn]
  cases rs.find? (·.key.same k) with
  | none => simp
  | some r => simp [Outcome.failure?_eq_none_iff]

/-- A unit as it stands in the end, all units being selected for a re-check. -/
def SourceFile.endedUnit (recheck : Bool) (rs : List JobResult) (f : SourceFile) (u : TestUnit) :
    TestUnit :=
  judged rs f { u with selected := recheck || u.selected }

section EndedUnit

variable (recheck : Bool) (rs : List JobResult) (f : SourceFile) (u : TestUnit)

theorem declIndex_endedUnit : (f.endedUnit recheck rs u).declIndex = u.declIndex := by
  rw [SourceFile.endedUnit, judged]
  split <;> rfl

theorem selected_endedUnit :
    (f.endedUnit recheck rs u).selected = (recheck || u.selected) := by
  rw [SourceFile.endedUnit, judged]
  split <;> rfl

theorem keyOf_endedUnit : f.keyOf (f.endedUnit recheck rs u) = f.keyOf u := by
  rw [SourceFile.keyOf, SourceFile.keyOf, declIndex_endedUnit]

/-- A unit is cleared in the end when it was not run, or has passed. -/
theorem isCleared_endedUnit (hu : u.failure = none) :
    (f.endedUnit recheck rs u).isCleared = true ↔
      ((recheck || u.selected) = true → PassedIn rs (f.keyOf u)) := by
  rw [SourceFile.endedUnit, judged, TestUnit.isCleared, Option.isNone_iff_eq_none]
  split
  · rename_i hs
    exact verdict_eq_none_iff.trans ⟨fun h _ => h, fun h => h hs⟩
  · rename_i hs
    exact ⟨fun _ h => absurd h hs, fun _ => hu⟩

end EndedUnit

theorem corpus_reconcile {c : Corpus} (hc : c.WellFormed) (rs : List JobResult) :
    (reconcile c rs).corpus = c.mapUnits (judged rs) := by
  rw [reconcile]
  dsimp only
  rw [fst_recordAll, ← after, (follows_after hc rs).finish hc]

/-! ## The block after settling -/

section Block

variable {o : Outline} (h : o.WellFormed) {k : Nat} {b : TestBlock} (hb : o.blocks[k]? = some b)
  {above below : List Line} {skip : Line} (hm : b.MarkedBy above skip below)
  (units : List TestUnit)

include h hb hm

/-- The skip line of a block is there afterwards when the unit is not cleared, unless it has
become a declaration. -/
theorem isMarked_blockAt? :
    ∃ b', blockAt? (settledIndex units o.lines (o.above k).length) (settle units o.lines) =
        some b' ∧ b'.head = b.head ∧
      b'.isMarked = (!clearedAt units (o.above k).length && !skip.withoutTag.isDeclaration) := by
  have hwf := h.blocks b (List.mem_of_getElem? hb)
  have hwhole := blockAt?_settle_of_wellFormed h hb units
  obtain ⟨rest, -, hearly⟩ := blockAt?_settle h hb units
  cases hc : clearedAt units (o.above k).length with
  | true =>
      rw [hc] at hwhole
      exact ⟨_, hwhole hwf.settle_cleared, rfl,
        TestBlock.isMarked_eq_false_iff.mpr b.isBare_settle_cleared⟩
  | false =>
      have hlines := hwf.body
      rw [hm.body] at hlines
      obtain ⟨habove, hrest⟩ := List.forall_mem_append.mp hlines
      have hbelow := (List.forall_mem_cons.mp hrest).2
      cases hd : skip.withoutTag.isDeclaration with
      | true =>
          -- The block ends at its old skip line.
          rw [hc, hm.settle_kept, List.append_assoc, List.cons_append,
            takeWhile_not_isDeclaration habove (atCut_cons hd _)] at hearly
          exact ⟨_, hearly, rfl, TestBlock.isMarked_eq_false_iff.mpr hm.above⟩
      | false =>
          rw [hc, hm.settle_kept] at hwhole
          refine ⟨_, hwhole ⟨hwf.head, List.forall_mem_append.mpr ⟨habove,
            List.forall_mem_cons.mpr ⟨hd, hbelow⟩⟩⟩, rfl, ?_⟩
          simp [TestBlock.isMarked, Line.isSkip_withoutTag hm.isSkip]

end Block

/-! ## A whole run -/

/-- A file that a text makes, with all its units selected or not, at the end of a run. -/
theorem Outline.mem_files_reconcile {c : Corpus} (hc : c.WellFormed) {o : Outline} {path : Path}
    {recheck : Bool}
    (hmem : (if recheck then (o.file path).selectAll else o.file path) ∈ c.files)
    (rs : List JobResult) :
    (o.file path).mapUnits ((o.file path).endedUnit recheck rs) ∈
      (reconcile c rs).corpus.files := by
  rw [corpus_reconcile hc, Corpus.mapUnits]
  refine List.mem_map.mpr ⟨_, hmem, ?_⟩
  cases recheck with
  | true =>
      rw [if_pos rfl, SourceFile.mapUnits, SourceFile.mapUnits, SourceFile.selectAll, List.map_map]
      rfl
  | false => rfl

section Run

variable {o : Outline} (h : o.WellFormed) {k : Nat} {b : TestBlock} (hb : o.blocks[k]? = some b)
  {skip : Line} (hskip : b.body.find? Line.isSkip = some skip) (path : Path) (recheck : Bool)
  (rs : List JobResult)

include h hb hskip

theorem isMarked_endedUnit {u : TestUnit} (hu : b.mark.unitAt (o.mark.above k).length = u) :
    let units := (o.file path).units.map ((o.file path).endedUnit recheck rs)
    u.selected = (!skip.isProvisional) ∧
      ∃ b', blockAt? (settledIndex units o.mark.lines u.declIndex) (settle units o.mark.lines) =
          some b' ∧ b'.head = b.head ∧
        (b'.isMarked = true ↔ (recheck || u.selected) = true ∧
          ¬ PassedIn rs ((o.file path).keyOf u) ∧ skip.withoutTag.isDeclaration = false) := by
  intro units
  obtain ⟨hhead, above, below, hm⟩ := TestBlock.markedBy_mark_of_find hskip
  have hmark : o.mark.blocks[k]? = some b.mark := by
    rw [Outline.mark, List.getElem?_map, hb, Option.map_some]
  have hcleared := Outline.clearedAt_map_file hmark path
    (declIndex_endedUnit recheck rs (o.file path))
  obtain ⟨b', hplace, hhead', hmarked⟩ := isMarked_blockAt? h.mark hmark hm units
  rw [hu] at hcleared
  rw [hcleared] at hmarked
  have hnone : u.failure = none := by rw [← hu, TestBlock.unitAt]
  have hdecl : u.declIndex = (o.mark.above k).length := by rw [← hu, TestBlock.unitAt]
  constructor
  · rw [← hu, TestBlock.unitAt, TestBlock.isProvisional, hm.find, Option.any_some]
  · refine ⟨b', by rw [hdecl, hplace], hhead'.trans hhead, ?_⟩
    rw [hmarked, Bool.and_eq_true, Bool.not_eq_true', Bool.not_eq_true', ← Bool.not_eq_true,
      isCleared_endedUnit _ _ _ _ hnone, Classical.not_imp, and_assoc]

end Run

/-- **Which skip lines stay.**  Whatever the text of a file is, whether all of its units are
selected or not, and whatever results arrive, a block whose first skip line bears no tag has a
skip line afterwards, unless its own test was selected and has passed.  In general the test is
selected when that line bears no tag or all units are selected; and then the block has a skip
line afterwards exactly when the test has not passed, unless taking the tags off has made a
declaration of the line. -/
theorem isMarked_settled_iff {c : Corpus} (hc : c.Reachable) {path : Path} {t : Text}
    {f : SourceFile} (hf : SourceFile.ofText path t = .ok f) {recheck : Bool}
    (hmem : (if recheck then f.selectAll else f) ∈ c.files) (rs : List JobResult) :
    ∃ g ∈ (reconcile c rs).corpus.files, g.path = path ∧ g.lines = f.lines ∧
      g.units.map (·.declIndex) = f.units.map (·.declIndex) ∧
      ∀ (k : Nat) (b : TestBlock) (skip : Line), (outline (splitLines t)).blocks[k]? = some b →
        b.body.find? Line.isSkip = some skip →
        ∃ u b', g.units[k]? = some u ∧
          blockAt? (settledIndex g.units g.lines u.declIndex) (splitLines g.settled) = some b' ∧
          b'.head = b.head ∧
          (skip.isProvisional = false →
            b'.isMarked = true ∨ u.selected = true ∧ PassedIn rs (g.keyOf u)) ∧
          u.selected = (recheck || !skip.isProvisional) ∧
          (b'.isMarked = true ↔ u.selected = true ∧ ¬ PassedIn rs (g.keyOf u) ∧
            skip.withoutTag.isDeclaration = false) := by
  have hwf := wellFormed_outline (splitLines t)
  have hs := isSplit_outline t
  rw [SourceFile.ofText_eq] at hf
  obtain rfl := Except.ok.inj hf
  generalize outline (splitLines t) = o at hwf hs hmem
  refine ⟨_, Outline.mem_files_reconcile hc.wellFormed hmem rs, rfl, rfl, ?_, ?_⟩
  · rw [SourceFile.mapUnits, List.map_map]
    exact List.map_congr_left fun u _ => declIndex_endedUnit recheck rs (o.file path) u
  intro k b skip hb hskip
  obtain ⟨u, hu⟩ : ∃ u, b.mark.unitAt (o.mark.above k).length = u := ⟨_, rfl⟩
  obtain ⟨hselected, b', hplace, hhead, hiff⟩ :=
    isMarked_endedUnit hwf hb hskip path recheck rs hu
  refine ⟨(o.file path).endedUnit recheck rs u, b', ?_, ?_, hhead, ?_, ?_, ?_⟩
  · rw [SourceFile.mapUnits, List.getElem?_map, Outline.getElem?_units_file, Outline.mark,
      List.getElem?_map, hb, ← hu]
    rfl
  · rw [declIndex_endedUnit]
    exact (congrArg (blockAt? _) (splitLines_flatten (hs.mark.settle _))).trans hplace
  · intro hplain
    have hrun : (recheck || u.selected) = true := by rw [hselected, hplain]; simp
    have hdecl : skip.withoutTag.isDeclaration = false := by
      rw [Line.withoutTag_of_untagged hplain]
      exact (hwf.blocks b (List.mem_of_getElem? hb)).body skip (List.mem_of_find?_eq_some hskip)
    rw [selected_endedUnit]
    by_cases hpassed : PassedIn rs ((o.file path).keyOf u)
    · exact Or.inr ⟨hrun, (keyOf_endedUnit recheck rs (o.file path) u).symm ▸ hpassed⟩
    · exact Or.inl (hiff.mpr ⟨hrun, hpassed, hdecl⟩)
  · rw [selected_endedUnit, hselected]
  · rw [hiff, selected_endedUnit, ← keyOf_endedUnit recheck rs (o.file path) u]
    rfl

/-- An outstanding test that times out keeps its skip line. -/
theorem isMarked_settled_iff_sample :
    let rs : List JobResult := [⟨⟨⟨text "lib//a.zig"⟩, 0⟩, text "one", .timedOut⟩]
    ∃ f g u b', SourceFile.ofText ⟨text "lib/a.zig"⟩ Corpus.sampleText = .ok f ∧
      g ∈ (reconcile (Corpus.empty.push f) rs).corpus.files ∧ g.units[0]? = some u ∧
      blockAt? (settledIndex g.units g.lines u.declIndex) (splitLines g.settled) = some b' ∧
      u.selected = true ∧ b'.isMarked = true := by
  intro rs
  have hf := SourceFile.ofText_eq ⟨text "lib/a.zig"⟩ Corpus.sampleText
  generalize hfile : (outline (splitLines Corpus.sampleText)).file ⟨text "lib/a.zig"⟩ = f at hf
  have hmem : (if false then f.selectAll else f) ∈ (Corpus.empty.push f).files :=
    List.mem_singleton_self f
  obtain ⟨g, hg, hpath, -, hdecls, hblocks⟩ :=
    isMarked_settled_iff (Corpus.Reachable.empty.push hf) hf hmem rs
  have hfirst : (outline (splitLines Corpus.sampleText)).blocks[0]?.map
      (·.body.find? Line.isSkip) = some (some (Line.plainSkip Line.lf)) := by decide +kernel
  obtain ⟨b, hb, hskip⟩ := Option.map_eq_some_iff.mp hfirst
  obtain ⟨u, b', hu, hplace, -, hstays, hselected, -⟩ := hblocks 0 b _ hb hskip
  have hrun : u.selected = true := hselected.trans (by decide +kernel)
  have hkey : g.keyOf u = ⟨⟨text "lib/a.zig"⟩, 0⟩ := by
    have hzero : some u.declIndex = some 0 := by
      have hdecl : (g.units.map (·.declIndex))[0]? = some 0 := by
        rw [hdecls, ← hfile]
        decide +kernel
      rwa [List.getElem?_map, hu] at hdecl
    rw [SourceFile.keyOf, hpath, Option.some.inj hzero]
  have hpassed : ¬ PassedIn rs (g.keyOf u) := by rw [hkey]; decide +kernel
  refine ⟨f, g, u, b', hf, hg, hu, hplace, hrun, ?_⟩
  exact (hstays (by decide +kernel)).resolve_right fun h => hpassed h.2

/-- **Skip lines that go.**  A test whose skip line was written with the tag is not run, and
loses the line; for a re-check it is run and times out, and loses the line to a test that was
not there. -/
theorem tagged_skip_lines_go :
    let tagged := text "test \x7b\n" ++ Line.provisionalSkip Line.lf ++ text "\x7d\n"
    let hidden := text "test \x7b\n // inserted by unskiptest " ++ Mark.skipStatement ++
      text "\n\x7d\n"
    let after := fun (f : SourceFile) (rs : List JobResult) =>
      (reconcile (Corpus.empty.push f) rs).corpus.files.map fun g =>
        (g.units.map (·.selected), (outline (splitLines g.settled)).blocks.map (·.isMarked))
    (outline (splitLines tagged)).blocks.map (·.isMarked) = [true] ∧
      (SourceFile.ofText ⟨text "a.zig"⟩ tagged).map (after · []) = .ok [([false], [false])] ∧
      (outline (splitLines hidden)).blocks.map (·.isMarked) = [true] ∧
      (SourceFile.ofText ⟨text "a.zig"⟩ hidden).map (fun f => after f.selectAll
        [⟨⟨⟨text "a.zig"⟩, 0⟩, text "(unknown)", .timedOut⟩]) =
          .ok [([true], [false, false])] := by
  decide +kernel

end SkipAudit
