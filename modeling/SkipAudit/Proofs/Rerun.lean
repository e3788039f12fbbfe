/-
# Running again

Nothing survives between two runs but the text of a file, so what a run writes must read, the
next time, as what the run knew: a block with a skip line is outstanding, one without has
passed.  Two statements say that it does.

    outstanding_after_run    the next run selects exactly the units that failed
    afterRun_afterRun        a run after a run leaves what it alone would have left

Both need that no line of the text holds a skip statement and a provisional tag together: such
a line would be taken for one of the tool's own.  The second needs a final line feed too.

The proof is one block at a time.  A marked block that is settled and marked again has its old
skip line when its unit failed, and a provisional one when it did not; in either case settling
it comes to what settling it the first time would have (`TestBlock.settle_mark_settle`).
-/
import Mathlib.Data.List.Forall2
import SkipAudit.Corpus.SourceFile
import SkipAudit.Proofs.Settling

namespace SkipAudit

/-- No skip line among these bears a provisional tag. -/
def Untagged (ls : List Line) : Prop := ∀ l ∈ ls, l.isSkip = true → l.isProvisional = false

instance (ls : List Line) : Decidable (Untagged ls) :=
  inferInstanceAs (Decidable (∀ l ∈ ls, l.isSkip = true → l.isProvisional = false))

/-- The text that a run leaves of a file, given how its units end. -/
def afterRun (failures : List (Option Failure)) (t : Text) : Except StructureError Text := do
  let lines := markBlocks (splitLines t)
  let units ← unitsOf lines
  return (settle (TestUnit.assign failures units) lines).flatten

open Line

namespace TestBlock

/-! ## One block, settled and marked again -/

/-- A block without skip lines comes back when it is marked and its skip line taken out again.
Only the last line may be terminated in between: the declaration, when nothing stands under it,
or a check that is the last line. -/
theorem lines_settle_mark {b : TestBlock} (hb : b.IsBare)
    (ht : b.lines.Pairwise fun l _ => l.isTerminated = true) :
    (b.mark.settle true).lines =
      if opening b.body = b.body then OpenBlock.terminateLast b.head.terminator b.lines
      else b.lines := by
  obtain ⟨head, body⟩ := b
  obtain ⟨hhead, hbody⟩ := List.pairwise_cons.mp ht
  have he := isEnding_terminator head
  have hmarked : ¬ TestBlock.isMarked ⟨head, body⟩ = true := by simp [isMarked_eq_false_iff.mpr hb]
  rw [mark, if_neg hmarked]
  by_cases ho : opening body = []
  · have hm : MarkedBy ⟨head.terminateWith head.terminator,
        provisionalSkip head.terminator :: head.terminator :: body⟩ []
        (provisionalSkip head.terminator) (head.terminator :: body) :=
      ⟨rfl, isSkip_provisionalSkip _, fun _ h => absurd h List.not_mem_nil,
        List.forall_mem_cons.mpr ⟨isSkip_ending he, hb⟩⟩
    rw [if_pos ho, hm.settle_cleared, List.isEmpty_nil, if_pos rfl, dropBlank,
      if_pos (isBlank_ending he), List.nil_append]
    cases body with
    | nil => rfl
    | cons l ls =>
        have hne : ¬ opening (l :: ls) = l :: ls := ho ▸ (List.cons_ne_nil l ls).symm
        rw [if_neg hne, terminateWith_of_isTerminated (hhead l List.mem_cons_self)]
  · obtain ⟨above, check, below, hopen, rfl⟩ := exists_check_of_opening ho
    obtain ⟨ha, hc, hbelow⟩ : (∀ l ∈ above, l.isSkip = false) ∧ check.isSkip = false ∧
        ∀ l ∈ below, l.isSkip = false := by
      simpa [IsBare, List.forall_mem_append, or_imp, forall_and] using hb
    have hm : MarkedBy ⟨head, (above ++ [check.terminateWith head.terminator]) ++
        provisionalSkip head.terminator :: below⟩ (above ++ [check.terminateWith head.terminator])
        (provisionalSkip head.terminator) below :=
      ⟨rfl, isSkip_provisionalSkip _, List.forall_mem_append.mpr ⟨ha,
        List.forall_mem_singleton.mpr ((isSkip_terminateWith he check).trans hc)⟩, hbelow⟩
    rw [if_neg ho, drop_opening hopen rfl, hopen, terminateLast_concat, hm.settle_cleared,
      if_neg (by simp)]
    cases below with
    | nil =>
        rw [if_pos rfl, List.append_nil]
        exact (terminateLast_concat _ (head :: above) check).symm
    | cons l ls =>
        have hcheck : check.isTerminated = true :=
          (List.pairwise_cons.mp (List.pairwise_append.mp hbody).2.1).1 l List.mem_cons_self
        rw [if_neg (by simp), terminateWith_of_isTerminated hcheck,
          ← List.append_cons above check (l :: ls)]

theorem settle_mark_of_isBare {b : TestBlock} (hb : b.IsBare)
    (ht : ∀ l ∈ b.lines, l.isTerminated = true) : b.mark.settle true = b := by
  have hlines := lines_settle_mark hb (List.pairwise_iff_forall_sublist.mpr fun h =>
    ht _ (h.subset List.mem_cons_self))
  rw [terminateLast_of_isTerminated ht, ite_self] at hlines
  exact lines_inj hlines

section Again

variable {b : TestBlock} (hwf : b.WellFormed) (hu : Untagged b.body)

include hwf hu

/-- The skip line of a marked block is an ordinary one once its tags are off. -/
theorem exists_plain_skip : ∃ above skip below, b.mark.MarkedBy above skip below ∧
    skip.withoutTag.isSkip = true ∧ skip.withoutTag.isProvisional = false ∧
      skip.withoutTag.isDeclaration = false := by
  obtain ⟨above, skip, below, hmarked, horigin⟩ := (placed_mark b).exists_markedBy
  refine ⟨above, skip, below, hmarked, ?_⟩
  rcases horigin with hmem | ⟨-, rfl⟩
  · rw [withoutTag_of_untagged (hu skip hmem hmarked.isSkip)]
    exact ⟨hmarked.isSkip, hu skip hmem hmarked.isSkip, hwf.body skip hmem⟩
  · have he := isEnding_terminator b.head
    rw [withoutTag_provisionalSkip he]
    exact ⟨isSkip_plainSkip _, isProvisional_plainSkip he, isDeclaration_plainSkip _⟩

theorem wellFormed_settle_mark (cleared : Bool) : (b.mark.settle cleared).WellFormed := by
  have hmark := (placed_mark b).wellFormed hwf
  cases cleared with
  | true => exact hmark.settle_cleared
  | false =>
      obtain ⟨hhead, hbody⟩ := hmark
      obtain ⟨above, skip, below, hmarked, -, -, hdecl⟩ := exists_plain_skip hwf hu
      rw [hmarked.body] at hbody
      obtain ⟨habove, hrest⟩ := List.forall_mem_append.mp hbody
      have hbelow := (List.forall_mem_cons.mp hrest).2
      rw [hmarked.settle_kept]
      exact ⟨hhead, List.forall_mem_append.mpr ⟨habove, List.forall_mem_cons.mpr ⟨hdecl, hbelow⟩⟩⟩

/-- A unit that failed keeps its skip line, and the block is left alone from then on. -/
theorem markedBy_settle_kept : ∃ above skip below, b.mark.MarkedBy above skip below ∧
    skip.withoutTag.isProvisional = false ∧
      (b.mark.settle false).MarkedBy above skip.withoutTag below := by
  obtain ⟨above, skip, below, hmarked, hskip, hprov, -⟩ := exists_plain_skip hwf hu
  refine ⟨above, skip, below, hmarked, hprov, ?_⟩
  rw [hmarked.settle_kept]
  exact ⟨rfl, hskip, hmarked.above, hmarked.below⟩

/-- The next run takes the skip line for one of its own exactly when the unit was cleared. -/
theorem isProvisional_mark_settle (cleared : Bool) :
    (b.mark.settle cleared).mark.isProvisional = cleared := by
  cases cleared with
  | false =>
      obtain ⟨above, skip, below, -, hprov, hkept⟩ := markedBy_settle_kept hwf hu
      rw [hkept.mark_eq, isProvisional, hkept.find, Option.any_some, hprov]
  | true =>
      have hbare := isBare_settle_cleared b.mark
      obtain ⟨above, skip, below, hmarked, hmem | ⟨-, rfl⟩⟩ :=
        (placed_mark (b.mark.settle true)).exists_markedBy
      · exact absurd hmarked.isSkip (by simp [hbare skip hmem])
      · rw [isProvisional, hmarked.find, Option.any_some, isProvisional_provisionalSkip]

/-- What was settled as kept can still be settled as cleared, and what was cleared stays so. -/
theorem settle_mark_settle (ht : ∀ l ∈ b.lines, l.isTerminated = true) {c₁ c₂ : Bool}
    (hc : c₁ = true → c₂ = true) :
    (b.mark.settle c₁).mark.settle c₂ = b.mark.settle c₂ := by
  cases c₁ with
  | false =>
      obtain ⟨above, skip, below, hmarked, hprov, hkept⟩ := markedBy_settle_kept hwf hu
      rw [hkept.mark_eq]
      cases c₂ with
      | false =>
          rw [hkept.settle_kept, hmarked.settle_kept, withoutTag_of_untagged hprov]
      | true =>
          rw [hkept.settle_cleared, hmarked.settle_cleared]
          rfl
  | true =>
      rw [hc rfl]
      have hterm := (placed_mark b).standsFor.terminated ht
      exact settle_mark_of_isBare (isBare_settle_cleared b.mark) fun l hl =>
        hterm l ((settle_cleared_sublist b.mark).subset hl)

end Again

end TestBlock

/-! ## One file, run over once -/

theorem map_declIndex_assign (failures : List (Option Failure)) (units : List TestUnit) :
    (TestUnit.assign failures units).map (·.declIndex) = units.map (·.declIndex) := by
  induction units generalizing failures with
  | nil => cases failures <;> rfl
  | cons u us ih =>
      cases failures with
      | nil => rfl
      | cons f fs => rw [TestUnit.assign, List.map_cons, List.map_cons, ih]

theorem map_isCleared_assign {failures : List (Option Failure)} {units : List TestUnit}
    (h : failures.length = units.length) :
    (TestUnit.assign failures units).map (·.isCleared) = failures.map (·.isNone) := by
  induction units generalizing failures with
  | nil =>
      rw [List.length_eq_zero_iff.mp h]
      rfl
  | cons u us ih =>
      cases failures with
      | nil => exact absurd h (by simp)
      | cons f fs =>
          rw [TestUnit.assign, List.map_cons, List.map_cons, ih (Nat.succ.inj h)]
          rfl

/-- Blocks that bear no tags on their skip lines. -/
def Outline.IsUntagged (o : Outline) : Prop :=
  Untagged o.preamble ∧ ∀ b ∈ o.blocks, Untagged b.body

theorem Outline.isUntagged_of_lines {o : Outline} (h : Untagged o.lines) : o.IsUntagged := by
  refine ⟨fun l hl => h l (List.mem_append_left _ hl), fun b hb l hl => ?_⟩
  exact h l (List.mem_append_right _
    (List.mem_flatMap.mpr ⟨b, hb, List.mem_cons_of_mem _ hl⟩))

/-- What a run leaves of a file with this outline. -/
def Outline.afterRun (o : Outline) (failures : List (Option Failure)) : Outline :=
  o.mark.settle (failures.map (·.isNone))

namespace Outline

variable {o : Outline} (hwf : o.WellFormed)

include hwf

theorem unitsOf_markBlocks (hs : IsSplit o.lines) :
    unitsOf (markBlocks (splitLines o.lines.flatten)) =
      .ok (TestBlock.unitListAt o.preamble.length o.mark.blocks) := by
  rw [splitLines_flatten hs, markBlocks_lines hwf, unitsOf_mark hwf]

variable {failures : List (Option Failure)} (hlen : failures.length = o.blocks.length)

include hlen

theorem lines_afterRun :
    (o.afterRun failures).lines =
      SkipAudit.settle (TestUnit.assign failures
        (TestBlock.unitListAt o.preamble.length o.mark.blocks)) o.mark.lines := by
  have hcount : failures.length =
      (TestBlock.unitListAt o.preamble.length o.mark.blocks).length := by
    rw [length_unitListAt, hlen, mark, List.length_map]
  rw [settle_lines hwf.mark, map_isCleared_assign hcount]
  · rfl
  · rw [map_declIndex_assign, declIndex_unitListAt]
    rfl

theorem afterRun_flatten (hs : IsSplit o.lines) :
    SkipAudit.afterRun failures o.lines.flatten = .ok (o.afterRun failures).lines.flatten := by
  rw [SkipAudit.afterRun, unitsOf_markBlocks hwf hs, lines_afterRun hwf hlen,
    splitLines_flatten hs, markBlocks_lines hwf]
  rfl

theorem isSplit_afterRun (hs : IsSplit o.lines) : IsSplit (o.afterRun failures).lines := by
  rw [lines_afterRun hwf hlen]
  exact hs.mark.settle _

end Outline

section Again

variable {o : Outline} (hwf : o.WellFormed) (hu : o.IsUntagged)
  {failures : List (Option Failure)} (hlen : failures.length = o.blocks.length)

theorem map_persisted_of_untagged {ls : List Line} (h : Untagged ls) :
    ls.map Line.persisted = ls := by
  refine (List.map_congr_left fun l hl => ?_).trans (List.map_id ls)
  rw [Line.persisted]
  split
  · rename_i hs
    rw [Bool.and_eq_true] at hs
    exact withoutTag_of_untagged (h l hl hs.2)
  · rfl

include hu in
theorem Outline.preamble_afterRun (failures : List (Option Failure)) :
    (o.afterRun failures).preamble = o.preamble :=
  map_persisted_of_untagged hu.1

/-- Every block with the failure of its unit. -/
theorem Outline.blocks_afterRun (o : Outline) (failures : List (Option Failure)) :
    (o.afterRun failures).blocks =
      List.zipWith (fun f b => b.mark.settle f.isNone) failures o.blocks := by
  rw [Outline.afterRun, Outline.settle, Outline.mark, List.zipWith_map]

include hwf hu in
theorem Outline.WellFormed.afterRun : (o.afterRun failures).WellFormed := by
  refine ⟨?_, fun b hb => ?_⟩
  · rw [preamble_afterRun hu]
    exact hwf.preamble
  · rw [blocks_afterRun] at hb
    obtain ⟨k, hk, rfl⟩ := List.getElem_of_mem hb
    rw [List.getElem_zipWith]
    exact TestBlock.wellFormed_settle_mark (hwf.blocks _ (List.getElem_mem _))
      (hu.2 _ (List.getElem_mem _)) _

include hlen in
theorem Outline.length_blocks_afterRun : (o.afterRun failures).blocks.length = o.blocks.length := by
  rw [blocks_afterRun, List.length_zipWith, hlen, Nat.min_self]

/-- Marked again after a run, every block is as its own one became. -/
theorem Outline.map_blocks_mark_afterRun {α : Type} (g : TestBlock → α) (o : Outline)
    (failures : List (Option Failure)) :
    (o.afterRun failures).mark.blocks.map g =
      List.zipWith (fun f b => g (b.mark.settle f.isNone).mark) failures o.blocks := by
  rw [Outline.mark, blocks_afterRun, List.map_map, List.map_zipWith]
  rfl

include hlen in
theorem Outline.names_afterRun :
    (o.afterRun failures).mark.blocks.map (fun b => PendingUnit.nameOf b.head) =
      o.mark.blocks.map fun b => PendingUnit.nameOf b.head := by
  rw [map_blocks_mark_afterRun, Outline.mark]
  refine List.ext_getElem (by simp [hlen]) fun k h₁ h₂ => ?_
  rw [List.getElem_zipWith, List.getElem_map, List.getElem_map, (placed_mark _).nameOf_head]
  rfl

include hwf hu hlen in
theorem Outline.provisional_afterRun :
    (o.afterRun failures).mark.blocks.map TestBlock.isProvisional =
      failures.map (·.isNone) := by
  rw [map_blocks_mark_afterRun]
  refine List.ext_getElem (by simp [hlen]) fun k h₁ h₂ => ?_
  rw [List.getElem_zipWith, List.getElem_map]
  exact TestBlock.isProvisional_mark_settle (hwf.blocks _ (List.getElem_mem _))
    (hu.2 _ (List.getElem_mem _)) _

end Again

/-- **What a run writes is what the next run reads as outstanding.**  Whatever failures the
units of a file end with, the text that the run leaves has the same units in the same order,
and the next run selects exactly those that failed. -/
theorem outstanding_after_run {t : Text} (hu : Untagged (splitLines t)) :
    ∃ units, unitsOf (markBlocks (splitLines t)) = .ok units ∧
      ∀ failures : List (Option Failure), failures.length = units.length →
        ∃ out units₂, afterRun failures t = .ok out ∧
          unitsOf (markBlocks (splitLines out)) = .ok units₂ ∧
          units₂.length = units.length ∧
          units₂.map (·.name) = units.map (·.name) ∧
          units₂.map (·.selected) = failures.map (·.isSome) ∧
          units₂.map (·.provisional) = failures.map (·.isNone) := by
  obtain ⟨o, hwf, hlines⟩ : ∃ o : Outline, o.WellFormed ∧ o.lines = splitLines t :=
    ⟨outline (splitLines t), wellFormed_outline _, lines_outline _⟩
  have hsplit : IsSplit o.lines := hlines ▸ isSplit_splitLines t
  have hu' : o.IsUntagged := Outline.isUntagged_of_lines (hlines ▸ hu)
  have ht : o.lines.flatten = t := by rw [hlines, flatten_splitLines]
  refine ⟨_, ht ▸ Outline.unitsOf_markBlocks hwf hsplit, fun failures hlen => ?_⟩
  rw [length_unitListAt, Outline.mark, List.length_map] at hlen
  refine ⟨_, _, ht ▸ Outline.afterRun_flatten hwf hlen hsplit,
    Outline.unitsOf_markBlocks (hwf.afterRun hu') (Outline.isSplit_afterRun hwf hlen hsplit),
    ?_, ?_, ?_, ?_⟩
  · rw [length_unitListAt, length_unitListAt, Outline.mark, List.length_map,
      Outline.length_blocks_afterRun hlen, Outline.mark, List.length_map]
  · rw [map_unitListAt (g := fun b => PendingUnit.nameOf b.head) fun _ _ => rfl,
      Outline.names_afterRun hlen,
      map_unitListAt (g := fun b => PendingUnit.nameOf b.head) fun _ _ => rfl]
  · have hnot := congrArg (List.map not) (Outline.provisional_afterRun hwf hu' hlen)
    rw [List.map_map, List.map_map] at hnot
    rw [map_unitListAt (g := not ∘ TestBlock.isProvisional) fun _ _ => rfl, hnot]
    exact List.map_congr_left fun f _ => Option.not_isNone f
  · rw [map_unitListAt (g := TestBlock.isProvisional) fun _ _ => rfl,
      Outline.provisional_afterRun hwf hu' hlen]

/-- Three tests: one that is skipped twice over, one with a check for another backend and with
carriage returns, and one without a name. -/
def threeTests : Text :=
  text "const std = @import(1);\n\ntest \"one\" \x7b\n" ++ Line.plainSkip Line.lf ++ Line.lf ++
    Line.plainSkip Line.lf ++ text "    check(1);\n\x7d\n\ntest \"two\" \x7b\r\n    init();\r\n" ++
    text "    if (builtin.zig_backend == .stage2_c) return error.SkipZigTest;\r\n\x7d\r\n" ++
    text "test \x7b\n    check(3);\n\x7d\n"

theorem untagged_threeTests : Untagged (splitLines threeTests) := by decide +kernel

theorem outstanding_after_run_threeTests :
    Untagged (splitLines threeTests) ∧
      ∃ out units₂, afterRun [some .panic, none, some .timedOut] threeTests = .ok out ∧
        unitsOf (markBlocks (splitLines out)) = .ok units₂ ∧
        units₂.map (·.selected) = [true, false, true] := by
  have hcount : (unitsOf (markBlocks (splitLines threeTests))).map List.length = .ok 3 := by
    decide +kernel
  obtain ⟨units, hunits, hrun⟩ := outstanding_after_run untagged_threeTests
  rw [hunits] at hcount
  obtain ⟨out, units₂, hout, hunits₂, -, -, hselected, -⟩ :=
    hrun [some .panic, none, some .timedOut] (Except.ok.inj hcount).symm
  exact ⟨untagged_threeTests, out, units₂, hout, hunits₂, hselected⟩

/-! ## One file, run over twice -/

/-- The blocks are settled for the second time as if it were the first. -/
theorem Outline.afterRun_twice {o : Outline} (hwf : o.WellFormed) (hu : o.IsUntagged)
    (ht : ∀ l ∈ o.lines, l.isTerminated = true) {e₁ e₂ : List (Option Failure)}
    (hlen : e₁.length = o.blocks.length)
    (hle : List.Forall₂ (fun f g => f = none → g = none) e₁ e₂) :
    (o.afterRun e₁).afterRun e₂ = o.afterRun e₂ := by
  have hlen₂ : e₂.length = o.blocks.length := hle.length_eq ▸ hlen
  have hpre : ((o.afterRun e₁).afterRun e₂).preamble = (o.afterRun e₂).preamble :=
    congrArg (List.map Line.persisted) (preamble_afterRun hu e₁)
  have hblocks : ((o.afterRun e₁).afterRun e₂).blocks = (o.afterRun e₂).blocks := by
    rw [blocks_afterRun, blocks_afterRun, blocks_afterRun]
    refine List.ext_getElem (by simp [hlen, hlen₂]) fun k h₁ h₂ => ?_
    rw [List.getElem_zipWith, List.getElem_zipWith, List.getElem_zipWith]
    refine TestBlock.settle_mark_settle (hwf.blocks _ (List.getElem_mem _))
      (hu.2 _ (List.getElem_mem _)) (fun l hl => ?_) fun hc => ?_
    · exact ht l (List.mem_append_right _
        (List.mem_flatMap.mpr ⟨_, List.getElem_mem _, hl⟩))
    · rw [Option.isNone_iff_eq_none] at hc ⊢
      exact hle.get (by simp at h₂; omega) (by simp at h₂; omega) hc
  exact Outline.ext hpre hblocks

/-- **Progress made over several runs leaves the same text as one run.**  When the units that
were cleared the first time are cleared the second time too, the second run leaves what it
would have left of the text before the first; with the same failures it changes nothing. -/
theorem afterRun_afterRun {t : Text} (hend : t = [] ∨ t.getLast? = some '\n')
    (hu : Untagged (splitLines t)) {e₁ e₂ : List (Option Failure)}
    (hlen : e₁.length = (splitLines t).countP Line.isDeclaration)
    (hle : List.Forall₂ (fun f g => f = none → g = none) e₁ e₂) :
    ∃ t₁ t₂, afterRun e₁ t = .ok t₁ ∧ afterRun e₂ t = .ok t₂ ∧
      afterRun e₂ t₁ = .ok t₂ ∧ afterRun e₁ t₁ = .ok t₁ := by
  obtain ⟨o, hwf, hlines, hcount⟩ : ∃ o : Outline, o.WellFormed ∧ o.lines = splitLines t ∧
      o.blocks.length = (splitLines t).countP Line.isDeclaration :=
    ⟨outline (splitLines t), wellFormed_outline _, lines_outline _, length_blocks_outline _⟩
  have hsplit : IsSplit o.lines := hlines ▸ isSplit_splitLines t
  have hu' : o.IsUntagged := Outline.isUntagged_of_lines (hlines ▸ hu)
  have hterm : ∀ l ∈ o.lines, l.isTerminated = true :=
    hlines ▸ isTerminated_of_mem_splitLines hend
  have ht : o.lines.flatten = t := by rw [hlines, flatten_splitLines]
  have hlen₁ : e₁.length = o.blocks.length := hlen.trans hcount.symm
  have hlen₂ : e₂.length = o.blocks.length := hle.length_eq ▸ hlen₁
  have hrefl : List.Forall₂ (fun f g => f = none → g = none) e₁ e₁ :=
    List.forall₂_same.mpr fun _ _ => id
  -- The second run starts from the outline that the first one leaves.
  have hagain : ∀ e : List (Option Failure), e.length = o.blocks.length →
      afterRun e (o.afterRun e₁).lines.flatten =
        .ok ((o.afterRun e₁).afterRun e).lines.flatten := fun e he =>
    Outline.afterRun_flatten (hwf.afterRun hu')
      (he.trans (Outline.length_blocks_afterRun hlen₁).symm)
      (Outline.isSplit_afterRun hwf hlen₁ hsplit)
  refine ⟨_, _, ht ▸ Outline.afterRun_flatten hwf hlen₁ hsplit,
    ht ▸ Outline.afterRun_flatten hwf hlen₂ hsplit, ?_, ?_⟩
  · rw [hagain e₂ hlen₂, Outline.afterRun_twice hwf hu' hterm hlen₁ hle]
  · rw [hagain e₁ hlen₁, Outline.afterRun_twice hwf hu' hterm hlen₁ hrefl]

theorem afterRun_afterRun_threeTests :
    Untagged (splitLines threeTests) ∧
      ∃ t₁ t₂, afterRun [some .panic, none, some .timedOut] threeTests = .ok t₁ ∧
        afterRun [none, none, some .timedOut] threeTests = .ok t₂ ∧
        afterRun [none, none, some .timedOut] t₁ = .ok t₂ ∧
        afterRun [some .panic, none, some .timedOut] t₁ = .ok t₁ := by
  refine ⟨untagged_threeTests,
    afterRun_afterRun (Or.inr (by decide +kernel)) untagged_threeTests (by decide +kernel) ?_⟩
  exact .cons (fun _ => rfl) (.cons (fun _ => rfl) (.cons id .nil))

end SkipAudit
