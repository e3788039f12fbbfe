/-
# One test enabled

The job of a unit leaves out one line of the file, by its index; settling leaves out the same
line when the unit has passed, by reading on from the declaration.  Both are told here as a
change of one block.

    eraseIdx_skip            leaving the skip line out is putting `TestBlock.enabled` in its place
    unitsAt_of_bare          reading fails at the block that has lost its skip line
    settle_eq_enabled        settling goes one step further: a blank line under the declaration

and put together in `isolated_enables_one`.
-/
import SkipAudit.Proofs.Places
import SkipAudit.Proofs.Rerun
import SkipAudit.Proofs.Update

namespace SkipAudit

namespace TestBlock

/-- The block without its skip lines. -/
def enabled (b : TestBlock) : TestBlock := ⟨b.head, b.body.filter (!·.isSkip)⟩

theorem WellFormed.enabled {b : TestBlock} (h : b.WellFormed) : b.enabled.WellFormed :=
  ⟨h.head, fun l hl => h.body l (List.mem_of_mem_filter hl)⟩

theorem isBare_enabled (b : TestBlock) : b.enabled.IsBare := fun l hl => by
  simpa using (List.mem_filter.mp hl).2

theorem IsBare.countP {b : TestBlock} (h : b.IsBare) : b.body.countP Line.isSkip = 0 :=
  List.countP_eq_zero.mpr fun l hl => by simp [h l hl]

namespace MarkedBy

variable {b : TestBlock} {above below : List Line} {skip : Line}
  (h : b.MarkedBy above skip below)

include h

theorem enabled_eq : b.enabled = ⟨b.head, above ++ below⟩ := by
  have habove : above.filter (!·.isSkip) = above :=
    List.filter_eq_self.mpr fun l hl => by simp [h.above l hl]
  have hbelow : below.filter (!·.isSkip) = below :=
    List.filter_eq_self.mpr fun l hl => by simp [h.below l hl]
  rw [enabled, h.body, List.filter_append, List.filter_cons_of_neg (by simp [h.isSkip]), habove,
    hbelow]

theorem countP : b.body.countP Line.isSkip = 1 := by
  have habove : above.countP Line.isSkip = 0 :=
    List.countP_eq_zero.mpr fun l hl => by simp [h.above l hl]
  have hbelow : below.countP Line.isSkip = 0 :=
    List.countP_eq_zero.mpr fun l hl => by simp [h.below l hl]
  rw [h.body, List.countP_append, List.countP_cons_of_pos h.isSkip, habove, hbelow]

/-- What is written for a cleared unit is what was compiled for it, less a blank line under the
declaration when the skip line stood there. -/
theorem settle_eq_enabled :
    b.settle true = ⟨b.head, if b.body.findIdx Line.isSkip = 0 then dropBlank b.enabled.body
      else b.enabled.body⟩ := by
  rw [h.settle_cleared, h.findIdx, h.enabled_eq]
  cases above with
  | nil => rfl
  | cons l ls => rfl

end MarkedBy

end TestBlock

/-! ## The skip line of one block left out -/

namespace Outline

variable {o : Outline} {k : Nat} {b : TestBlock}

theorem filter_isDeclaration_lines (h : o.WellFormed) :
    o.lines.filter Line.isDeclaration = o.blocks.map (·.head) := by
  have hnone : ∀ {ls : List Line}, (∀ l ∈ ls, l.isDeclaration = false) →
      ls.filter Line.isDeclaration = [] := fun hls =>
    List.filter_eq_nil_iff.mpr fun l hl => by simp [hls l hl]
  have hblock : ∀ b ∈ o.blocks, b.lines.filter Line.isDeclaration = [b.head] := fun b hb => by
    have hwf := h.blocks b hb
    rw [TestBlock.lines, List.filter_cons_of_pos hwf.head, hnone hwf.body]
  rw [lines, List.filter_append, hnone h.preamble, List.nil_append, List.filter_flatMap,
    List.flatMap_congr hblock, List.map_eq_flatMap]

theorem map_setBlock {α : Type} (g : TestBlock → α) (hb : o.blocks[k]? = some b) {b' : TestBlock}
    (hg : g b' = g b) : (o.setBlock k b').blocks.map g = o.blocks.map g := by
  have hgb : (o.blocks.map g)[k]? = some (g b) := by rw [List.getElem?_map, hb, Option.map_some]
  obtain ⟨hk, hat⟩ := List.getElem?_eq_some_iff.mp hgb
  rw [setBlock, List.map_set, hg, ← hat, List.set_getElem_self]

theorem eraseIdx_skip (hb : o.blocks[k]? = some b) {above below : List Line} {skip : Line}
    (hm : b.MarkedBy above skip below) :
    o.lines.eraseIdx ((o.above k).length + 1 + above.length) =
      (o.setBlock k b.enabled).lines := by
  have hidx : (o.above k).length + 1 + above.length - (o.above k).length = above.length + 1 := by
    omega
  rw [lines_eq hb, lines_setBlock hb, hm.enabled_eq, TestBlock.lines, TestBlock.lines, hm.body,
    List.eraseIdx_append_of_length_le (by omega), hidx, List.cons_append, List.eraseIdx_cons_succ,
    List.append_assoc, List.eraseIdx_append_of_length_le (Nat.le_refl _), Nat.sub_self,
    List.cons_append, List.eraseIdx_cons_zero, List.cons_append, List.append_assoc]

end Outline

/-- Blocks are read from the top, up to the first one without a skip line. -/
theorem unitsAt_of_bare {bs : List TestBlock} {k : Nat} {b : TestBlock} (hk : bs[k]? = some b)
    (hbare : b.IsBare)
    (hbefore : ∀ c ∈ bs.take k, ∃ above skip below, c.MarkedBy above skip below) (i : Nat) :
    unitsAt i bs =
      .error (.missingSkipLine (i + ((bs.take k).flatMap TestBlock.lines).length)) := by
  induction bs generalizing i k with
  | nil => exact absurd hk (by simp)
  | cons c bs ih =>
      cases k with
      | zero =>
          obtain rfl := Option.some.inj hk
          rw [unitsAt, TestBlock.pendingAt, lastSkipFrom_of_bare hbare]
          rfl
      | succ k =>
          rw [List.take_succ_cons] at hbefore
          obtain ⟨above, skip, below, hc⟩ := hbefore c List.mem_cons_self
          rw [unitsAt, close_pendingAt hc,
            ih hk fun d hd => hbefore d (List.mem_cons_of_mem _ hd), List.take_succ_cons,
            List.flatMap_cons, List.length_append, Nat.add_assoc]
          rfl

/-! ## What is compiled for a unit -/

/-- These are the lines of a file with one test enabled: that of unit number `k`, whose block is
`b` now. -/
structure SourceFile.Enables (f : SourceFile) (k : Nat) (u : TestUnit) (b : TestBlock)
    (ls : List Line) : Prop where
  /-- No declaration comes or goes. -/
  declarations : ls.filter Line.isDeclaration = f.lines.filter Line.isDeclaration
  /-- Every block has one skip line, but for this one. -/
  skipLines : (outline ls).blocks.map (·.body.countP Line.isSkip) =
    (List.replicate f.units.length 1).set k 0
  block : (outline ls).blocks[k]? = some b
  /-- The declaration has not moved. -/
  place : blockAt? u.declIndex ls = some b
  /-- Read as a file, the lines lack the skip line of this test, and this is the first defect. -/
  missing : unitsOf ls = .error (.missingSkipLine u.declIndex)

namespace Outline

variable {o : Outline} {k : Nat} {b : TestBlock}

theorem map_countP_setBlock_enabled :
    (o.mark.setBlock k b.enabled).blocks.map (·.body.countP Line.isSkip) =
      (List.replicate o.mark.blocks.length 1).set k 0 := by
  have hone : o.mark.blocks.map (·.body.countP Line.isSkip) =
      List.replicate o.mark.blocks.length 1 := by
    refine List.eq_replicate_iff.mpr ⟨List.length_map _, fun n hn => ?_⟩
    obtain ⟨c, hc, rfl⟩ := List.mem_map.mp hn
    obtain ⟨above, skip, below, hmarked⟩ := exists_markedBy c hc
    exact hmarked.countP
  rw [setBlock, List.map_set, hone, b.isBare_enabled.countP]

section Block

variable (hb : o.mark.blocks[k]? = some b) (path : Path) (h : o.WellFormed) (hs : IsSplit o.lines)

include hb

section WellFormed

include h

theorem enables_setBlock : (o.file path).Enables k (b.unitAt (o.mark.above k).length) b.enabled
    (o.mark.setBlock k b.enabled).lines := by
  have hwf : (o.mark.setBlock k b.enabled).WellFormed :=
    h.mark.setBlock (h.mark.blocks b (List.mem_of_getElem? hb)).enabled
  have hk : (o.mark.setBlock k b.enabled).blocks[k]? = some b.enabled :=
    List.getElem?_set_self (List.getElem?_eq_some_iff.mp hb).1
  have habove : (o.mark.setBlock k b.enabled).above k = o.mark.above k := above_setBlock ..
  have hout := outline_lines hwf
  constructor
  case declarations =>
    rw [file, filter_isDeclaration_lines hwf, filter_isDeclaration_lines h.mark]
    exact map_setBlock _ hb rfl
  case skipLines =>
    rw [hout, map_countP_setBlock_enabled, file, length_unitListAt]
  case block => rw [hout, hk]
  case place => exact habove ▸ hwf.blockAt? hk
  case missing =>
    have hbefore : ∀ c ∈ (o.mark.setBlock k b.enabled).blocks.take k, ∃ above skip below,
        c.MarkedBy above skip below := by
      rw [setBlock, List.take_set_of_le (Nat.le_refl k)]
      exact fun c hc => exists_markedBy c (List.mem_of_mem_take hc)
    have hlen := congrArg List.length habove
    rw [above, List.length_append] at hlen
    rw [unitsOf_lines hwf, unitsAt_of_bare hk b.isBare_enabled hbefore, hlen]
    rfl

end WellFormed

include hs

/-- The text that is compiled for a unit has these lines. -/
theorem splitLines_isolated :
    splitLines ((o.file path).jobOf (b.unitAt (o.mark.above k).length)).isolated =
      (o.mark.setBlock k b.enabled).lines := by
  obtain ⟨above, skip, below, hm⟩ := exists_markedBy b (List.mem_of_getElem? hb)
  have herase := eraseIdx_skip hb hm
  have hisolated : ((o.file path).jobOf (b.unitAt (o.mark.above k).length)).isolated =
      (o.mark.setBlock k b.enabled).lines.flatten := by
    rw [← herase, Job.isolated, ← hm.findIdx]
    rfl
  rw [hisolated, splitLines_flatten (herase ▸ hs.mark.sublist (List.eraseIdx_sublist _ _))]

include h in
/-- What is written of a block whose unit is cleared. -/
theorem blockAt?_settled_cleared {units : List TestUnit}
    (hc : clearedAt units (o.mark.above k).length = true) :
    blockAt? (settledIndex units o.mark.lines (o.mark.above k).length)
        (splitLines (SkipAudit.settle units o.mark.lines).flatten) =
      some ⟨b.head, if b.body.findIdx Line.isSkip = 0 then dropBlank b.enabled.body
        else b.enabled.body⟩ := by
  obtain ⟨above, skip, below, hm⟩ := exists_markedBy b (List.mem_of_getElem? hb)
  have hwf := h.mark.blocks b (List.mem_of_getElem? hb)
  rw [splitLines_flatten (hs.mark.settle units),
    blockAt?_settle_of_wellFormed h.mark hb units (hc ▸ hwf.settle_cleared), hc,
    hm.settle_eq_enabled]

end Block

end Outline

/-- **The file with one test enabled is what is compiled, and it is what is written when the
test passes.**  For each unit of the file that any text makes, its job has the lines of the file
without the one skip line of its block.  And whatever becomes of the other units, when this one
has no failure its block is written as it was compiled; only a blank line under the declaration
goes as well, when the skip line stood between the two. -/
theorem isolated_enables_one (path : Path) (t : Text) :
    ∃ f, SourceFile.ofText path t = .ok f ∧ ∀ k u, f.units[k]? = some u →
      f.jobOf u ∈ f.selectAll.jobs ∧
      ∃ b, f.Enables k u b (splitLines (f.jobOf u).isolated) ∧
        ∀ failure : TestUnit → Option Failure, failure u = none →
          let ended := f.mapUnits fun v => { v with failure := failure v }
          blockAt? (settledIndex ended.units ended.lines u.declIndex) (splitLines ended.settled) =
            some ⟨b.head, if u.skipIndex = u.declIndex + 1 then dropBlank b.body else b.body⟩ := by
  have hwf := wellFormed_outline (splitLines t)
  have hs := isSplit_outline t
  refine ⟨_, SourceFile.ofText_eq path t, fun k u hu => ⟨?_, ?_⟩⟩
  · -- Selecting all units leaves the job of each as it is.
    have hmem := List.mem_of_getElem? hu
    refine List.mem_map.mpr ⟨{ u with selected := true }, List.mem_filter.mpr ⟨?_, rfl⟩, rfl⟩
    exact List.mem_map_of_mem (f := fun v : TestUnit => { v with selected := true }) hmem
  · generalize outline (splitLines t) = o at hwf hs hu
    have hb := hu
    rw [Outline.getElem?_units_file, Option.map_eq_some_iff] at hb
    obtain ⟨b, hb, rfl⟩ := hb
    refine ⟨b.enabled, ?_, fun failure hnone => ?_⟩
    · rw [Outline.splitLines_isolated hb path hs]
      exact Outline.enables_setBlock hb path hwf
    · intro ended
      have hcleared : clearedAt ended.units (o.mark.above k).length = true := by
        have hat := Outline.clearedAt_map_file hb path
          (g := fun v => { v with failure := failure v }) fun _ => rfl
        exact hat.trans (Option.isNone_iff_eq_none.mpr hnone)
      have hskip : (b.unitAt (o.mark.above k).length).skipIndex =
          (b.unitAt (o.mark.above k).length).declIndex + 1 ↔ b.body.findIdx Line.isSkip = 0 :=
        Nat.add_eq_left
      have hblock := Outline.blockAt?_settled_cleared hb hwf hs hcleared
      exact hblock.trans (congrArg (fun body => some (TestBlock.mk b.head body))
        (if_congr hskip rfl rfl).symm)

/-- The first of three tests, whose skip line has a blank line under it; the two others fail. -/
theorem isolated_enables_one_threeTests :
    ∃ f u b, SourceFile.ofText ⟨text "lib/a.zig"⟩ threeTests = .ok f ∧ f.units[0]? = some u ∧
      u.skipIndex = u.declIndex + 1 ∧ f.Enables 0 u b (splitLines (f.jobOf u).isolated) ∧
      let ended := f.mapUnits fun v => { v with failure := if v = u then none else some .panic }
      blockAt? (settledIndex ended.units ended.lines u.declIndex) (splitLines ended.settled) =
        some ⟨b.head, dropBlank b.body⟩ := by
  have hfirst : (SourceFile.ofText ⟨text "lib/a.zig"⟩ threeTests).map
      (·.units[0]?.map fun u => (u.declIndex, u.skipIndex)) = .ok (some (2, 3)) := by
    decide +kernel
  obtain ⟨f, hf, henabled⟩ := isolated_enables_one ⟨text "lib/a.zig"⟩ threeTests
  rw [hf] at hfirst
  obtain ⟨u, hu, hindex⟩ := Option.map_eq_some_iff.mp (Except.ok.inj hfirst)
  obtain ⟨hdecl, hskip⟩ := Prod.mk.inj hindex
  have hunder : u.skipIndex = u.declIndex + 1 := by rw [hdecl, hskip]
  obtain ⟨-, b, hb, hsettled⟩ := henabled 0 u hu
  refine ⟨f, u, b, hf, hu, hunder, hb, ?_⟩
  have hblock := hsettled (fun v => if v = u then none else some .panic) (if_pos rfl)
  rwa [if_pos hunder] at hblock

end SkipAudit
