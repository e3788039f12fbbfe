/-
# Marked files

What a file looks like once its blocks are marked, told in the positions of its lines.

    one_skip_line_each     its units are its declarations, and between a declaration and the
                           next one there is one skip line: the one that the unit points to
    markBlocks_stable      marking it again changes nothing, nor does writing and reading it

The first holds for any list of lines, whatever stands in them and however they end: a skip
line that is put in is counted like one that was there, and a declaration that contains the
skip statement is no skip line.
-/
import SkipAudit.Proofs.Places

namespace SkipAudit

/-! ## Where a block ends -/

/-- Where the block of unit number `k` ends: at the declaration of the next unit, or with the
lines. -/
def blockEnd (units : List TestUnit) (ls : List Line) (k : Nat) : Nat :=
  (units[k + 1]?.map (·.declIndex)).getD ls.length

namespace Outline

variable {o : Outline} {k : Nat} {b : TestBlock}

theorem length_above_succ (hb : o.blocks[k]? = some b) :
    (o.above (k + 1)).length = (o.above k).length + b.lines.length := by
  rw [above, above, List.take_add_one, hb, Option.toList_some, List.flatMap_append,
    List.flatMap_singleton, ← List.append_assoc, List.length_append]

theorem blockEnd_eq (hb : o.blocks[k]? = some b) :
    blockEnd (TestBlock.unitListAt o.preamble.length o.blocks) o.lines k =
      (o.above k).length + b.lines.length := by
  rw [blockEnd, getElem?_unitListAt]
  cases hnext : o.blocks[k + 1]? with
  | some c =>
      rw [← length_above_succ hb, above, List.length_append]
      rfl
  | none =>
      have hbelow : o.below k = [] := by
        rw [below, List.drop_eq_nil_of_le (List.getElem?_eq_none_iff.mp hnext), List.flatMap_nil]
      rw [lines_eq hb, hbelow, List.append_nil, List.length_append]
      rfl

/-- A line of a block, found from the top of the file. -/
theorem getElem?_lines (hb : o.blocks[k]? = some b) {i : Nat} (h₁ : (o.above k).length ≤ i)
    (h₂ : i < (o.above k).length + b.lines.length) :
    o.lines[i]? = b.lines[i - (o.above k).length]? := by
  rw [lines_eq hb, List.getElem?_append_right h₁, List.getElem?_append_left (by omega)]

end Outline

/-! ## Where the declarations are -/

theorem headsAt_eq_findIdxs {bs : List TestBlock} (h : ∀ b ∈ bs, b.WellFormed) (i : Nat) :
    headsAt i bs = (bs.flatMap TestBlock.lines).findIdxs Line.isDeclaration i := by
  induction bs generalizing i with
  | nil => rfl
  | cons b bs ih =>
      obtain ⟨hb, hbs⟩ := List.forall_mem_cons.mp h
      have hbody : b.body.findIdxs Line.isDeclaration (i + 1) = [] :=
        List.findIdxs_eq_nil_iff.mpr hb.body
      rw [headsAt, ih hbs, List.flatMap_cons, List.findIdxs_append, TestBlock.lines,
        List.findIdxs_cons, if_pos hb.head, hbody, List.singleton_append]

theorem Outline.WellFormed.headsAt_eq {o : Outline} (h : o.WellFormed) :
    headsAt o.preamble.length o.blocks = o.lines.findIdxs Line.isDeclaration := by
  have hpre : o.preamble.findIdxs Line.isDeclaration = [] :=
    List.findIdxs_eq_nil_iff.mpr h.preamble
  rw [Outline.lines, List.findIdxs_append, hpre, List.nil_append, Nat.zero_add,
    headsAt_eq_findIdxs h.blocks]

/-! ## Where the skip lines are -/

/-- The line is a skip line of its block: it contains the statement, and opens no block. -/
def Line.marksBlock (l : Line) : Bool := !l.isDeclaration && l.isSkip

/-- The line at index `i` is a skip line. -/
def skipAt (ls : List Line) (i : Nat) : Bool := ls[i]?.any Line.marksBlock

theorem getElem?_append_cons_length {α : Type} (xs ys : List α) (x : α) :
    (xs ++ x :: ys)[xs.length]? = some x := by
  rw [List.getElem?_append_right (Nat.le_refl _), Nat.sub_self, List.getElem?_cons_zero]

theorem getElem?_append_cons_any {α : Type} {p : α → Bool} {xs ys : List α} {x : α}
    (hxs : ∀ y ∈ xs, p y = false) (hx : p x = true) (hys : ∀ y ∈ ys, p y = false) (i : Nat) :
    (xs ++ x :: ys)[i]?.any p = true ↔ i = xs.length := by
  rw [Option.any_eq_true]
  constructor
  · rintro ⟨y, hy, hp⟩
    rcases Nat.lt_trichotomy i xs.length with hlt | heq | hgt
    · rw [List.getElem?_append_left hlt] at hy
      rw [hxs y (List.mem_of_getElem? hy)] at hp
      exact absurd hp Bool.false_ne_true
    · exact heq
    · obtain ⟨j, rfl⟩ : ∃ j, i = xs.length + (j + 1) := ⟨i - xs.length - 1, by omega⟩
      rw [List.getElem?_append_right (Nat.le_add_right _ _), Nat.add_sub_cancel_left,
        List.getElem?_cons_succ] at hy
      rw [hys y (List.mem_of_getElem? hy)] at hp
      exact absurd hp Bool.false_ne_true
  · rintro rfl
    exact ⟨x, getElem?_append_cons_length xs ys x, hx⟩

/-- A marked block has its skip line in one place. -/
theorem TestBlock.MarkedBy.skipAt_iff {b : TestBlock} {above below : List Line} {skip : Line}
    (h : b.MarkedBy above skip below) (hwf : b.WellFormed) (i : Nat) :
    skipAt b.lines i = true ↔ i = above.length + 1 := by
  have hbare : ∀ {ls : List Line}, (∀ l ∈ ls, l.isSkip = false) →
      ∀ l ∈ ls, l.marksBlock = false := fun hls l hl => by
    rw [Line.marksBlock, hls l hl, Bool.and_false]
  have hskip : skip.marksBlock = true := by
    rw [Line.marksBlock, hwf.body skip (h.body ▸ List.mem_append_right _ List.mem_cons_self),
      h.isSkip]
    rfl
  have habove : ∀ l ∈ b.head :: above, l.marksBlock = false := by
    refine List.forall_mem_cons.mpr ⟨?_, hbare h.above⟩
    rw [Line.marksBlock, hwf.head]
    rfl
  rw [skipAt, TestBlock.lines, h.body, ← List.cons_append,
    getElem?_append_cons_any habove hskip (hbare h.below), List.length_cons]

/-! ## One skip line for each declaration -/

/-- Of the lines from the declaration of the unit up to `stop`, its skip line is the only one that
is a skip line; and it stands under the declaration. -/
structure TestUnit.PointsTo (u : TestUnit) (ls : List Line) (stop : Nat) : Prop where
  under : u.declIndex < u.skipIndex
  inside : u.skipIndex < stop
  only : ∀ i, u.declIndex ≤ i → i < stop → (skipAt ls i = true ↔ i = u.skipIndex)

theorem Outline.pointsTo_unitAt {o : Outline} (h : o.WellFormed) {k : Nat} {b : TestBlock}
    (hb : o.blocks[k]? = some b) {above below : List Line} {skip : Line}
    (hm : b.MarkedBy above skip below) :
    (b.unitAt (o.above k).length).PointsTo o.lines ((o.above k).length + b.lines.length) := by
  have hlen : b.lines.length = above.length + 1 + (below.length + 1) := by
    rw [TestBlock.lines, hm.body, List.length_cons, List.length_append, List.length_cons]
    omega
  have hskip : (b.unitAt (o.above k).length).skipIndex = (o.above k).length + 1 + above.length := by
    rw [TestBlock.unitAt, hm.findIdx]
  have hdecl : (b.unitAt (o.above k).length).declIndex = (o.above k).length := rfl
  constructor
  case under => omega
  case inside => omega
  case only =>
    intro i h₁ h₂
    have hat := hm.skipAt_iff (h.blocks b (List.mem_of_getElem? hb)) (i - (o.above k).length)
    rw [skipAt, ← getElem?_lines hb h₁ h₂] at hat
    rw [skipAt, hat]
    omega

/-- **Marking leaves one skip line in every block.**  Whatever lines are marked, the result has a
unit for each of its declarations, from the top to the bottom; and between a declaration and the
end of its block the skip line of the unit is the only one. -/
theorem one_skip_line_each (ls : List Line) :
    ∃ units, unitsOf (markBlocks ls) = .ok units ∧
      units.map (·.declIndex) = (markBlocks ls).findIdxs Line.isDeclaration ∧
      (units.Pairwise fun u v => u.declIndex < v.declIndex) ∧
      ∀ (k : Nat) (u : TestUnit), units[k]? = some u →
        u.PointsTo (markBlocks ls) (blockEnd units (markBlocks ls) k) := by
  obtain ⟨o, hwf, rfl⟩ : ∃ o : Outline, o.WellFormed ∧ o.lines = ls :=
    ⟨outline ls, wellFormed_outline ls, lines_outline ls⟩
  have hunits := unitsOf_mark hwf
  rw [markBlocks_lines hwf]
  refine ⟨_, hunits, ?_, unitsOf_ascending hunits, fun k u hu => ?_⟩
  · rw [declIndex_unitListAt]
    exact hwf.mark.headsAt_eq
  · -- Unit number `k` is that of block number `k`, at the index where the block stands.
    rw [getElem?_unitListAt, Option.map_eq_some_iff] at hu
    obtain ⟨b, hb, rfl⟩ := hu
    obtain ⟨above, skip, below, hm⟩ := Outline.exists_markedBy b (List.mem_of_getElem? hb)
    have hend : blockEnd (TestBlock.unitListAt o.preamble.length o.mark.blocks) o.mark.lines k =
        (o.mark.above k).length + b.lines.length := Outline.blockEnd_eq hb
    have hplace : o.preamble.length + ((o.mark.blocks.take k).flatMap TestBlock.lines).length =
        (o.mark.above k).length := (List.length_append ..).symm
    rw [hend, hplace]
    exact Outline.pointsTo_unitAt hwf.mark hb hm

/-- A declaration that contains the statement, a check without an ending, and lines above the first
declaration. -/
theorem one_skip_line_each_sample :
    let ls := [Line.plainSkip Line.lf, text "test " ++ Mark.skipStatement, Line.plainSkip Line.lf,
      Line.plainSkip Line.crlf, text "test \x7b\r\n", Line.crlf,
      text "    if (builtin.zig_backend == .stage2_arm) return error.SkipZigTest;"]
    ∃ units u, unitsOf (markBlocks ls) = .ok units ∧ units[1]? = some u ∧
      (u.declIndex, u.skipIndex, blockEnd units (markBlocks ls) 1) = (3, 6, 7) ∧
      u.PointsTo (markBlocks ls) 7 := by
  intro ls
  have hsecond : (unitsOf (markBlocks ls)).map (fun units => units[1]?.map fun u =>
      (u.declIndex, u.skipIndex, blockEnd units (markBlocks ls) 1)) = .ok (some (3, 6, 7)) := by
    decide +kernel
  obtain ⟨units, hunits, -, -, hpoints⟩ := one_skip_line_each ls
  rw [hunits] at hsecond
  obtain ⟨u, hu, hindex⟩ := Option.map_eq_some_iff.mp (Except.ok.inj hsecond)
  have hend : blockEnd units (markBlocks ls) 1 = 7 := (Prod.mk.inj (Prod.mk.inj hindex).2).2
  exact ⟨units, u, hunits, hu, hindex, hend ▸ hpoints 1 u hu⟩

/-! ## Marking again -/

theorem Outline.mark_mark (o : Outline) : o.mark.mark = o.mark := by
  refine Outline.ext rfl ?_
  refine (List.map_congr_left fun b hb => ?_).trans (List.map_id _)
  obtain ⟨above, skip, below, hm⟩ := exists_markedBy b hb
  exact hm.mark_eq

theorem markBlocks_markBlocks (ls : List Line) :
    markBlocks (markBlocks ls) = markBlocks ls := by
  rw [markBlocks_eq ls, markBlocks_lines (wellFormed_outline ls).mark, Outline.mark_mark]

theorem isSplit_markBlocks (t : Text) : IsSplit (markBlocks (splitLines t)) := by
  rw [markBlocks_eq]
  exact (isSplit_outline t).mark

/-- **Marking is done once and for all.**  Marked lines are left as they are; and the marked lines
of a text are read again as they were written, so that marking the text of them gives it back. -/
theorem markBlocks_stable :
    (∀ ls : List Line, markBlocks (markBlocks ls) = markBlocks ls) ∧
      ∀ t : Text, let marked := markBlocks (splitLines t)
        splitLines marked.flatten = marked ∧
          (markBlocks (splitLines marked.flatten)).flatten = marked.flatten := by
  refine ⟨markBlocks_markBlocks, fun t => ?_⟩
  have hread := splitLines_flatten (isSplit_markBlocks t)
  exact ⟨hread, by rw [hread, markBlocks_markBlocks]⟩

end SkipAudit
