/-
# The units of a file, block by block

`unitsOf` goes through the lines of a file with an index and an open block.  Cut at the
declarations, it asks every block for its unit, from the top, and fails at the first block
that has none (`unitsOf_lines`); the declarations of the units stand at the heads of the
blocks, and so in ascending order (`unitsOf_ascending`).  A marked file has a unit for every
block, whatever its lines are (`unitsOf_mark`).
-/
import SkipAudit.Proofs.Marking

namespace SkipAudit

/-- The last skip line among lines from index `i` on, with its index, or else `s`. -/
def lastSkipFrom : Nat → Option (Nat × Line) → List Line → Option (Nat × Line)
  | _, s, [] => s
  | i, s, l :: ls => lastSkipFrom (i + 1) (if l.isSkip then some (i, l) else s) ls

/-- The block as it stands in the reader after its last line, its head being at index `i`. -/
def TestBlock.pendingAt (i : Nat) (b : TestBlock) : PendingUnit :=
  ⟨i, b.head, lastSkipFrom (i + 1) none b.body⟩

/-- The units of blocks, the first of which has its head at index `i`. -/
def unitsAt : Nat → List TestBlock → Except StructureError (List TestUnit)
  | _, [] => .ok []
  | i, b :: bs => do
      let u ← (b.pendingAt i).close
      let us ← unitsAt (i + b.lines.length) bs
      return u :: us

/-- The indices of the heads of blocks, the first being at index `i`. -/
def headsAt : Nat → List TestBlock → List Nat
  | _, [] => []
  | i, b :: bs => i :: headsAt (i + b.lines.length) bs

/-! ## Reading -/

theorem unitsFrom_preamble {ls : List Line} (h : ∀ l ∈ ls, l.isDeclaration = false) (i : Nat)
    (rest : List Line) :
    unitsFrom i none (ls ++ rest) = unitsFrom (i + ls.length) none rest := by
  induction ls generalizing i with
  | nil => rfl
  | cons l ls ih =>
      have hls := ih (fun m hm => h m (List.mem_cons_of_mem _ hm)) (i + 1)
      rw [List.cons_append, unitsFrom, if_neg (by simp [h l List.mem_cons_self]), Option.map_none,
        ite_self, hls, List.length_cons, Nat.add_right_comm, Nat.add_assoc]

theorem unitsFrom_body {ls : List Line} (h : ∀ l ∈ ls, l.isDeclaration = false) (i : Nat)
    (b : PendingUnit) (rest : List Line) :
    unitsFrom i (some b) (ls ++ rest) =
      unitsFrom (i + ls.length) (some { b with skip := lastSkipFrom i b.skip ls }) rest := by
  induction ls generalizing i b with
  | nil => rfl
  | cons l ls ih =>
      have hls := ih (fun m hm => h m (List.mem_cons_of_mem _ hm)) (i + 1)
      rw [List.cons_append, unitsFrom, if_neg (by simp [h l List.mem_cons_self]), lastSkipFrom,
        List.length_cons, Nat.add_comm ls.length 1, ← Nat.add_assoc]
      by_cases hl : l.isSkip = true
      · rw [if_pos hl, if_pos hl, Option.map_some, hls]
      · rw [if_neg hl, if_neg hl, hls]

theorem unitsFrom_open {bs : List TestBlock} (h : ∀ b ∈ bs, b.WellFormed) (i : Nat)
    (b : PendingUnit) :
    unitsFrom i (some b) (bs.flatMap TestBlock.lines) = do
      let u ← b.close
      let us ← unitsFrom i none (bs.flatMap TestBlock.lines)
      return u :: us := by
  cases bs with
  | nil => rfl
  | cons c cs =>
      have hc := (h c List.mem_cons_self).head
      simp only [List.flatMap_cons, TestBlock.lines, List.cons_append, unitsFrom, if_pos hc]

theorem unitsFrom_blocks {bs : List TestBlock} (h : ∀ b ∈ bs, b.WellFormed) (i : Nat) :
    unitsFrom i none (bs.flatMap TestBlock.lines) = unitsAt i bs := by
  induction bs generalizing i with
  | nil => rfl
  | cons b bs ih =>
      have hb := h b List.mem_cons_self
      have hbs : ∀ c ∈ bs, c.WellFormed := fun c hc => h c (List.mem_cons_of_mem _ hc)
      rw [List.flatMap_cons, TestBlock.lines, List.cons_append, unitsFrom, if_pos hb.head,
        unitsFrom_body hb.body, unitsFrom_open hbs, ih hbs, unitsAt, TestBlock.add_length_lines]
      rfl

theorem unitsOf_lines {o : Outline} (h : o.WellFormed) :
    unitsOf o.lines = unitsAt o.preamble.length o.blocks := by
  rw [unitsOf, Outline.lines, unitsFrom_preamble h.preamble, unitsFrom_blocks h.blocks,
    Nat.zero_add]

/-! ## Declarations ascend -/

theorem declIndex_close {p : PendingUnit} {u : TestUnit} (h : p.close = .ok u) :
    u.declIndex = p.declIndex := by
  rw [PendingUnit.close] at h
  split at h
  · cases h
  · cases h
    rfl

theorem declIndex_unitsAt {i : Nat} {bs : List TestBlock} {us : List TestUnit}
    (h : unitsAt i bs = .ok us) : us.map (·.declIndex) = headsAt i bs := by
  induction bs generalizing i us with
  | nil =>
      cases h
      rfl
  | cons b bs ih =>
      rw [unitsAt] at h
      cases hu : (b.pendingAt i).close with
      | error e => rw [hu] at h; cases h
      | ok u =>
          cases hus : unitsAt (i + b.lines.length) bs with
          | error e => rw [hu, hus] at h; cases h
          | ok us' =>
              rw [hu, hus] at h
              cases h
              rw [List.map_cons, headsAt, ih hus, declIndex_close hu, TestBlock.pendingAt]

theorem le_of_mem_headsAt {i j : Nat} {bs : List TestBlock} (h : j ∈ headsAt i bs) : i ≤ j := by
  induction bs generalizing i with
  | nil => exact absurd h List.not_mem_nil
  | cons b bs ih =>
      rcases List.mem_cons.mp h with rfl | h
      · exact Nat.le_refl _
      · exact Nat.le_trans (Nat.le_add_right _ _) (ih h)

theorem pairwise_headsAt (i : Nat) (bs : List TestBlock) : (headsAt i bs).Pairwise (· < ·) := by
  induction bs generalizing i with
  | nil => exact .nil
  | cons b bs ih =>
      refine .cons (fun j hj => ?_) (ih _)
      have hle := le_of_mem_headsAt hj
      rw [TestBlock.add_length_lines] at hle
      omega

theorem unitsOf_ascending {ls : List Line} {us : List TestUnit} (h : unitsOf ls = .ok us) :
    us.Pairwise fun u v => u.declIndex < v.declIndex := by
  rw [← lines_outline ls, unitsOf_lines (wellFormed_outline ls)] at h
  have hheads := pairwise_headsAt (outline ls).preamble.length (outline ls).blocks
  rw [← declIndex_unitsAt h] at hheads
  exact List.pairwise_map.mp hheads

/-! ## The units of marked blocks -/

namespace TestBlock

/-- The first skip line of the block is provisional. -/
def isProvisional (b : TestBlock) : Bool := (b.body.find? Line.isSkip).any Line.isProvisional

/-- The unit of a marked block with its head at index `i`. -/
def unitAt (i : Nat) (b : TestBlock) : TestUnit where
  declIndex := i
  skipIndex := i + 1 + b.body.findIdx Line.isSkip
  name := PendingUnit.nameOf b.head
  provisional := b.isProvisional
  selected := !b.isProvisional
  failure := none

/-- The units of marked blocks, the first of which has its head at index `i`. -/
def unitListAt : Nat → List TestBlock → List TestUnit
  | _, [] => []
  | i, b :: bs => b.unitAt i :: unitListAt (i + b.lines.length) bs

variable {b : TestBlock} {above below : List Line} {skip : Line}

theorem MarkedBy.find (h : b.MarkedBy above skip below) :
    b.body.find? Line.isSkip = some skip := by
  rw [List.find?_eq_some_iff_append]
  exact ⟨h.isSkip, above, below, h.body, fun l hl => by simp [h.above l hl]⟩

theorem MarkedBy.findIdx (h : b.MarkedBy above skip below) :
    b.body.findIdx Line.isSkip = above.length := by
  have habove : above.findIdx Line.isSkip = above.length :=
    List.findIdx_eq_length.mpr h.above
  rw [h.body, List.findIdx_append, habove, if_neg (Nat.lt_irrefl _), List.findIdx_cons,
    h.isSkip]
  exact Nat.zero_add _

end TestBlock

theorem lastSkipFrom_of_bare {ls : List Line} (h : ∀ l ∈ ls, l.isSkip = false) (i : Nat)
    (s : Option (Nat × Line)) : lastSkipFrom i s ls = s := by
  induction ls generalizing i with
  | nil => rfl
  | cons l ls ih =>
      rw [lastSkipFrom, if_neg (by simp [h l List.mem_cons_self]),
        ih fun m hm => h m (List.mem_cons_of_mem _ hm)]

/-- Above the last skip line anything may stand. -/
theorem lastSkipFrom_append {below : List Line} {skip : Line} (hs : skip.isSkip = true)
    (hb : ∀ l ∈ below, l.isSkip = false) (above : List Line) (i : Nat)
    (s : Option (Nat × Line)) :
    lastSkipFrom i s (above ++ skip :: below) = some (i + above.length, skip) := by
  induction above generalizing i s with
  | nil => rw [List.nil_append, lastSkipFrom, if_pos hs, lastSkipFrom_of_bare hb]; rfl
  | cons l ls ih =>
      rw [List.cons_append, lastSkipFrom, ih, List.length_cons, Nat.add_comm ls.length 1,
        Nat.add_assoc]

theorem close_pendingAt_of_last {b : TestBlock} {above below : List Line} {skip : Line}
    (hbody : b.body = above ++ skip :: below) (hs : skip.isSkip = true)
    (hb : ∀ l ∈ below, l.isSkip = false) (i : Nat) :
    (b.pendingAt i).close =
      .ok ⟨i, i + 1 + above.length, PendingUnit.nameOf b.head, skip.isProvisional,
        !skip.isProvisional, none⟩ := by
  rw [PendingUnit.close, TestBlock.pendingAt, hbody, lastSkipFrom_append hs hb]

theorem close_pendingAt {b : TestBlock} {above below : List Line} {skip : Line}
    (h : b.MarkedBy above skip below) (i : Nat) : (b.pendingAt i).close = .ok (b.unitAt i) := by
  have hprov : b.isProvisional = skip.isProvisional := by
    rw [TestBlock.isProvisional, h.find, Option.any_some]
  rw [close_pendingAt_of_last h.body h.isSkip h.below, TestBlock.unitAt, hprov, h.findIdx]

theorem declIndex_unitListAt (i : Nat) (bs : List TestBlock) :
    (TestBlock.unitListAt i bs).map (·.declIndex) = headsAt i bs := by
  induction bs generalizing i with
  | nil => rfl
  | cons b bs ih => rw [TestBlock.unitListAt, List.map_cons, ih, headsAt, TestBlock.unitAt]

/-- What does not depend on where a block stands can be read off the blocks. -/
theorem map_unitListAt {α : Type} {f : TestUnit → α} {g : TestBlock → α}
    (h : ∀ i b, f (b.unitAt i) = g b) (i : Nat) (bs : List TestBlock) :
    (TestBlock.unitListAt i bs).map f = bs.map g := by
  induction bs generalizing i with
  | nil => rfl
  | cons b bs ih => rw [TestBlock.unitListAt, List.map_cons, ih, h, List.map_cons]

theorem length_unitListAt (i : Nat) (bs : List TestBlock) :
    (TestBlock.unitListAt i bs).length = bs.length := by
  simpa using congrArg List.length (map_unitListAt (f := fun _ => ()) (fun _ _ => rfl) i bs)

theorem unitsAt_marked {bs : List TestBlock}
    (h : ∀ b ∈ bs, ∃ above skip below, b.MarkedBy above skip below) (i : Nat) :
    unitsAt i bs = .ok (TestBlock.unitListAt i bs) := by
  induction bs generalizing i with
  | nil => rfl
  | cons b bs ih =>
      obtain ⟨above, skip, below, hb⟩ := h b List.mem_cons_self
      rw [unitsAt, close_pendingAt hb, ih fun c hc => h c (List.mem_cons_of_mem _ hc)]
      rfl

theorem unitsOf_mark {o : Outline} (h : o.WellFormed) :
    unitsOf o.mark.lines = .ok (TestBlock.unitListAt o.preamble.length o.mark.blocks) := by
  rw [unitsOf_lines h.mark, unitsAt_marked Outline.exists_markedBy]
  rfl

/-- Marked lines have units, wherever they come from. -/
theorem unitsOf_markBlocks (ls : List Line) :
    unitsOf (markBlocks ls) =
      .ok (TestBlock.unitListAt (outline ls).preamble.length (outline ls).mark.blocks) := by
  rw [markBlocks_eq]
  exact unitsOf_mark (wellFormed_outline ls)

end SkipAudit
