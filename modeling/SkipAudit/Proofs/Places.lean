/-
# Where a block stands

Outside a file its blocks are known by an index: a unit has the index of its declaration, a
result brings it back, and the lines of the file are cut and dropped in between.  Here the index
is followed.

    outline_lines           lines have one outline
    getElem?_unitListAt     the unit of a block has the index at which the block stands
    blockAt?_settle         and the block is found again where its declaration has moved to
    SourceFile.ofText_eq    all of which is about the file that a text makes

A declaration moves up by what is dropped above it (`settledIndex`).  Nothing is assumed of the
lines above it: some of them may be read differently once they have lost their tags, but they
still end where the declaration begins.
-/
import SkipAudit.Proofs.Rerun

namespace SkipAudit

/-! ## Lines have one outline -/

theorem outline_append {ls : List Line} (h : ∀ l ∈ ls, l.isDeclaration = false)
    (rest : List Line) :
    outline (ls ++ rest) = ⟨ls ++ (outline rest).preamble, (outline rest).blocks⟩ := by
  induction ls with
  | nil => rfl
  | cons l ls ih =>
      rw [List.cons_append, outline, ih fun m hm => h m (List.mem_cons_of_mem _ hm), Outline.cons,
        if_neg (by simp [h l List.mem_cons_self]), List.cons_append]

theorem outline_blocks {bs : List TestBlock} (h : ∀ b ∈ bs, b.WellFormed) :
    outline (bs.flatMap TestBlock.lines) = ⟨[], bs⟩ := by
  induction bs with
  | nil => rfl
  | cons b bs ih =>
      have hb := h b List.mem_cons_self
      have hbs : ∀ c ∈ bs, c.WellFormed := fun c hc => h c (List.mem_cons_of_mem _ hc)
      rw [List.flatMap_cons, TestBlock.lines, List.cons_append, outline, outline_append hb.body,
        ih hbs, Outline.cons, if_pos hb.head, List.append_nil]

theorem outline_lines {o : Outline} (h : o.WellFormed) : outline o.lines = o := by
  rw [Outline.lines, outline_append h.preamble, outline_blocks h.blocks, List.append_nil]

/-! ## The block at an index -/

/-- The block that is declared at index `i`: the declaration, and the lines up to the next
one. -/
def blockAt? (i : Nat) (ls : List Line) : Option TestBlock :=
  match ls.drop i with
  | [] => none
  | l :: rest =>
      if l.isDeclaration then some ⟨l, rest.takeWhile (!·.isDeclaration)⟩ else none

/-- The lines are none, or the first of them is a declaration. -/
def AtCut (ls : List Line) : Prop := ∀ l ∈ ls.head?, l.isDeclaration = true

theorem atCut_nil : AtCut [] := fun _ h => absurd h (by simp)

theorem atCut_cons {l : Line} (h : l.isDeclaration = true) (ls : List Line) : AtCut (l :: ls) :=
  fun _ hm => Option.some.inj hm ▸ h

theorem takeWhile_not_isDeclaration {ls rest : List Line}
    (h : ∀ l ∈ ls, l.isDeclaration = false) (hrest : AtCut rest) :
    (ls ++ rest).takeWhile (!·.isDeclaration) = ls := by
  rw [List.takeWhile_append_of_pos fun l hl => by simp [h l hl]]
  cases rest with
  | nil => exact List.append_nil _
  | cons l rest => rw [List.takeWhile_cons_of_neg (by simp [hrest l rfl]), List.append_nil]

theorem blockAt?_append_cons {head : Line} (h : head.isDeclaration = true)
    (above rest : List Line) :
    blockAt? above.length (above ++ head :: rest) =
      some ⟨head, rest.takeWhile (!·.isDeclaration)⟩ := by
  rw [blockAt?, List.drop_left]
  exact if_pos h

theorem TestBlock.WellFormed.blockAt? {b : TestBlock} (hb : b.WellFormed) (above : List Line)
    {rest : List Line} (hrest : AtCut rest) :
    blockAt? above.length (above ++ (b.lines ++ rest)) = some b := by
  rw [TestBlock.lines, List.cons_append, blockAt?_append_cons hb.head,
    takeWhile_not_isDeclaration hb.body hrest]

/-! ## The blocks of an outline -/

namespace Outline

/-- The lines above block number `k`. -/
def above (o : Outline) (k : Nat) : List Line :=
  o.preamble ++ (o.blocks.take k).flatMap TestBlock.lines

/-- The lines below block number `k`. -/
def below (o : Outline) (k : Nat) : List Line :=
  (o.blocks.drop (k + 1)).flatMap TestBlock.lines

/-- The outline with another block in the place of block number `k`. -/
def setBlock (k : Nat) (b : TestBlock) (o : Outline) : Outline :=
  { o with blocks := o.blocks.set k b }

variable {o : Outline} {k : Nat} {b : TestBlock}

theorem lines_eq (hb : o.blocks[k]? = some b) : o.lines = o.above k ++ (b.lines ++ o.below k) := by
  obtain ⟨hk, rfl⟩ := List.getElem?_eq_some_iff.mp hb
  rw [lines, above, below, List.append_assoc, ← List.flatMap_cons, ← List.flatMap_append,
    List.getElem_cons_drop, List.take_append_drop]

theorem above_setBlock (o : Outline) (k : Nat) (b : TestBlock) :
    (o.setBlock k b).above k = o.above k := by
  rw [above, above, setBlock, List.take_set_of_le (Nat.le_refl k)]

theorem lines_setBlock (hb : o.blocks[k]? = some b) (b' : TestBlock) :
    (o.setBlock k b').lines = o.above k ++ (b'.lines ++ o.below k) := by
  obtain ⟨hk, -⟩ := List.getElem?_eq_some_iff.mp hb
  have hset : (o.setBlock k b').blocks[k]? = some b' := List.getElem?_set_self hk
  have hbelow : (o.setBlock k b').below k = o.below k := by
    rw [below, below, setBlock, List.drop_set_of_lt (Nat.lt_succ_self k)]
  rw [lines_eq hset, above_setBlock, hbelow]

theorem atCut_blocks {bs : List TestBlock} (h : ∀ b ∈ bs, b.WellFormed) :
    AtCut (bs.flatMap TestBlock.lines) := by
  cases bs with
  | nil => exact atCut_nil
  | cons b bs => exact atCut_cons (h b List.mem_cons_self).head _

theorem WellFormed.mem_drop (h : o.WellFormed) : ∀ b ∈ o.blocks.drop k, b.WellFormed :=
  fun b hb => h.blocks b (List.mem_of_mem_drop hb)

theorem WellFormed.setBlock (h : o.WellFormed) (hb : b.WellFormed) :
    (o.setBlock k b).WellFormed := by
  refine ⟨h.preamble, fun c hc => ?_⟩
  rcases List.mem_or_eq_of_mem_set hc with hc | rfl
  · exact h.blocks c hc
  · exact hb

theorem WellFormed.blockAt? (h : o.WellFormed) (hb : o.blocks[k]? = some b) :
    SkipAudit.blockAt? (o.above k).length o.lines = some b := by
  rw [lines_eq hb]
  exact (h.blocks b (List.mem_of_getElem? hb)).blockAt? _ (atCut_blocks h.mem_drop)

end Outline

/-- The unit of a marked block has the index at which the block stands. -/
theorem getElem?_unitListAt (i k : Nat) (bs : List TestBlock) :
    (TestBlock.unitListAt i bs)[k]? =
      bs[k]?.map (·.unitAt (i + ((bs.take k).flatMap TestBlock.lines).length)) := by
  induction bs generalizing i k with
  | nil => rfl
  | cons b bs ih =>
      cases k with
      | zero => rfl
      | succ k =>
          rw [TestBlock.unitListAt, List.getElem?_cons_succ, ih, List.getElem?_cons_succ,
            List.take_succ_cons, List.flatMap_cons, List.length_append, Nat.add_assoc]

/-! ## After settling -/

/-- Settling goes from top to bottom: what stands below a line has no part in what becomes of
it. -/
theorem settleFrom_append (units : List TestUnit) (i : Nat) (s : SettleState)
    (ls rest : List Line) :
    ∃ s', settleFrom units i s (ls ++ rest) =
      settleFrom units i s ls ++ settleFrom units (i + ls.length) s' rest := by
  induction ls generalizing i s with
  | nil => exact ⟨s, rfl⟩
  | cons l ls ih =>
      have hlen : i + 1 + ls.length = i + (l :: ls).length := by
        rw [List.length_cons]
        omega
      obtain ⟨s', heq⟩ := hlen ▸ ih (i + 1) (s.next units i l)
      refine ⟨s', ?_⟩
      rw [List.cons_append, settleFrom_cons, settleFrom_cons, heq, List.append_assoc]

/-- Where the line at index `i` stands when the file is settled: behind what is left of the
lines above it. -/
def settledIndex (units : List TestUnit) (ls : List Line) (i : Nat) : Nat :=
  (settle units (ls.take i)).length

theorem Outline.take_above {o : Outline} {k : Nat} {b : TestBlock} (hb : o.blocks[k]? = some b) :
    o.lines.take (o.above k).length = o.above k := by
  rw [Outline.lines_eq hb, List.take_left]

section Settled

variable {o : Outline} (h : o.WellFormed) {k : Nat} {b : TestBlock} (hb : o.blocks[k]? = some b)
  (units : List TestUnit)

include h hb

theorem settle_lines_above :
    ∃ rest, AtCut rest ∧ settle units o.lines = settle units (o.above k) ++
      ((b.settle (clearedAt units (o.above k).length)).lines ++ rest) := by
  have hwf := h.blocks b (List.mem_of_getElem? hb)
  have hbelow : ∀ c ∈ o.blocks.drop (k + 1), c.WellFormed := h.mem_drop
  obtain ⟨s, heq⟩ := settleFrom_append units 0 .outside (o.above k) (b.lines ++ o.below k)
  rw [Outline.lines_eq hb, settle, heq, TestBlock.lines, List.cons_append, settleFrom,
    if_pos hwf.head, Outline.below, settleFrom_body hwf.body hbelow, Nat.zero_add]
  refine ⟨_, ?_, rfl⟩
  rw [settleFrom_blocks hbelow]
  generalize o.blocks.drop (k + 1) = bs at hbelow
  cases bs with
  | nil => exact atCut_nil
  | cons c cs => exact atCut_cons (hbelow c List.mem_cons_self).head _

/-- A block is found where its declaration has moved to. -/
theorem blockAt?_settle_of_wellFormed
    (hc : (b.settle (clearedAt units (o.above k).length)).WellFormed) :
    blockAt? (settledIndex units o.lines (o.above k).length) (settle units o.lines) =
      some (b.settle (clearedAt units (o.above k).length)) := by
  obtain ⟨rest, hrest, heq⟩ := settle_lines_above h hb units
  rw [heq, settledIndex, Outline.take_above hb]
  exact hc.blockAt? _ hrest

/-- It may end early, at a line that has become a declaration. -/
theorem blockAt?_settle :
    ∃ rest, AtCut rest ∧
      blockAt? (settledIndex units o.lines (o.above k).length) (settle units o.lines) =
        some ⟨b.head, ((b.settle (clearedAt units (o.above k).length)).body ++ rest).takeWhile
          (!·.isDeclaration)⟩ := by
  obtain ⟨rest, hrest, heq⟩ := settle_lines_above h hb units
  refine ⟨rest, hrest, ?_⟩
  rw [heq, settledIndex, Outline.take_above hb, TestBlock.lines, List.cons_append]
  exact blockAt?_append_cons (h.blocks b (List.mem_of_getElem? hb)).head _ _

end Settled

/-! ## The file that a text makes -/

namespace Outline

/-- The file of a text with this outline. -/
def file (o : Outline) (path : Path) : SourceFile :=
  ⟨path, o.mark.lines, TestBlock.unitListAt o.preamble.length o.mark.blocks⟩

theorem getElem?_units_file (o : Outline) (path : Path) (k : Nat) :
    (o.file path).units[k]? = o.mark.blocks[k]?.map (·.unitAt (o.mark.above k).length) := by
  rw [file, getElem?_unitListAt, above, List.length_append]
  rfl

/-- However the units of the file are changed, a block is cleared when its own unit is. -/
theorem clearedAt_map_file {o : Outline} {k : Nat} {b : TestBlock}
    (hb : o.mark.blocks[k]? = some b) (path : Path) {g : TestUnit → TestUnit}
    (hg : ∀ u, (g u).declIndex = u.declIndex) :
    clearedAt ((o.file path).units.map g) (o.mark.above k).length =
      (g (b.unitAt (o.mark.above k).length)).isCleared := by
  have hu : (o.file path).units[k]? = some (b.unitAt (o.mark.above k).length) := by
    rw [getElem?_units_file, hb, Option.map_some]
  have hdecl : ((o.file path).units.map g).map (·.declIndex) =
      headsAt o.preamble.length o.mark.blocks := by
    rw [List.map_map]
    exact (List.map_congr_left fun u _ => hg u).trans (declIndex_unitListAt _ _)
  have hasc : ((o.file path).units.map g).Pairwise fun u v => u.declIndex < v.declIndex :=
    List.pairwise_map.mp (hdecl ▸ pairwise_headsAt _ _)
  rw [← clearedAt_declIndex hasc (List.mem_map_of_mem (List.mem_of_getElem? hu)), hg]
  rfl

end Outline

theorem SourceFile.ofText_eq (path : Path) (t : Text) :
    ofText path t = .ok ((outline (splitLines t)).file path) := by
  have hwf := wellFormed_outline (splitLines t)
  have hlines := lines_outline (splitLines t)
  have hunits := Outline.unitsOf_markBlocks hwf (isSplit_outline t)
  rw [hlines, flatten_splitLines] at hunits
  rw [ofText, hunits, markBlocks_eq]
  rfl

end SkipAudit
