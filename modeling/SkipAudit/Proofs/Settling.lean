/-
# Settling, block by block

`settle` decides about a line from where it stands: which unit the block belongs to, whether
anything but the declaration has been written, whether a blank line is to go.  On an outline it
is one map over the blocks, each with its own answer to the one question that matters, whether
its unit is cleared (`settle_lines`).

For a block with one skip line the state disappears altogether: the skip line stays without
its tags (`MarkedBy.settle_kept`), or it goes, and a blank line after it goes too when nothing
stands above it (`MarkedBy.settle_cleared`).
-/
import SkipAudit.Block.Settling
import SkipAudit.Proofs.Units

namespace SkipAudit

/-- The line as it is written if it is not dropped. -/
def Line.persisted (l : Line) : Line :=
  if !l.isDeclaration && l.isSkip then l.withoutTag else l

/-- Settle the lines under a declaration. -/
def settleBody : SettleState → List Line → List Line
  | _, [] => []
  | s, l :: ls =>
      if l.isSkip then
        if s.cleared then settleBody { s with dropBlank := s.bare } ls
        else l.withoutTag :: settleBody { s with bare := false, dropBlank := false } ls
      else if s.dropBlank && l.isBlank then settleBody { s with dropBlank := false } ls
      else l :: settleBody { s with bare := false, dropBlank := false } ls

/-- Settle a block, its unit being cleared or not. -/
def TestBlock.settle (cleared : Bool) (b : TestBlock) : TestBlock :=
  ⟨b.head, settleBody ⟨cleared, true, false⟩ b.body⟩

/-- Settle a file, given for every block whether its unit is cleared. -/
def Outline.settle (cleared : List Bool) (o : Outline) : Outline :=
  ⟨o.preamble.map Line.persisted, List.zipWith TestBlock.settle cleared o.blocks⟩

/-! ## Lines that are dropped, and lines that stay -/

namespace SettleState

/-- The line that comes next is dropped. -/
def drops (s : SettleState) (l : Line) : Bool :=
  !l.isDeclaration && if l.isSkip then s.cleared else s.dropBlank && l.isBlank

/-- The state behind the line that comes next, which is at index `i`. -/
def next (units : List TestUnit) (i : Nat) (s : SettleState) (l : Line) : SettleState :=
  if l.isDeclaration then ⟨clearedAt units i, true, false⟩
  else if s.drops l then { s with dropBlank := l.isSkip && s.bare }
  else { s with bare := false, dropBlank := false }

end SettleState

/-- One line is settled. -/
theorem settleFrom_cons (units : List TestUnit) (i : Nat) (s : SettleState) (l : Line)
    (ls : List Line) :
    settleFrom units i s (l :: ls) =
      (if s.drops l then [] else [l.persisted]) ++
        settleFrom units (i + 1) (s.next units i l) ls := by
  rw [settleFrom, SettleState.next, SettleState.drops, Line.persisted]
  by_cases hd : l.isDeclaration = true
  · simp [hd]
  · by_cases hs : l.isSkip = true
    · by_cases hc : s.cleared = true <;> simp [hd, hs, hc]
    · by_cases hb : (s.dropBlank && l.isBlank) = true <;> simp [hd, hs, hb]

theorem settleFrom_eq_map (units : List TestUnit) (i : Nat) (s : SettleState) (ls : List Line) :
    ∃ kept : List Line, kept.Sublist ls ∧ settleFrom units i s ls = kept.map Line.persisted := by
  induction ls generalizing i s with
  | nil => exact ⟨[], .slnil, rfl⟩
  | cons l ls ih =>
      obtain ⟨kept, hsub, heq⟩ := ih (i + 1) (s.next units i l)
      rw [settleFrom_cons, heq]
      by_cases hl : s.drops l = true
      · exact ⟨kept, hsub.cons l, by rw [if_pos hl, List.nil_append]⟩
      · exact ⟨l :: kept, hsub.cons_cons l, by rw [if_neg hl, List.singleton_append, List.map_cons]⟩

theorem Line.isPiece_persisted {l : Line} (h : l.IsPiece) : l.persisted.IsPiece := by
  rw [Line.persisted]
  split
  · rename_i hs
    rw [Bool.and_eq_true] at hs
    exact Line.isPiece_withoutTag hs.2 h
  · exact h

theorem Line.isTerminated_persisted {l : Line} (h : l.isTerminated = true) :
    l.persisted.isTerminated = true := by
  rw [Line.persisted]
  split
  · exact Line.isTerminated_withoutTag h
  · exact h

/-- What is written back survives being read again. -/
theorem IsSplit.settle {ls : List Line} (h : IsSplit ls) (units : List TestUnit) :
    IsSplit (settle units ls) := by
  obtain ⟨kept, hsub, heq⟩ := settleFrom_eq_map units 0 .outside ls
  have hkept := h.sublist hsub
  rw [SkipAudit.settle, heq]
  refine ⟨fun m hm => ?_, List.pairwise_map.mpr (hkept.terminated.imp Line.isTerminated_persisted)⟩
  obtain ⟨l, hl, rfl⟩ := List.mem_map.mp hm
  exact Line.isPiece_persisted (hkept.piece l hl)

/-! ## Settling as a map on outlines -/

namespace SettleState

theorem drops_outside (l : Line) : outside.drops l = false := by
  rw [drops, outside, Bool.false_and, ite_self, Bool.and_false]

/-- No line but a declaration leads into a block. -/
theorem next_outside (units : List TestUnit) (i : Nat) {l : Line} (h : l.isDeclaration = false) :
    outside.next units i l = outside := by
  rw [next, if_neg (by simp [h]), if_neg (by simp [drops_outside])]
  rfl

end SettleState

theorem settleFrom_preamble {ls : List Line} (h : ∀ l ∈ ls, l.isDeclaration = false)
    (units : List TestUnit) (i : Nat) (rest : List Line) :
    settleFrom units i .outside (ls ++ rest) =
      ls.map Line.persisted ++ settleFrom units (i + ls.length) .outside rest := by
  induction ls generalizing i with
  | nil => rfl
  | cons l ls ih =>
      obtain ⟨hl, hls⟩ := List.forall_mem_cons.mp h
      rw [List.cons_append, settleFrom_cons, SettleState.drops_outside, if_neg Bool.false_ne_true,
        SettleState.next_outside units i hl, ih hls, List.map_cons, List.length_cons,
        Nat.add_right_comm, Nat.add_assoc, List.singleton_append, List.cons_append]

/-- The blocks do not notice what stands above them. -/
theorem settleFrom_blocks_state {bs : List TestBlock} (h : ∀ b ∈ bs, b.WellFormed)
    (units : List TestUnit) (i : Nat) (s s' : SettleState) :
    settleFrom units i s (bs.flatMap TestBlock.lines) =
      settleFrom units i s' (bs.flatMap TestBlock.lines) := by
  cases bs with
  | nil => rfl
  | cons b bs =>
      have hb := (h b List.mem_cons_self).head
      simp only [List.flatMap_cons, TestBlock.lines, List.cons_append, settleFrom, if_pos hb]

theorem settleFrom_body {ls : List Line} (h : ∀ l ∈ ls, l.isDeclaration = false)
    {bs : List TestBlock} (hbs : ∀ b ∈ bs, b.WellFormed) (units : List TestUnit) (i : Nat)
    (s : SettleState) :
    settleFrom units i s (ls ++ bs.flatMap TestBlock.lines) =
      settleBody s ls ++
        settleFrom units (i + ls.length) .outside (bs.flatMap TestBlock.lines) := by
  induction ls generalizing i s with
  | nil => exact settleFrom_blocks_state hbs units i s .outside
  | cons l ls ih =>
      have hls := fun s => ih (fun m hm => h m (List.mem_cons_of_mem _ hm)) (i + 1) s
      rw [List.cons_append, settleFrom, if_neg (by simp [h l List.mem_cons_self]), settleBody,
        List.length_cons, Nat.add_comm ls.length 1, ← Nat.add_assoc]
      simp only [hls]
      split
      · split <;> rfl
      · split <;> rfl

theorem settleFrom_blocks {bs : List TestBlock} (h : ∀ b ∈ bs, b.WellFormed)
    (units : List TestUnit) (i : Nat) (s : SettleState) :
    settleFrom units i s (bs.flatMap TestBlock.lines) =
      (List.zipWith TestBlock.settle ((headsAt i bs).map (clearedAt units)) bs).flatMap
        TestBlock.lines := by
  induction bs generalizing i s with
  | nil => rfl
  | cons b bs ih =>
      have hb := h b List.mem_cons_self
      have hbs : ∀ c ∈ bs, c.WellFormed := fun c hc => h c (List.mem_cons_of_mem _ hc)
      rw [List.flatMap_cons, TestBlock.lines, List.cons_append, settleFrom, if_pos hb.head,
        settleFrom_body hb.body hbs, ih hbs, headsAt, List.map_cons, List.zipWith_cons_cons,
        List.flatMap_cons, TestBlock.lines, TestBlock.add_length_lines]
      rfl

/-- The unit of a declaration is found by its index. -/
theorem clearedAt_declIndex {units : List TestUnit}
    (h : units.Pairwise fun u v => u.declIndex < v.declIndex) {u : TestUnit} (hu : u ∈ units) :
    clearedAt units u.declIndex = u.isCleared := by
  have hfind : units.find? (·.declIndex == u.declIndex) = some u := by
    obtain ⟨us, vs, rfl⟩ := List.append_of_mem hu
    obtain ⟨-, -, hlt⟩ := List.pairwise_append.mp h
    refine List.find?_eq_some_iff_append.mpr ⟨beq_self_eq_true _, us, vs, rfl, fun v hv => ?_⟩
    simpa using Nat.ne_of_lt (hlt v hv u List.mem_cons_self)
  rw [clearedAt, hfind]

theorem settle_lines {o : Outline} (h : o.WellFormed) {units : List TestUnit}
    (hu : units.map (·.declIndex) = headsAt o.preamble.length o.blocks) :
    settle units o.lines = (o.settle (units.map (·.isCleared))).lines := by
  have hasc : units.Pairwise fun u v => u.declIndex < v.declIndex := by
    have hheads := pairwise_headsAt o.preamble.length o.blocks
    rw [← hu] at hheads
    exact List.pairwise_map.mp hheads
  have hflags : (headsAt o.preamble.length o.blocks).map (clearedAt units) =
      units.map (·.isCleared) := by
    rw [← hu, List.map_map]
    exact List.map_congr_left fun u hu => clearedAt_declIndex hasc hu
  rw [SkipAudit.settle, Outline.lines, settleFrom_preamble h.preamble, settleFrom_blocks h.blocks,
    Nat.zero_add, hflags]
  rfl

/-! ## A block whose unit is cleared -/

/-- Lines go, and no other line comes. -/
theorem settleBody_cleared_sublist {s : SettleState} (hs : s.cleared = true) (ls : List Line) :
    (settleBody s ls).Sublist ls := by
  induction ls generalizing s with
  | nil => exact .slnil
  | cons l ls ih =>
      rw [settleBody]
      by_cases hl : l.isSkip = true
      · rw [if_pos hl, if_pos hs]
        exact (ih (s := { s with dropBlank := s.bare }) hs).cons l
      · rw [if_neg hl]
        split
        · exact (ih (s := { s with dropBlank := false }) hs).cons l
        · exact (ih (s := { s with bare := false, dropBlank := false }) hs).cons_cons l

/-- Every skip line goes. -/
theorem isSkip_of_mem_settleBody {s : SettleState} (hs : s.cleared = true) {ls : List Line} :
    ∀ l ∈ settleBody s ls, l.isSkip = false := by
  induction ls generalizing s with
  | nil => exact fun _ h => absurd h List.not_mem_nil
  | cons l ls ih =>
      rw [settleBody]
      by_cases hl : l.isSkip = true
      · rw [if_pos hl, if_pos hs]
        exact ih (s := { s with dropBlank := s.bare }) hs
      · rw [if_neg hl]
        split
        · exact ih (s := { s with dropBlank := false }) hs
        · exact List.forall_mem_cons.mpr ⟨Bool.eq_false_iff.mpr hl,
            ih (s := { s with bare := false, dropBlank := false }) hs⟩

namespace TestBlock

theorem settle_cleared_sublist (b : TestBlock) : (b.settle true).lines.Sublist b.lines :=
  (settleBody_cleared_sublist rfl b.body).cons_cons b.head

theorem WellFormed.settle_cleared {b : TestBlock} (h : b.WellFormed) :
    (b.settle true).WellFormed :=
  ⟨h.head, fun l hl => h.body l ((settleBody_cleared_sublist rfl b.body).subset hl)⟩

theorem isBare_settle_cleared (b : TestBlock) : (b.settle true).IsBare :=
  isSkip_of_mem_settleBody rfl

end TestBlock

/-! ## A block with one skip line -/

theorem settleBody_of_bare {ls : List Line} (h : ∀ l ∈ ls, l.isSkip = false)
    (cleared bare : Bool) : settleBody ⟨cleared, bare, false⟩ ls = ls := by
  induction ls generalizing bare with
  | nil => rfl
  | cons l ls ih =>
      rw [settleBody, if_neg (by simp [h l List.mem_cons_self]), if_neg (by simp),
        ih fun m hm => h m (List.mem_cons_of_mem _ hm)]

/-- Drop a blank line on top. -/
def dropBlank : List Line → List Line
  | [] => []
  | l :: ls => if l.isBlank then ls else l :: ls

theorem settleBody_dropBlank {ls : List Line} (h : ∀ l ∈ ls, l.isSkip = false)
    (cleared bare : Bool) : settleBody ⟨cleared, bare, true⟩ ls = dropBlank ls := by
  cases ls with
  | nil => rfl
  | cons l ls =>
      have hls := fun bare => settleBody_of_bare (fun m hm => h m (List.mem_cons_of_mem _ hm))
        cleared bare
      rw [settleBody, if_neg (by simp [h l List.mem_cons_self]), dropBlank]
      by_cases hb : l.isBlank = true
      · simp [hb, hls]
      · simp [hb, hls]

theorem settleBody_append {ls : List Line} (h : ∀ l ∈ ls, l.isSkip = false)
    (cleared bare : Bool) (rest : List Line) :
    settleBody ⟨cleared, bare, false⟩ (ls ++ rest) =
      ls ++ settleBody ⟨cleared, bare && ls.isEmpty, false⟩ rest := by
  induction ls generalizing bare with
  | nil => simp
  | cons l ls ih =>
      rw [List.cons_append, settleBody, if_neg (by simp [h l List.mem_cons_self]),
        if_neg (by simp), ih fun m hm => h m (List.mem_cons_of_mem _ hm)]
      simp

namespace TestBlock.MarkedBy

variable {b : TestBlock} {above below : List Line} {skip : Line}

theorem settle_kept (h : b.MarkedBy above skip below) :
    b.settle false = ⟨b.head, above ++ skip.withoutTag :: below⟩ := by
  rw [TestBlock.settle, h.body, settleBody_append h.above, settleBody, if_pos h.isSkip,
    if_neg (by simp), settleBody_of_bare h.below]

/-- Nothing but the skip line goes, and a blank line under it when it stood right under the
declaration. -/
theorem settle_cleared (h : b.MarkedBy above skip below) :
    b.settle true =
      ⟨b.head, above ++ if above.isEmpty then dropBlank below else below⟩ := by
  rw [TestBlock.settle, h.body, settleBody_append h.above, settleBody, if_pos h.isSkip,
    if_pos rfl]
  by_cases ha : above.isEmpty = true
  · simp [ha, settleBody_dropBlank h.below]
  · simp [ha, settleBody_of_bare h.below]

end TestBlock.MarkedBy

end SkipAudit
