/-
# Files in which every test passes

When every unit of a file is cleared, all skip lines of its blocks go (`cleaned`).  What is left
has none, and the next run puts one into every block and takes it out again.  That is nearly a
way there and back:

    lines_settle_mark     a block without skip lines comes back with its last line terminated,
                          when a skip line can only stand below that line
    cleaned_cleaned       so a second run leaves what the first one left, or adds an ending
                          to it; a third run changes nothing

Lines above the first test are none of this.  But they lose their tags, and could turn into
something else by it: `TagsComeOff` says that they do not.
-/
import SkipAudit.Proofs.Places

namespace SkipAudit

/-- The text that is left of a file when all of its units are cleared. -/
def cleaned (t : Text) : Except StructureError Text := do
  let lines := markBlocks (splitLines t)
  let units ← unitsOf lines
  return (settle (units.map ({ · with failure := none })) lines).flatten

/-! ## What terminating the last line adds -/

/-- What is added when the last of some lines is terminated. -/
def addedEnding (ending : Text) (ls : List Line) : Text :=
  match ls.getLast? with
  | none => []
  | some l => if l.isTerminated then [] else ending

theorem addedEnding_concat (ending : Text) (ls : List Line) (l : Line) :
    addedEnding ending (ls ++ [l]) = if l.isTerminated then [] else ending := by
  rw [addedEnding, List.getLast?_concat]

theorem flatten_terminateLast (ending : Text) (ls : List Line) :
    (OpenBlock.terminateLast ending ls).flatten = ls.flatten ++ addedEnding ending ls := by
  induction ls using List.reverseRecOn with
  | nil => rfl
  | append_singleton ls l _ =>
      rw [terminateLast_concat, addedEnding_concat, Line.terminateWith, List.flatten_concat,
        List.flatten_concat]
      split
      · rw [List.append_nil]
      · rw [List.append_assoc]

theorem addedEnding_terminateLast {e : Text} (he : Line.IsEnding e) (ending : Text)
    (ls : List Line) : addedEnding ending (OpenBlock.terminateLast e ls) = [] := by
  induction ls using List.reverseRecOn with
  | nil => rfl
  | append_singleton ls l _ =>
      rw [terminateLast_concat, addedEnding_concat, if_pos (Line.isTerminated_terminateWith he l)]

/-! ## A block without skip lines -/

namespace TestBlock

/-- What a block gets at its end when it is marked and settled: an ending, when its last line
has none and a skip line can only stand below it. -/
def lateEnding (b : TestBlock) : Text :=
  if opening b.body = b.body then addedEnding b.head.terminator b.lines else []

section Bare

variable {b : TestBlock} (hb : b.IsBare) (hs : IsSplit b.lines)

include hb hs

theorem flatten_settle_mark :
    (b.mark.settle true).lines.flatten = b.lines.flatten ++ b.lateEnding := by
  rw [lines_settle_mark hb hs.terminated, lateEnding]
  split
  · exact flatten_terminateLast _ _
  · exact (List.append_nil _).symm

/-- Nothing more is added the next time. -/
theorem lateEnding_settle_mark : (b.mark.settle true).lateEnding = [] := by
  have hlines := lines_settle_mark hb hs.terminated
  by_cases ho : opening b.body = b.body
  · rw [if_pos ho] at hlines
    rw [lateEnding, hlines, addedEnding_terminateLast (Line.isEnding_terminator b.head), ite_self]
  · rw [if_neg ho] at hlines
    rw [lines_inj hlines, lateEnding, if_neg ho]

end Bare

end TestBlock

/-! ## A whole file -/

/-- Above the first test, a skip line that loses its tags has no tag left and is no declaration. -/
def Outline.TagsComeOff (o : Outline) : Prop :=
  ∀ l ∈ o.preamble, l.isSkip = true →
    l.withoutTag.isProvisional = false ∧ l.withoutTag.isDeclaration = false

instance (o : Outline) : Decidable o.TagsComeOff :=
  inferInstanceAs (Decidable (∀ l ∈ o.preamble, l.isSkip = true →
    l.withoutTag.isProvisional = false ∧ l.withoutTag.isDeclaration = false))

namespace Outline

/-- What is left of a file with this outline when all of its units are cleared. -/
def clean (o : Outline) : Outline :=
  ⟨o.preamble.map Line.persisted, o.blocks.map fun b => b.mark.settle true⟩

/-- What the last block gets at its end. -/
def lateEnding (o : Outline) : Text := (o.blocks.getLast?.map TestBlock.lateEnding).getD []

variable {o : Outline}

theorem isSplit_block (hs : IsSplit o.lines) {b : TestBlock} (hb : b ∈ o.blocks) :
    IsSplit b.lines := by
  obtain ⟨k, hk⟩ := List.getElem?_of_mem hb
  rw [lines_eq hk] at hs
  exact (IsSplit.append_iff.mp (IsSplit.append_iff.mp hs).2.2).1

section Lines

variable (h : o.WellFormed)

include h

theorem lines_clean :
    SkipAudit.settle ((TestBlock.unitListAt o.preamble.length o.mark.blocks).map
      ({ · with failure := none })) o.mark.lines = o.clean.lines := by
  have hcleared : ((TestBlock.unitListAt o.preamble.length o.mark.blocks).map
      ({ · with failure := none })).map (·.isCleared) = o.mark.blocks.map fun _ => true := by
    rw [List.map_map]
    exact map_unitListAt (fun _ _ => rfl) _ _
  rw [settle_lines h.mark, hcleared, settle, mark, List.map_map, List.zipWith_map,
    List.zipWith_self]
  · rfl
  · rw [List.map_map]
    exact declIndex_unitListAt _ _

variable (hs : IsSplit o.lines)

include hs

theorem cleaned_flatten : cleaned o.lines.flatten = .ok o.clean.lines.flatten := by
  rw [cleaned, unitsOf_markBlocks h hs, ← lines_clean h, splitLines_flatten hs, markBlocks_lines h]
  rfl

theorem isSplit_clean : IsSplit o.clean.lines := by
  rw [← lines_clean h]
  exact hs.mark.settle _

end Lines

theorem isBare_of_mem_clean : ∀ b ∈ o.clean.blocks, b.IsBare := by
  intro b hb
  obtain ⟨c, -, rfl⟩ := List.mem_map.mp hb
  exact c.mark.isBare_settle_cleared

/-- A line has been taken out under each declaration. -/
theorem isTerminated_head_of_mem_clean (hs : IsSplit o.lines) :
    ∀ b ∈ o.clean.blocks, b.head.isTerminated = true := by
  intro b hb
  obtain ⟨c, hc, rfl⟩ := List.mem_map.mp hb
  have hmem : c.mark ∈ o.mark.blocks := List.mem_map_of_mem hc
  obtain ⟨above, skip, below, hmarked⟩ := exists_markedBy c.mark hmem
  have hsplit := isSplit_block hs.mark hmem
  exact (IsSplit.cons_iff.mp hsplit).2.1 (by rw [hmarked.body]; simp)

/-! ### Above the first test -/

section Preamble

variable (h : o.WellFormed) (ht : o.TagsComeOff)

include h ht

theorem isDeclaration_of_mem_preamble_clean :
    ∀ l ∈ o.clean.preamble, l.isDeclaration = false := by
  intro m hm
  obtain ⟨l, hl, rfl⟩ := List.mem_map.mp hm
  rw [Line.persisted, h.preamble l hl, Bool.not_false, Bool.true_and]
  split
  · rename_i hskip
    exact (ht l hl hskip).2
  · exact h.preamble l hl

theorem untagged_preamble_clean : Untagged o.clean.preamble := by
  intro m hm
  obtain ⟨l, hl, rfl⟩ := List.mem_map.mp hm
  rw [Line.persisted, h.preamble l hl, Bool.not_false, Bool.true_and]
  split
  · rename_i hskip
    exact fun _ => (ht l hl hskip).1
  · rename_i hskip
    exact fun hs => absurd hs hskip

theorem WellFormed.clean : o.clean.WellFormed := by
  refine ⟨isDeclaration_of_mem_preamble_clean h ht, fun b hb => ?_⟩
  obtain ⟨c, hc, rfl⟩ := List.mem_map.mp hb
  exact ((placed_mark c).wellFormed (h.blocks c hc)).settle_cleared

theorem TagsComeOff.clean : o.clean.TagsComeOff := by
  intro l hl hskip
  have hplain := untagged_preamble_clean h ht l hl hskip
  rw [Line.withoutTag_of_untagged hplain]
  exact ⟨hplain, isDeclaration_of_mem_preamble_clean h ht l hl⟩

end Preamble

/-! ### The blocks -/

/-- Only the last block can have a last line without an ending. -/
theorem flatten_map_settle_mark {bs : List TestBlock} (hb : ∀ b ∈ bs, b.IsBare)
    (hs : IsSplit (bs.flatMap TestBlock.lines)) :
    ((bs.map fun b => b.mark.settle true).flatMap TestBlock.lines).flatten =
      (bs.flatMap TestBlock.lines).flatten ++ (bs.getLast?.map TestBlock.lateEnding).getD [] := by
  induction bs with
  | nil => rfl
  | cons b bs ih =>
      obtain ⟨hbare, hrest⟩ := List.forall_mem_cons.mp hb
      rw [List.flatMap_cons, IsSplit.append_iff] at hs
      obtain ⟨hsplit, hterm, hs⟩ := hs
      rw [List.map_cons, List.flatMap_cons, List.flatten_append, List.flatMap_cons,
        List.flatten_append, ih hrest hs]
      cases bs with
      | nil =>
          rw [TestBlock.flatten_settle_mark hbare hsplit]
          simp
      | cons c cs =>
          rw [TestBlock.settle_mark_of_isBare hbare (hterm (List.cons_ne_nil _ _)),
            List.getLast?_cons_cons, List.append_assoc]

/-- A file without skip lines in its blocks, and without tags above them, comes back with what its
last block gets at its end. -/
theorem flatten_clean (hs : IsSplit o.lines) (hp : Untagged o.preamble)
    (hb : ∀ b ∈ o.blocks, b.IsBare) :
    o.clean.lines.flatten = o.lines.flatten ++ o.lateEnding := by
  have hpre : o.clean.preamble = o.preamble := map_persisted_of_untagged hp
  have hblocks := (IsSplit.append_iff.mp hs).2.2
  rw [lines, List.flatten_append, hpre, lines, List.flatten_append, List.append_assoc]
  exact congrArg _ (flatten_map_settle_mark hb hblocks)

section Again

variable (h : o.WellFormed) (hs : IsSplit o.lines)

include h hs

theorem flatten_clean_clean (ht : o.TagsComeOff) :
    o.clean.clean.lines.flatten = o.clean.lines.flatten ++ o.clean.lateEnding :=
  flatten_clean (isSplit_clean h hs) (untagged_preamble_clean h ht) isBare_of_mem_clean

theorem lateEnding_clean_clean : o.clean.clean.lateEnding = [] := by
  rw [lateEnding, clean, List.getLast?_map]
  cases hlast : o.clean.blocks.getLast? with
  | none => rfl
  | some b =>
      have hmem := List.mem_of_getLast? hlast
      exact TestBlock.lateEnding_settle_mark (isBare_of_mem_clean b hmem)
        (isSplit_block (isSplit_clean h hs) hmem)

end Again

end Outline

/-- **A file in which every test passes.**  When all units of a file are cleared, no block of what
is left has a skip line, and clearing all units of that changes nothing, except at the end: when
the last line has no ending and is the last of the checks that open the last block, it gets the
ending of that block.  After that nothing changes any more. -/
theorem cleaned_cleaned {t : Text} (h : (outline (splitLines t)).TagsComeOff) :
    ∃ t₁ t₂, cleaned t = .ok t₁ ∧ cleaned t₁ = .ok t₂ ∧ cleaned t₂ = .ok t₂ ∧
      (∀ b ∈ (outline (splitLines t₁)).blocks, b.isMarked = false ∧ b.head.isTerminated = true) ∧
      t₂ = t₁ ++ (outline (splitLines t₁)).lateEnding := by
  obtain ⟨o, hwf, hlines, ht⟩ : ∃ o : Outline, o.WellFormed ∧ o.lines = splitLines t ∧
      o.TagsComeOff := ⟨outline (splitLines t), wellFormed_outline _, lines_outline _, h⟩
  have hs : IsSplit o.lines := hlines ▸ isSplit_splitLines t
  have htext : o.lines.flatten = t := by rw [hlines, flatten_splitLines]
  -- What is left each time has an outline again.
  have hwf₁ := hwf.clean ht
  have hs₁ := Outline.isSplit_clean hwf hs
  have ht₁ := ht.clean hwf
  have hout : outline (splitLines o.clean.lines.flatten) = o.clean := by
    rw [splitLines_flatten hs₁, outline_lines hwf₁]
  have hthird : o.clean.clean.clean.lines.flatten = o.clean.clean.lines.flatten := by
    rw [Outline.flatten_clean_clean hwf₁ hs₁ ht₁, Outline.lateEnding_clean_clean hwf hs,
      List.append_nil]
  refine ⟨_, _, htext ▸ Outline.cleaned_flatten hwf hs, Outline.cleaned_flatten hwf₁ hs₁,
    ?_, ?_, ?_⟩
  · rw [Outline.cleaned_flatten (hwf₁.clean ht₁) (Outline.isSplit_clean hwf₁ hs₁), hthird]
  · rw [hout]
    exact fun b hb => ⟨TestBlock.isMarked_eq_false_iff.mpr (Outline.isBare_of_mem_clean b hb),
      Outline.isTerminated_head_of_mem_clean hs b hb⟩
  · rw [hout, Outline.flatten_clean_clean hwf hs ht]

theorem cleaned_cleaned_threeTests :
    (outline (splitLines threeTests)).TagsComeOff ∧
      ∃ t₁, cleaned threeTests = .ok t₁ ∧ cleaned t₁ = .ok t₁ := by
  have hcomeOff : (outline (splitLines threeTests)).TagsComeOff := by decide +kernel
  have hend : (cleaned threeTests).map (fun t => (outline (splitLines t)).lateEnding) = .ok [] := by
    decide +kernel
  obtain ⟨t₁, t₂, h₁, h₂, -, -, heq⟩ := cleaned_cleaned hcomeOff
  rw [h₁] at hend
  have hnone : (outline (splitLines t₁)).lateEnding = [] := Except.ok.inj hend
  rw [hnone, List.append_nil] at heq
  exact ⟨hcomeOff, t₁, h₁, heq ▸ h₂⟩

/-- A second run can change what a first one left.  A check without an ending gets one; above the
first test, a tag inside a tag comes off in two runs; and there a line can become a declaration,
so that a block has a skip line after all. -/
theorem cleaned_again :
    let head := text "test \x7b\n"
    let check := text "    if (builtin.zig_backend == .stage2_arm) return error.SkipZigTest;"
    let nested := Mark.skipStatement ++ text " // inserted by un // inserted by unskipskip\n"
    let hidden := text " // inserted by unskiptest " ++ Mark.skipStatement ++ Line.lf ++
      Line.plainSkip Line.lf
    (cleaned (head ++ Line.plainSkip Line.lf ++ check) = .ok (head ++ check) ∧
        cleaned (head ++ check) = .ok (head ++ check ++ Line.lf)) ∧
      (cleaned nested = .ok (Mark.skipStatement ++ text " // inserted by unskip\n") ∧
        (cleaned nested >>= cleaned) = .ok (Mark.skipStatement ++ Line.lf)) ∧
      (cleaned hidden).map (fun t => (outline (splitLines t)).blocks.map (·.isMarked)) =
        .ok [true] := by
  decide +kernel

end SkipAudit
