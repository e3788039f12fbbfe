/-
# Files without skip lines

A file in which no test is skipped, and none is run, is written back as it was.  What marking puts
into a block is just what settling takes out of it; only an ending stays behind, when the new skip
line had to stand below the last line of the file and this line had none.

    outline_eq_cut       the outline of a file is cut at its first declaration
    opening_eq_self_iff  which blocks have no line below the place of a new skip line
    settled_unmarked     so a file without skip lines comes back, but for that ending
-/
import SkipAudit.Proofs.Clean

namespace SkipAudit

/-! ## Above the first declaration, and from there on -/

/-- The preamble of a file ends, and its blocks begin, at the first declaration. -/
theorem outline_eq_cut (ls : List Line) :
    (outline ls).preamble = ls.takeWhile (!·.isDeclaration) ∧
      (outline ls).blocks.flatMap TestBlock.lines = ls.dropWhile (!·.isDeclaration) := by
  have h := wellFormed_outline ls
  have hpre : ls.takeWhile (!·.isDeclaration) = (outline ls).preamble := by
    conv_lhs => rw [← lines_outline ls]
    exact takeWhile_not_isDeclaration h.preamble (Outline.atCut_blocks h.blocks)
  have hcut : ls.takeWhile (!·.isDeclaration) ++ ls.dropWhile (!·.isDeclaration) =
      (outline ls).preamble ++ (outline ls).blocks.flatMap TestBlock.lines := by
    rw [List.takeWhile_append_dropWhile]
    exact (lines_outline ls).symm
  rw [hpre] at hcut
  exact ⟨hpre.symm, (List.append_cancel_left hcut).symm⟩

/-! ## Where a new skip line stands below all lines -/

/-- No line of the block would stand below a new skip line: there is nothing under the
declaration, or the last line is a check that only checks and blank lines stand above. -/
def TestBlock.EndsInLead (b : TestBlock) : Prop :=
  b.body = [] ∨ ∃ above check, b.body = above ++ [check] ∧ check.isCheck = true ∧
    ∀ l ∈ above, l.isLead = true

theorem opening_eq_self_iff {b : TestBlock} : opening b.body = b.body ↔ b.EndsInLead := by
  constructor
  · intro h
    rcases List.eq_nil_or_concat b.body with hnil | ⟨above, check, hbody⟩
    · exact Or.inl hnil
    · rw [List.concat_eq_append] at hbody
      rw [hbody, opening_concat] at h
      split at h
      · rename_i hlead
        rw [Bool.and_eq_true, List.all_eq_true] at hlead
        exact Or.inr ⟨above, check, hbody, hlead.2, hlead.1⟩
      · -- The opening lines of `above` are not more than `above`.
        have hprefix := opening_prefix above
        have hlen := hprefix.length_le
        rw [h, List.length_append, List.length_singleton] at hlen
        omega
  · rintro (hnil | ⟨above, check, hbody, hcheck, hlead⟩)
    · rw [hnil]
      rfl
    · rw [hbody, opening_concat, if_pos]
      rw [Bool.and_eq_true, List.all_eq_true]
      exact ⟨hlead, hcheck⟩

/-! ## What is added at the end -/

/-- The last line of some lines has an ending exactly when their text has. -/
theorem addedEnding_eq {ls : List Line} (h : IsSplit ls) (hne : ls ≠ []) (ending : Text) :
    addedEnding ending ls = if ls.flatten.getLast? = some '\n' then [] else ending := by
  obtain ⟨init, l, rfl⟩ : ∃ init l, ls = init ++ [l] :=
    ⟨ls.dropLast, ls.getLast hne, (List.dropLast_concat_getLast hne).symm⟩
  have hl : l ≠ [] := (h.piece l (List.mem_append_right _ List.mem_cons_self)).1
  rw [addedEnding_concat, List.flatten_concat, List.getLast?_append_of_ne_nil _ hl]
  exact if_congr beq_iff_eq rfl rfl

theorem addedEnding_append (ending : Text) (xs : List Line) {ys : List Line} (h : ys ≠ []) :
    addedEnding ending (xs ++ ys) = addedEnding ending ys := by
  rw [addedEnding, addedEnding, List.getLast?_append_of_ne_nil _ h]

namespace Outline

variable {o : Outline}

theorem lateEnding_eq (hs : IsSplit o.lines) {b : TestBlock} (hb : o.blocks.getLast? = some b) :
    o.lateEnding = if opening b.body = b.body then
      if o.lines.flatten.getLast? = some '\n' then [] else b.head.terminator else [] := by
  obtain ⟨init, hblocks⟩ := List.getLast?_eq_some_iff.mp hb
  have hlines : o.lines = (o.preamble ++ init.flatMap TestBlock.lines) ++ b.lines := by
    rw [lines, hblocks, List.flatMap_append, List.flatMap_singleton, List.append_assoc]
  have hne : b.lines ≠ [] := List.cons_ne_nil _ _
  have hadded : addedEnding b.head.terminator b.lines =
      if o.lines.flatten.getLast? = some '\n' then [] else b.head.terminator := by
    rw [← addedEnding_eq hs (by rw [hlines]; simp [hne]), hlines, addedEnding_append _ _ hne]
  rw [lateEnding, hb, Option.map_some, Option.getD_some, TestBlock.lateEnding, hadded]

/-- The units of a file have no failure yet. -/
theorem map_failure_unitListAt (i : Nat) (bs : List TestBlock) :
    (TestBlock.unitListAt i bs).map ({ · with failure := none }) = TestBlock.unitListAt i bs := by
  induction bs generalizing i with
  | nil => rfl
  | cons b bs ih =>
      rw [TestBlock.unitListAt, List.map_cons, ih]
      rfl

/-- A file of which no unit has been run is written as if all of them had passed. -/
theorem settled_file (h : o.WellFormed) (path : Path) :
    (o.file path).settled = o.clean.lines.flatten := by
  rw [SourceFile.settled, file, ← lines_clean h, map_failure_unitListAt]

end Outline

/-- **A file without skip lines is written back as it was.**  Let no line of a text, from its first
declaration on, be a skip line, and let no line above bear a skip statement and a tag.  Then the
file that the text makes has this text again when no unit has been run.  In one case an ending is
added to it, that of the last declaration: when the text does not end in a line feed, and its last
line is a declaration, or the last of the checks that open the last block. -/
theorem settled_unmarked (path : Path) {t : Text}
    (habove : Untagged ((splitLines t).takeWhile (!·.isDeclaration)))
    (hbelow : ∀ l ∈ (splitLines t).dropWhile (!·.isDeclaration),
      l.isDeclaration = false → l.isSkip = false) :
    ∃ f, SourceFile.ofText path t = .ok f ∧
      (∀ b, (outline (splitLines t)).blocks.getLast? = some b →
        t.getLast? ≠ some '\n' → b.EndsInLead → f.settled = t ++ b.head.terminator) ∧
      ((∀ b, (outline (splitLines t)).blocks.getLast? = some b →
        t.getLast? = some '\n' ∨ ¬ b.EndsInLead) → f.settled = t) := by
  obtain ⟨hpre, hblocks⟩ := outline_eq_cut (splitLines t)
  have hwf := wellFormed_outline (splitLines t)
  have hs := isSplit_outline t
  have htext : (outline (splitLines t)).lines.flatten = t := by
    rw [lines_outline, flatten_splitLines]
  rw [← hpre] at habove
  rw [← hblocks] at hbelow
  refine ⟨_, SourceFile.ofText_eq path t, ?_⟩
  generalize outline (splitLines t) = o at *
  have hbare : ∀ b ∈ o.blocks, b.IsBare := fun b hb l hl =>
    hbelow l (List.mem_flatMap.mpr ⟨b, hb, List.mem_cons_of_mem _ hl⟩)
      ((hwf.blocks b hb).body l hl)
  have hsettled : (o.file path).settled = t ++ o.lateEnding := by
    rw [Outline.settled_file hwf, Outline.flatten_clean hs habove hbare, htext]
  constructor
  · intro b hb hend hlead
    rw [hsettled, Outline.lateEnding_eq hs hb, if_pos (opening_eq_self_iff.mpr hlead), htext,
      if_neg hend]
  · intro hno
    rw [hsettled]
    cases hlast : o.blocks.getLast? with
    | none => rw [Outline.lateEnding, hlast, Option.map_none, Option.getD_none, List.append_nil]
    | some b =>
        rw [Outline.lateEnding_eq hs hlast, htext]
        rcases hno b hlast with hend | hlead
        · rw [if_pos hend, ite_self, List.append_nil]
        · rw [if_neg (mt opening_eq_self_iff.mp hlead), List.append_nil]

/-- The last line is a check without an ending, in a block whose declaration has a carriage
return. -/
theorem settled_unmarked_sample :
    let check := text "    if (builtin.zig_backend == .stage2_c) return error.SkipZigTest;"
    let t := Line.plainSkip Line.lf ++ text "test \"one\" \x7b\n\n    check(1);\n\x7d\n" ++
      text "test \x7b\r\n\r\n" ++ check
    Untagged ((splitLines t).takeWhile (!·.isDeclaration)) ∧
      (∀ l ∈ (splitLines t).dropWhile (!·.isDeclaration),
        l.isDeclaration = false → l.isSkip = false) ∧
      ∃ f, SourceFile.ofText ⟨text "lib/a.zig"⟩ t = .ok f ∧ f.settled = t ++ Line.crlf := by
  intro check t
  have habove : Untagged ((splitLines t).takeWhile (!·.isDeclaration)) := by decide +kernel
  have hbelow : ∀ l ∈ (splitLines t).dropWhile (!·.isDeclaration),
      l.isDeclaration = false → l.isSkip = false := by decide +kernel
  have hlast : (outline (splitLines t)).blocks.getLast? =
      some ⟨text "test \x7b\r\n", [Line.crlf, check]⟩ := by decide +kernel
  have hlead : TestBlock.EndsInLead ⟨text "test \x7b\r\n", [Line.crlf, check]⟩ :=
    Or.inr ⟨[Line.crlf], check, rfl, by decide +kernel, by decide +kernel⟩
  have hending : Line.terminator (text "test \x7b\r\n") = Line.crlf := by decide +kernel
  obtain ⟨f, hf, hadded, -⟩ := settled_unmarked ⟨text "lib/a.zig"⟩ habove hbelow
  have hsettled := hadded _ hlast (by decide +kernel) hlead
  rw [hending] at hsettled
  exact ⟨habove, hbelow, f, hf, hsettled⟩

end SkipAudit
