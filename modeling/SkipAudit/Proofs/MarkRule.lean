/-
# The rule for a block, told by its lines

`markBlocks` reads a file once and keeps a state.  Here is what comes out, with no state and no
scan: `TestBlock.Becomes b ms` says of the lines `ms` that they are those of the block `b` with
exactly one skip line, by cutting the body of the block where the skip line stands or is to stand.

    becomes_iff          the rule leaves no choice, and every block has a case of it
    markBlocks_eq_iff    what is marked is the preamble as it was, and every block by the rule
    markFrom_append      so a file can be cut above any declaration, and its parts marked apart
-/
import Mathlib.Data.List.Forall2
import SkipAudit.Proofs.Marking

namespace SkipAudit

/-- By the rule, the block becomes these lines.  Its leading lines are the blank lines and backend
checks that come before any other line. -/
inductive TestBlock.Becomes : TestBlock → List Line → Prop
  /-- A block with skip lines keeps the first of them only. -/
  | first {head skip : Line} {above below : List Line} :
      (∀ l ∈ above, l.isSkip = false) → skip.isSkip = true →
      Becomes ⟨head, above ++ skip :: below⟩
        (head :: above ++ skip :: below.filter (!·.isSkip))
  /-- A new skip line stands under the last check of the leading lines. -/
  | underCheck {head check : Line} {body above blanks : List Line} :
      (∀ l ∈ body, l.isSkip = false) →
      body.takeWhile Line.isLead = above ++ check :: blanks → check.isCheck = true →
      (∀ l ∈ blanks, l.isCheck = false) →
      Becomes ⟨head, body⟩
        (head :: above ++ [check.terminateWith head.terminator,
          Line.provisionalSkip head.terminator] ++ blanks ++ body.dropWhile Line.isLead)
  /-- Without such a check it stands under the declaration, with a blank line after it. -/
  | underHead {head : Line} {body : List Line} :
      (∀ l ∈ body, l.isSkip = false) → (∀ l ∈ body.takeWhile Line.isLead, l.isCheck = false) →
      Becomes ⟨head, body⟩
        ([head.terminateWith head.terminator, Line.provisionalSkip head.terminator,
          head.terminator] ++ body)

/-! ## The last check of the leading lines -/

theorem opening_eq {ls above blanks : List Line} {check : Line}
    (hlead : ls.takeWhile Line.isLead = above ++ check :: blanks) (hc : check.isCheck = true)
    (hblanks : ∀ l ∈ blanks, l.isCheck = false) : opening ls = above ++ [check] := by
  have hdrop : ∀ l ∈ blanks.reverse, (!l.isCheck) = true := fun l hl => by
    rw [hblanks l (List.mem_reverse.mp hl)]
    rfl
  rw [opening, hlead, List.append_cons, List.rdropWhile, List.reverse_append,
    List.dropWhile_append_of_pos hdrop, ← List.rdropWhile,
    List.rdropWhile_concat_neg _ _ _ (by simp [hc])]

theorem takeWhile_of_opening {ls : List Line} (h : opening ls ≠ []) :
    ∃ above check blanks, ls.takeWhile Line.isLead = above ++ check :: blanks ∧
      check.isCheck = true ∧ ∀ l ∈ blanks, l.isCheck = false := by
  have hlast : ¬ (!((opening ls).getLast h).isCheck) = true := List.rdropWhile_last_not _ _ h
  have hcut : opening ls ++ (ls.takeWhile Line.isLead).rtakeWhile (!·.isCheck) =
      ls.takeWhile Line.isLead := List.rdropWhile_append_rtakeWhile
  obtain ⟨above, check, -, hopen, -⟩ := exists_check_of_opening h
  rw [hopen, ← List.append_cons] at hcut
  refine ⟨above, check, _, hcut.symm, by simpa [hopen] using hlast, fun l hl => ?_⟩
  simpa using List.mem_rtakeWhile_imp hl

namespace TestBlock

/-! ## The rule for one block -/

theorem Becomes.mark_lines {b : TestBlock} {ms : List Line} (h : b.Becomes ms) :
    b.mark.lines = ms := by
  cases h with
  | @first head skip above below ha hs =>
      rw [mark, isMarked, if_pos (by simp [hs]), lines, firstSkipOnly_append ha hs,
        List.cons_append]
  | @underCheck head check body above blanks hfree hlead hc hblanks =>
      have hbare : ¬ isMarked ⟨head, body⟩ = true := by simpa [isMarked] using hfree
      have hopen : opening body = above ++ [check] := opening_eq hlead hc hblanks
      have hbody : body = above ++ check :: (blanks ++ body.dropWhile Line.isLead) := by
        rw [← List.cons_append, ← List.append_assoc, ← hlead, List.takeWhile_append_dropWhile]
      rw [mark, if_neg hbare, if_neg (by simp [hopen]), drop_opening hopen hbody, hopen,
        terminateLast_concat, lines]
      simp
  | @underHead head body hfree hlead =>
      have hbare : ¬ isMarked ⟨head, body⟩ = true := by simpa [isMarked] using hfree
      have hopen : opening body = [] :=
        List.rdropWhile_eq_nil_iff.mpr fun l hl => by rw [hlead l hl]; rfl
      rw [mark, if_neg hbare, if_pos hopen, lines]
      rfl

theorem exists_becomes (b : TestBlock) : ∃ ms, b.Becomes ms := by
  obtain ⟨head, body⟩ := b
  cases hfind : body.find? Line.isSkip with
  | some skip =>
      obtain ⟨hs, above, below, rfl, ha⟩ := List.find?_eq_some_iff_append.mp hfind
      exact ⟨_, .first (by simpa using ha) hs⟩
  | none =>
      have hfree : ∀ l ∈ body, l.isSkip = false := by simpa using hfind
      by_cases ho : opening body = []
      · refine ⟨_, .underHead hfree fun l hl => ?_⟩
        simpa using List.rdropWhile_eq_nil_iff.mp ho l hl
      · obtain ⟨above, check, blanks, hlead, hc, hblanks⟩ := takeWhile_of_opening ho
        exact ⟨_, .underCheck hfree hlead hc hblanks⟩

theorem becomes_iff {b : TestBlock} {ms : List Line} : b.Becomes ms ↔ b.mark.lines = ms := by
  refine ⟨Becomes.mark_lines, ?_⟩
  rintro rfl
  obtain ⟨ms, hms⟩ := b.exists_becomes
  rwa [hms.mark_lines]

theorem forall₂_becomes_iff {bs : List TestBlock} {mss : List (List Line)} :
    List.Forall₂ Becomes bs mss ↔ bs.map (·.mark.lines) = mss := by
  rw [← List.forall₂_eq_eq_eq, List.forall₂_map_left_iff]
  exact ⟨List.Forall₂.imp fun _ _ => becomes_iff.mp, List.Forall₂.imp fun _ _ => becomes_iff.mpr⟩

end TestBlock

/-! ## The rule for a file -/

/-- A block that is being read ends where the next declaration stands. -/
theorem markFrom_append {d : Line} (hd : d.isDeclaration = true) (b? : Option OpenBlock)
    (xs ys : List Line) :
    markFrom b? (xs ++ d :: ys) = markFrom b? xs ++ markFrom none (d :: ys) := by
  induction xs generalizing b? with
  | nil =>
      cases b? with
      | none => rfl
      | some b => simp only [List.nil_append, markFrom, if_pos hd]
  | cons l xs ih =>
      cases b? with
      | none =>
          by_cases hl : l.isDeclaration = true
          · simp only [List.cons_append, markFrom, if_pos hl, ih]
          · simp only [List.cons_append, markFrom, if_neg hl, ih]
      | some b =>
          by_cases hl : l.isDeclaration = true
          · simp only [List.cons_append, markFrom, if_pos hl, ih, List.append_assoc]
          · simp only [List.cons_append, markFrom, if_neg hl, ih]

/-- **Marking is a rule for each block.**  Cut a file above each of its declarations: the lines
above the first one come out of the marking as they are, and after them every block comes out as
the rule says of this block alone.  So a file that begins with a declaration is marked under
another as it is by itself. -/
theorem markBlocks_eq_iff (ls : List Line) :
    ((outline ls).lines = ls ∧ (outline ls).WellFormed) ∧
      (∀ out, markBlocks ls = out ↔
        ∃ mss, List.Forall₂ TestBlock.Becomes (outline ls).blocks mss ∧
          out = (outline ls).preamble ++ mss.flatten) ∧
      ∀ (d : Line) (ys : List Line), d.isDeclaration = true →
        markBlocks (ls ++ d :: ys) = markBlocks ls ++ markBlocks (d :: ys) := by
  refine ⟨⟨lines_outline ls, wellFormed_outline ls⟩, fun out => ?_,
    fun d ys hd => markFrom_append hd none ls ys⟩
  have hlines : (outline ls).mark.lines =
      (outline ls).preamble ++ ((outline ls).blocks.map (·.mark.lines)).flatten := by
    rw [Outline.mark, Outline.lines, List.flatMap_map, List.flatMap_def]
  rw [markBlocks_eq, hlines]
  constructor
  · rintro rfl
    exact ⟨_, TestBlock.forall₂_becomes_iff.mpr rfl, rfl⟩
  · rintro ⟨mss, hmss, rfl⟩
    rw [TestBlock.forall₂_becomes_iff.mp hmss]

/-- A block that gets its skip line under a check, which is the last line above the next
declaration and has no ending, and a block of which there is nothing but the declaration. -/
theorem markBlocks_eq_iff_sample :
    let head := text "test \x7b\r\n"
    let check := text "    if (builtin.zig_backend == .stage2_arm) return error.SkipZigTest;"
    let last : Line := text "test "
    last.isDeclaration = true ∧ (outline [head, Line.crlf, check]).blocks.length = 1 ∧
      markBlocks ([head, Line.crlf, check] ++ [last]) =
        [head, Line.crlf, check ++ Line.crlf, Line.provisionalSkip Line.crlf] ++
          [last ++ Line.lf, Line.provisionalSkip Line.lf, Line.lf] := by
  intro head check last
  obtain ⟨-, hrule, happend⟩ := markBlocks_eq_iff [head, Line.crlf, check]
  have hlast : last.isDeclaration = true := by decide
  refine ⟨hlast, by decide +kernel, ?_⟩
  rw [happend last [] hlast]
  refine congr (congrArg _ ((hrule _).mpr ?_)) (by decide +kernel)
  have hblock : TestBlock.Becomes ⟨head, [Line.crlf, check]⟩
      [head, Line.crlf, check ++ Line.crlf, Line.provisionalSkip Line.crlf] :=
    @TestBlock.Becomes.underCheck head check [Line.crlf, check] [Line.crlf] []
      (by decide +kernel) (by decide +kernel) (by decide +kernel) (by decide)
  exact ⟨[_], .cons hblock .nil, rfl⟩

end SkipAudit
