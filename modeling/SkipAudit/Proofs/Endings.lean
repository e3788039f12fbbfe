/-
# Line endings stay as they are

A file is written with one kind of line ending or the other, and a run should not mix them.  Four
things are written that were not in the file: the ending of a line that had none, a skip line, the
blank line under it, and a skip line that has lost its tags.  The first three end like the
declaration of their block, and the tags stand before the ending.

    LineClosed.markBlocks    a property of lines that these keep, the marked lines keep
    LineClosed.settle        and so do the lines that are written back
    isCrlf_flatten_iff       the property of a text, line by line
    endings_after_run        the two kinds of files

A file that mixes the endings is of neither kind, and nothing is said about it.
-/
import SkipAudit.Proofs.Marked

namespace SkipAudit

/-- The property is kept by whatever the passes write, in a block whose declaration has it. -/
structure LineClosed (P : Line → Prop) : Prop where
  terminateWith : ∀ head l : Line, P head → P l → P (l.terminateWith head.terminator)
  provisionalSkip : ∀ head : Line, P head → P (Line.provisionalSkip head.terminator)
  terminator : ∀ head : Line, P head → P head.terminator
  withoutTag : ∀ l : Line, P l → P l.withoutTag

namespace LineClosed

variable {P : Line → Prop} (h : LineClosed P)

include h

theorem mark {b : TestBlock} (hb : ∀ l ∈ b.lines, P l) : ∀ l ∈ b.mark.lines, P l := by
  obtain ⟨hhead, hbody⟩ := List.forall_mem_cons.mp hb
  refine List.forall_mem_cons.mpr ⟨?_, fun l hl => ?_⟩
  · rcases (placed_mark b).head_eq with heq | heq
    · rwa [heq]
    · rw [heq]
      exact h.terminateWith _ _ hhead hhead
  · rcases (placed_mark b).mem_body hl with hl | ⟨k, hk, rfl⟩ | rfl | rfl
    · exact hbody l hl
    · exact h.terminateWith _ _ hhead (hbody k hk)
    · exact h.provisionalSkip _ hhead
    · exact h.terminator _ hhead

theorem markBlocks {ls : List Line} (hls : ∀ l ∈ ls, P l) : ∀ l ∈ markBlocks ls, P l := by
  rw [← lines_outline ls] at hls
  rw [markBlocks_eq]
  obtain ⟨hpre, hblocks⟩ := List.forall_mem_append.mp hls
  refine List.forall_mem_append.mpr ⟨hpre, fun l hl => ?_⟩
  obtain ⟨m, hm, hlm⟩ := List.mem_flatMap.mp hl
  obtain ⟨b, hb, rfl⟩ := List.mem_map.mp hm
  exact h.mark (fun k hk => hblocks k (List.mem_flatMap.mpr ⟨b, hb, hk⟩)) l hlm

theorem settle {ls : List Line} (hls : ∀ l ∈ ls, P l) (units : List TestUnit) :
    ∀ l ∈ settle units ls, P l := by
  obtain ⟨kept, hsub, heq⟩ := settleFrom_eq_map units 0 .outside ls
  rw [SkipAudit.settle, heq, List.forall_mem_map]
  intro l hl
  rw [Line.persisted]
  split
  · exact h.withoutTag l (hls l (hsub.subset hl))
  · exact hls l (hsub.subset hl)

end LineClosed

/-! ## Two properties of lines -/

namespace Line

theorem endsWith_crlf_iff {l : Line} : Text.endsWith crlf l = true ↔ ∃ x, l = x ++ crlf := by
  rw [Text.endsWith, List.isSuffixOf_iff_suffix]
  exact exists_congr fun x => eq_comm

theorem isTerminated_of_endsWith_crlf {l : Line} (h : Text.endsWith crlf l = true) :
    l.isTerminated = true := by
  obtain ⟨x, rfl⟩ := endsWith_crlf_iff.mp h
  exact isTerminated_append_ending (Or.inr rfl) x

theorem withoutTag_append_crlf (x : Text) : withoutTag (x ++ crlf) = withoutTag x ++ crlf := by
  rw [withoutTag, withoutTag, append_crlf, append_crlf,
    Text.removeAll_concat (by decide) (by decide), Text.removeAll_concat (by decide) (by decide)]

theorem lineClosed_crlf : LineClosed fun l => Text.endsWith crlf l = true := by
  have hending : ∀ head : Line, Text.endsWith crlf head = true → head.terminator = crlf :=
    fun head hhead => by rw [Line.terminator, if_pos hhead]
  constructor
  case terminateWith =>
    intro head l _ hl
    rwa [terminateWith_of_isTerminated (isTerminated_of_endsWith_crlf hl)]
  case provisionalSkip =>
    intro head hhead
    rw [hending head hhead]
    exact endsWith_crlf_iff.mpr ⟨_, rfl⟩
  case terminator =>
    intro head hhead
    rw [hending head hhead]
    exact endsWith_crlf_iff.mpr ⟨[], rfl⟩
  case withoutTag =>
    intro l hl
    obtain ⟨x, rfl⟩ := endsWith_crlf_iff.mp hl
    rw [withoutTag_append_crlf]
    exact endsWith_crlf_iff.mpr ⟨_, rfl⟩

theorem lineClosed_not_mem_cr : LineClosed fun l => '\r' ∉ l := by
  have hending : ∀ head : Line, '\r' ∉ head → head.terminator = lf := fun head hhead => by
    rw [Line.terminator, if_neg fun hcrlf => ?_]
    obtain ⟨x, rfl⟩ := endsWith_crlf_iff.mp hcrlf
    exact hhead (List.mem_append_right x List.mem_cons_self)
  constructor
  case terminateWith =>
    intro head l hhead hl
    rw [hending head hhead, Line.terminateWith]
    split
    · exact hl
    · exact List.not_mem_append hl (by decide)
  case provisionalSkip =>
    intro head hhead
    rw [hending head hhead]
    decide +kernel
  case terminator =>
    intro head hhead
    rw [hending head hhead]
    decide
  case withoutTag => exact fun l hl hcr => hl ((Text.removeFrom_sublist _ 0 l).subset hcr)

end Line

/-! ## From lines to the text -/

namespace Text

/-- Every line feed of the text has a carriage return before it. -/
def Paired (t : Text) : Prop :=
  ∀ above below, t = above ++ '\n' :: below → above.getLast? = some '\r'

/-- Every line of the text ends in a carriage return and a line feed. -/
structure IsCrlf (t : Text) : Prop where
  ending : t = [] ∨ endsWith Line.crlf t = true
  paired : t.Paired

variable {x t : Text}

theorem endsWith_crlf_concat_iff :
    endsWith Line.crlf (x ++ ['\n']) = true ↔ x.getLast? = some '\r' := by
  rw [Line.endsWith_crlf_iff, List.getLast?_eq_some_iff]
  exact exists_congr fun y => by rw [Line.append_crlf, List.append_left_inj]

theorem isCrlf_iff : t.IsCrlf ↔ (t = [] ∨ t.getLast? = some '\n') ∧ t.Paired := by
  constructor
  · intro h
    refine ⟨h.ending.imp_right fun he => ?_, h.paired⟩
    exact beq_iff_eq.mp (Line.isTerminated_of_endsWith_crlf he)
  · rintro ⟨hlast, hpaired⟩
    refine ⟨hlast.imp_right fun hlf => ?_, hpaired⟩
    obtain ⟨s, rfl⟩ := List.getLast?_eq_some_iff.mp hlf
    exact endsWith_crlf_concat_iff.mpr (hpaired s [] rfl)

theorem getLast?_append_lf_cons (h : (x ++ '\n' :: t).getLast? = some '\r') :
    t.getLast? = some '\r' := by
  cases t with
  | nil => simp at h
  | cons c t => simpa using h

theorem paired_append_lf_iff (hx : '\n' ∉ x) :
    Paired (x ++ '\n' :: t) ↔ x.getLast? = some '\r' ∧ t.Paired := by
  constructor
  · intro h
    refine ⟨h x t rfl, fun above below ht => ?_⟩
    exact getLast?_append_lf_cons (h (x ++ '\n' :: above) below (by simp [ht]))
  · rintro ⟨hcr, ht⟩ above below heq
    rcases List.append_eq_append_iff.mp heq with ⟨s, rfl, hs⟩ | ⟨s, rfl, hs⟩
    · cases s with
      | nil => rwa [List.append_nil]
      | cons c s =>
          obtain ⟨rfl, hbelow⟩ := List.cons.inj hs
          have hlast := ht s below hbelow
          rw [List.getLast?_append_of_ne_nil _ (List.cons_ne_nil _ _)]
          cases s with
          | nil => exact absurd hlast (by simp)
          | cons d s => rwa [List.getLast?_cons_cons]
    · cases s with
      | nil => rwa [List.append_nil] at hcr
      | cons c s =>
          obtain ⟨rfl, -⟩ := List.cons.inj hs
          exact absurd (List.mem_append_right above List.mem_cons_self) hx

theorem isCrlf_append_lf_iff (hx : '\n' ∉ x) :
    IsCrlf (x ++ '\n' :: t) ↔ x.getLast? = some '\r' ∧ t.IsCrlf := by
  have hlast : (x ++ '\n' :: t = [] ∨ (x ++ '\n' :: t).getLast? = some '\n') ↔
      t = [] ∨ t.getLast? = some '\n' := by
    cases t with
    | nil => simp
    | cons c t => simp
  rw [isCrlf_iff, isCrlf_iff, paired_append_lf_iff hx, hlast, and_left_comm]

end Text

theorem isCrlf_flatten_iff {ls : List Line} (h : IsSplit ls) :
    Text.IsCrlf ls.flatten ↔ ∀ l ∈ ls, Text.endsWith Line.crlf l = true := by
  induction ls with
  | nil =>
      have hpaired : Text.Paired [] := fun above below he =>
        absurd he.symm (List.append_ne_nil_of_right_ne_nil above (List.cons_ne_nil _ _))
      exact iff_of_true ⟨Or.inl rfl, hpaired⟩ fun _ hl => absurd hl List.not_mem_nil
  | cons l ls ih =>
      obtain ⟨hl, ht, hls⟩ := IsSplit.cons_iff.mp h
      rw [List.flatten_cons, List.forall_mem_cons, ← ih hls]
      by_cases hterm : l.isTerminated = true
      · obtain ⟨x, rfl⟩ := List.getLast?_eq_some_iff.mp (beq_iff_eq.mp hterm)
        have hx : '\n' ∉ x := by simpa using hl.2
        rw [List.append_assoc, List.singleton_append, Text.isCrlf_append_lf_iff hx,
          Text.endsWith_crlf_concat_iff]
      · -- A line without a line feed is the last one, and neither side holds.
        have hnil : ls = [] := Classical.byContradiction fun hne => hterm (ht hne)
        subst hnil
        rw [List.flatten_nil, List.append_nil]
        refine iff_of_false (fun hcrlf => ?_) fun hcrlf => ?_
        · exact hterm (Line.isTerminated_of_endsWith_crlf (hcrlf.ending.resolve_left hl.1))
        · exact hterm (Line.isTerminated_of_endsWith_crlf hcrlf.1)

theorem not_mem_flatten_iff {c : Char} {ls : List Line} :
    c ∉ ls.flatten ↔ ∀ l ∈ ls, c ∉ l := by
  simp [List.mem_flatten]

/-! ## Through a run -/

/-- **Line endings stay as they are.**  Whatever failures the units of a file end with: when every
line of the text ends in a carriage return and a line feed, so does every line of the marked text
and of the text that is written back; and when there is no carriage return in the text, there is
none in these. -/
theorem endings_after_run (t : Text) (failures : List (Option Failure)) :
    ∃ out, afterRun failures t = .ok out ∧
      let marked := (markBlocks (splitLines t)).flatten
      (t.IsCrlf → Text.IsCrlf marked ∧ Text.IsCrlf out) ∧
        ('\r' ∉ t → '\r' ∉ marked ∧ '\r' ∉ out) := by
  have hmarked := isSplit_markBlocks t
  have hout := fun units => hmarked.settle (TestUnit.assign failures units)
  refine ⟨_, by rw [afterRun, unitsOf_markBlocks]; rfl, ?_, ?_⟩
  · intro ht
    rw [← flatten_splitLines t, isCrlf_flatten_iff (isSplit_splitLines t)] at ht
    have hlines := Line.lineClosed_crlf.markBlocks ht
    exact ⟨(isCrlf_flatten_iff hmarked).mpr hlines,
      (isCrlf_flatten_iff (hout _)).mpr (Line.lineClosed_crlf.settle hlines _)⟩
  · intro ht
    rw [← flatten_splitLines t, not_mem_flatten_iff] at ht
    have hlines := Line.lineClosed_not_mem_cr.markBlocks ht
    exact ⟨not_mem_flatten_iff.mpr hlines,
      not_mem_flatten_iff.mpr (Line.lineClosed_not_mem_cr.settle hlines _)⟩

/-- The first block gets a skip line and a blank line, and its test has passed; the test of the
second has failed, and its skip line loses a tag.  The other file ends without a line feed. -/
theorem endings_after_run_sample :
    let skip := Mark.indent ++ Mark.skipStatement ++ Mark.provisionalTag
    let t := text "// a\r\ntest a\r\n\r\n\x7d\r\ntest b\r\n" ++ skip ++ text "\r\n"
    let t' := text "test a\ntest b\n" ++ skip ++ text "\ntest c"
    let failures := [none, some .panic, some .timedOut]
    (t.IsCrlf ∧ ∃ out, afterRun failures t = .ok out ∧ out ≠ t ∧ Text.IsCrlf out) ∧
      ('\r' ∉ t' ∧ ∃ out, afterRun failures t' = .ok out ∧ out ≠ t' ∧ '\r' ∉ out) := by
  intro skip t t' failures
  have ht : t.IsCrlf := by
    rw [← flatten_splitLines t, isCrlf_flatten_iff (isSplit_splitLines t)]
    decide +kernel
  have ht' : '\r' ∉ t' := by decide +kernel
  obtain ⟨out, hout, hcrlf, -⟩ := endings_after_run t failures
  obtain ⟨out', hout', -, hlf⟩ := endings_after_run t' failures
  refine ⟨⟨ht, out, hout, ?_, (hcrlf ht).2⟩, ht', out', hout', ?_, (hlf ht').2⟩
  · rintro rfl
    exact absurd hout (by decide +kernel)
  · rintro rfl
    exact absurd hout' (by decide +kernel)

end SkipAudit
