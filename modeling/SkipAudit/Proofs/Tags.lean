/-
# Tags that stay

A skip line that stays in a file loses its provisional tags first, since the next run takes a
tagged line for one that it has put in itself.  The tags are taken out in one pass, from left to
right, and what closes up behind a tag is not looked at again.  So a tag is left when it was there
in pieces, with whole tags between them: that, and nothing else, is what `Text.Hides` says.

    Thinned.append           where nothing is removed across a seam, both sides are thinned apart
    occursIn_removeAll_iff   a word is left exactly where it had hidden
    isTagged_settled_iff     which files are written with a tagged skip line

The first two hold for every word that does not overlap with itself, and the tag is one.
-/
import SkipAudit.Proofs.Marked

namespace SkipAudit

namespace Text

/-! ## One pass of removals -/

/-- Taking the occurrences of `n` out of a text, from left to right, leaves the other text. -/
inductive Thinned (n : Text) : Text → Text → Prop
  | nil : Thinned n [] []
  | out {t u : Text} : Thinned n t u → Thinned n (n ++ t) u
  | keep {c : Char} {t u : Text} : ¬ n <+: c :: t → Thinned n t u → Thinned n (c :: t) (c :: u)

section Thinned

variable {n : Text}

theorem removeFrom_eq_drop (pending : Nat) (t : Text) :
    removeFrom n pending t = removeFrom n 0 (t.drop pending) := by
  induction pending generalizing t with
  | zero => rfl
  | succ pending ih =>
      cases t with
      | nil => rfl
      | cons c t => exact ih t

variable (hne : n ≠ [])

include hne

theorem removeAll_append_left (t : Text) : removeAll n (n ++ t) = removeAll n t := by
  obtain ⟨c, n', rfl⟩ := List.exists_cons_of_ne_nil hne
  have hp : (c :: n').isPrefixOf (c :: (n' ++ t)) = true :=
    List.isPrefixOf_iff_prefix.mpr (List.prefix_append (c :: n') t)
  rw [removeAll, removeAll, List.cons_append, removeFrom, if_pos hp, removeFrom_eq_drop,
    List.length_cons, Nat.add_sub_cancel, List.drop_left]

omit hne in
theorem removeAll_cons {c : Char} {t : Text} (h : ¬ n <+: c :: t) :
    removeAll n (c :: t) = c :: removeAll n t := by
  rw [removeAll, removeFrom, if_neg (mt List.isPrefixOf_iff_prefix.mp h)]
  rfl

theorem thinned_removeAll (t : Text) : Thinned n t (removeAll n t) := by
  induction hlen : t.length using Nat.strong_induction_on generalizing t with
  | _ len ih =>
      by_cases hp : n <+: t
      · obtain ⟨rest, rfl⟩ := hp
        have hpos := List.length_pos_iff.mpr hne
        rw [List.length_append] at hlen
        rw [removeAll_append_left hne]
        exact .out (ih rest.length (by omega) rest rfl)
      · cases t with
        | nil => exact .nil
        | cons c t =>
            rw [List.length_cons] at hlen
            rw [removeAll_cons hp]
            exact .keep hp (ih t.length (by omega) t rfl)

theorem thinned_iff {t u : Text} : Thinned n t u ↔ removeAll n t = u := by
  constructor
  · intro h
    induction h with
    | nil => rfl
    | out _ ih => rw [removeAll_append_left hne, ih]
    | keep hp _ ih => rw [removeAll_cons hp, ih]
  · rintro rfl
    exact thinned_removeAll hne t

end Thinned

/-! ## Seams -/

theorem isPrefix_append_cases {w p z : Text} (h : w <+: p ++ z) :
    w <+: p ∨ p.length < w.length ∧ w.drop p.length <+: z := by
  rcases Nat.lt_or_ge p.length w.length with hlt | hge
  · have hdrop := h.drop p.length
    rw [List.drop_left] at hdrop
    exact Or.inr ⟨hlt, hdrop⟩
  · exact Or.inl (List.prefix_of_prefix_length_le h (List.prefix_append p z) hge)

/-- No occurrence of `n` that begins above `z` reaches into it. -/
def OutOfReach (n z : Text) : Prop := ∀ i < n.length, 0 < i → ¬ n.drop i <+: z

instance (n z : Text) : Decidable (OutOfReach n z) :=
  inferInstanceAs (Decidable (∀ i < n.length, 0 < i → ¬ n.drop i <+: z))

section Seams

variable {n : Text}

theorem OutOfReach.append {y z : Text} (hy : OutOfReach n y) (hz : OutOfReach n z) :
    OutOfReach n (y ++ z) := by
  intro i hi h0 hp
  rcases isPrefix_append_cases hp with hp | ⟨hlt, hp⟩
  · exact hy i hi h0 hp
  · rw [List.length_drop] at hlt
    rw [List.drop_drop] at hp
    exact hz (i + y.length) (by omega) (by omega) hp

/-- Where no occurrence reaches over a seam, the texts on both sides are thinned apart. -/
theorem Thinned.append {x u z v : Text} (h : Thinned n x u) (hz : OutOfReach n z)
    (hv : Thinned n z v) : Thinned n (x ++ z) (u ++ v) := by
  induction h with
  | nil => exact hv
  | out _ ih =>
      rw [List.append_assoc]
      exact .out ih
  | @keep c t u hp _ ih =>
      refine .keep (fun (hn : n <+: (c :: t) ++ z) => ?_) ih
      rcases isPrefix_append_cases hn with hn | ⟨hlt, hn⟩
      · exact hp hn
      · exact hz (c :: t).length hlt (Nat.succ_pos _) hn

theorem thinned_of_length_lt {p : Text} (h : p.length < n.length) : Thinned n p p := by
  induction p with
  | nil => exact .nil
  | cons c p ih =>
      have hp : p.length < n.length := Nat.lt_of_succ_lt h
      exact .keep (fun hn => absurd hn.length_le (Nat.not_le.mpr h)) (ih hp)

/-! A word that does not overlap with itself. -/

variable (hn : OutOfReach n n)

include hn

theorem OutOfReach.append_right (y : Text) : OutOfReach n (n ++ y) := by
  intro i hi h0 hp
  have hlen : (n.drop i).length ≤ n.length := by
    rw [List.length_drop]
    omega
  exact hn i hi h0 (List.prefix_of_prefix_length_le hp (List.prefix_append n y) hlen)

/-- A piece of the end of `n` is not the beginning of an occurrence. -/
theorem thinned_suffix {s b v : Text} (hs : s <:+ n) (hlt : s.length < n.length)
    (hb : Thinned n b v) : Thinned n (s ++ b) (s ++ v) := by
  induction s with
  | nil => exact hb
  | cons c s ih =>
      refine .keep (fun hp => ?_) (ih ((List.suffix_cons c s).trans hs) (Nat.lt_of_succ_lt hlt))
      have hopen : c :: s <+: n :=
        List.prefix_of_prefix_length_le (List.prefix_append (c :: s) b) hp (Nat.le_of_lt hlt)
      rw [List.suffix_iff_eq_drop.mp hs] at hopen
      exact hn _ (by rw [List.length_cons] at *; omega) (Nat.sub_pos_of_lt hlt) hopen

/-- Short pieces close up when each has `n` behind it. -/
theorem thinned_pieces {pieces : List Text} (hlt : ∀ p ∈ pieces, p.length < n.length)
    {z v : Text} (hz : Thinned n z v) :
    Thinned n (pieces.flatMap (· ++ n) ++ z) (pieces.flatten ++ v) := by
  induction pieces with
  | nil => exact hz
  | cons p ps ih =>
      obtain ⟨hp, hps⟩ := List.forall_mem_cons.mp hlt
      have hrest := Thinned.out (ih hps)
      have hall := (thinned_of_length_lt hp).append (hn.append_right _) hrest
      rw [List.flatMap_cons, List.flatten_cons, List.append_assoc, List.append_assoc,
        List.append_assoc]
      exact hall

end Seams

/-! ## Words in hiding -/

/-- The word is in the text in two or more pieces, with a whole word between every two of them. -/
def Hides (n t : Text) : Prop :=
  ∃ first mid last, first ≠ [] ∧ last ≠ [] ∧ first ++ List.flatten mid ++ last = n ∧
    (first :: mid).flatMap (· ++ n) ++ last <:+: t

section Hides

variable {n : Text}

/-- What is left of a text had whole words taken out of it, and otherwise stood there. -/
theorem Thinned.exists_pieces {t u w : Text} (h : Thinned n t u) (hw : w <+: u) (hne : w ≠ []) :
    ∃ pieces last, last ≠ [] ∧ List.flatten pieces ++ last = w ∧
      pieces.flatMap (· ++ n) ++ last <+: t := by
  induction h generalizing w with
  | nil => exact absurd (List.prefix_nil.mp hw) hne
  | out _ ih =>
      obtain ⟨pieces, last, hlast, hsum, ht⟩ := ih hw hne
      refine ⟨[] :: pieces, last, hlast, hsum, ?_⟩
      rw [List.flatMap_cons, List.nil_append, List.append_assoc]
      exact (List.prefix_append_right_inj n).mpr ht
  | @keep c t u _ _ ih =>
      obtain ⟨w, rfl, hrest⟩ := (List.prefix_cons_iff.mp hw).resolve_left hne
      by_cases hnil : w = []
      · subst hnil
        have hcons : [c] <+: c :: t := List.cons_prefix_cons.mpr ⟨rfl, List.nil_prefix⟩
        exact ⟨[], [c], List.cons_ne_nil _ _, rfl, hcons⟩
      · obtain ⟨pieces, last, hlast, hsum, ht⟩ := ih hrest hnil
        have hcons : c :: (pieces.flatMap (· ++ n) ++ last) <+: c :: t :=
          List.cons_prefix_cons.mpr ⟨rfl, ht⟩
        cases pieces with
        | nil => exact ⟨[], c :: last, List.cons_ne_nil _ _, congrArg (c :: ·) hsum, hcons⟩
        | cons p ps => exact ⟨(c :: p) :: ps, last, hlast, congrArg (c :: ·) hsum, hcons⟩

theorem Thinned.hides {t u : Text} (h : Thinned n t u) (hne : n ≠ []) (hn : n <:+: u) :
    Hides n t := by
  induction h with
  | nil => exact absurd (List.infix_nil.mp hn) hne
  | @out t _ _ ih =>
      obtain ⟨first, mid, last, hfirst, hlast, hsum, hin⟩ := ih hn
      exact ⟨first, mid, last, hfirst, hlast, hsum, hin.trans (List.suffix_append n t).isInfix⟩
  | @keep c t u hp ht ih =>
      rcases List.infix_cons_iff.mp hn with hpre | hin
      · obtain ⟨n', hn', hpre⟩ := (List.prefix_cons_iff.mp hpre).resolve_left hne
        have hne' : n' ≠ [] := by
          rintro rfl
          exact hp (hn' ▸ List.cons_prefix_cons.mpr ⟨rfl, List.nil_prefix⟩)
        obtain ⟨pieces, last, hlast, hsum, hall⟩ := ht.exists_pieces hpre hne'
        have hcons : c :: (pieces.flatMap (· ++ n) ++ last) <+: c :: t :=
          List.cons_prefix_cons.mpr ⟨rfl, hall⟩
        cases pieces with
        | nil =>
            -- The word would have been found whole.
            refine absurd ?_ hp
            rw [hn', ← hsum]
            exact hcons
        | cons p ps =>
            refine ⟨c :: p, ps, last, List.cons_ne_nil _ _, hlast, ?_, hcons.isInfix⟩
            rw [hn', ← hsum]
            rfl
      · obtain ⟨first, mid, last, hfirst, hlast, hsum, hin⟩ := ih hin
        exact ⟨first, mid, last, hfirst, hlast, hsum, List.infix_cons hin⟩

theorem Hides.infix_removeAll {t : Text} (h : Hides n t) (hne : n ≠ []) (hn : OutOfReach n n) :
    n <:+: removeAll n t := by
  obtain ⟨first, mid, last, hfirst, hlast, hsum, above, below, rfl⟩ := h
  have hlens : first.length + mid.flatten.length + last.length = n.length := by
    rw [← List.length_append, ← List.length_append, hsum]
  have hfirst' := List.length_pos_iff.mpr hfirst
  have hlast' := List.length_pos_iff.mpr hlast
  have hshort : ∀ p ∈ first :: mid, p.length < n.length := by
    refine List.forall_mem_cons.mpr ⟨by omega, fun p hp => ?_⟩
    have hle := (List.sublist_flatten_of_mem hp).length_le
    omega
  have hopen : OutOfReach n first := fun i hi h0 hp =>
    hn i hi h0 (hp.trans ⟨mid.flatten ++ last, by rw [← List.append_assoc, hsum]⟩)
  have hclose : Thinned n (last ++ below) (last ++ removeAll n below) :=
    thinned_suffix hn ⟨first ++ mid.flatten, hsum⟩ (by omega) (thinned_removeAll hne below)
  have hseam : OutOfReach n ((first :: mid).flatMap (· ++ n) ++ (last ++ below)) := by
    rw [List.flatMap_cons, List.append_assoc, List.append_assoc]
    exact hopen.append (hn.append_right _)
  have hall := (thinned_removeAll hne above).append hseam (thinned_pieces hn hshort hclose)
  have hword : (first :: mid).flatten ++ (last ++ removeAll n below) = n ++ removeAll n below := by
    rw [List.flatten_cons, ← List.append_assoc, hsum]
  rw [List.append_assoc above, List.append_assoc _ last, (thinned_iff hne).mp hall, hword]
  exact List.infix_append' _ _ _

/-- **What one pass leaves of a word.**  A word that does not overlap with itself is left in a text
exactly when it had been hiding there. -/
theorem occursIn_removeAll_iff {t : Text} (hne : n ≠ []) (hn : OutOfReach n n) :
    occursIn n (removeAll n t) = true ↔ Hides n t := by
  rw [occursIn_iff]
  constructor
  · exact (thinned_removeAll hne t).hides hne
  · exact fun h => h.infix_removeAll hne hn

end Hides

end Text

/-! ## Tagged skip lines -/

namespace Line

/-- The line is a skip line with a tag: the next run takes it for one that it has put in. -/
def isTagged (l : Line) : Bool := l.marksBlock && l.isProvisional

/-- The tag hides in the line, and taking tags out does not make a declaration of it. -/
def KeepsTag (l : Line) : Prop :=
  Text.Hides Mark.provisionalTag l ∧ l.withoutTag.isDeclaration = false

variable {l : Line}

theorem isTagged_of_isSkip (h : l.isSkip = false) : l.isTagged = false := by
  rw [isTagged, marksBlock, h, Bool.and_false, Bool.false_and]

theorem isTagged_of_isDeclaration (h : l.isDeclaration = true) : l.isTagged = false := by
  rw [isTagged, marksBlock, h]
  rfl

theorem isProvisional_withoutTag_iff :
    l.withoutTag.isProvisional = true ↔ Text.Hides Mark.provisionalTag l :=
  Text.occursIn_removeAll_iff (by decide) (by decide +kernel)

theorem isTagged_withoutTag_iff (h : l.isSkip = true) :
    l.withoutTag.isTagged = true ↔ l.KeepsTag := by
  rw [isTagged, marksBlock, isSkip_withoutTag h, Bool.and_true, Bool.and_eq_true,
    isProvisional_withoutTag_iff, Bool.not_eq_true', and_comm]
  rfl

theorem isTagged_persisted_iff (h : l.isDeclaration = false) :
    l.persisted.isTagged = true ↔ l.isSkip = true ∧ l.KeepsTag := by
  rw [persisted, h, Bool.not_false, Bool.true_and]
  cases hs : l.isSkip with
  | true => simpa using isTagged_withoutTag_iff hs
  | false => simp [isTagged_of_isSkip hs]

end Line

theorem any_isTagged_of_bare {ls : List Line} (h : ∀ l ∈ ls, l.isSkip = false) :
    ls.any Line.isTagged = false := by
  rw [List.any_eq_false]
  intro l hl
  rw [Line.isTagged_of_isSkip (h l hl)]
  exact Bool.false_ne_true

namespace TestBlock

variable {b : TestBlock}

/-- A block has a tag on its one skip line, or nowhere. -/
theorem MarkedBy.any_isTagged {above below : List Line} {skip : Line}
    (h : b.MarkedBy above skip below) (hb : b.head.isDeclaration = true) (cleared : Bool) :
    (b.settle cleared).lines.any Line.isTagged = (!cleared && skip.withoutTag.isTagged) := by
  have hhead := Line.isTagged_of_isDeclaration hb
  cases cleared with
  | true =>
      have hbody := any_isTagged_of_bare b.isBare_settle_cleared
      rw [lines, List.any_cons, hbody]
      exact (Bool.or_false _).trans hhead
  | false =>
      rw [h.settle_kept, lines, List.any_cons, List.any_append, List.any_cons, hhead,
        any_isTagged_of_bare h.above, any_isTagged_of_bare h.below]
      simp

/-- The skip line that a block has on its own is the only one that can keep a tag: one that is put
in has its tag at the end. -/
theorem any_isTagged_settle_mark (hb : b.WellFormed) (cleared : Bool) :
    (b.mark.settle cleared).lines.any Line.isTagged =
      (!cleared && (b.body.find? Line.isSkip).any (·.withoutTag.isTagged)) := by
  have hhead := ((placed_mark b).wellFormed hb).head
  cases hfind : b.body.find? Line.isSkip with
  | some skip =>
      obtain ⟨-, above, below, hm⟩ := markedBy_mark_of_find hfind
      rw [hm.any_isTagged hhead, Option.any_some]
  | none =>
      obtain ⟨above, skip, below, hm, hmem | ⟨-, rfl⟩⟩ := (placed_mark b).exists_markedBy
      · exact absurd hm.isSkip (List.find?_eq_none.mp hfind skip hmem)
      · have he := Line.isEnding_terminator b.head
        rw [hm.any_isTagged hhead, Line.withoutTag_provisionalSkip he, Line.isTagged,
          Line.isProvisional_plainSkip he, Bool.and_false, Bool.and_false, Option.any_none,
          Bool.and_false]

end TestBlock

/-! ## A whole file -/

/-- A skip line that stays keeps a tag: one above the first declaration, or the first skip line of a
block whose unit has failed. -/
def Outline.KeepsTag (o : Outline) (failures : List (Option Failure)) : Prop :=
  (∃ l ∈ o.preamble, l.isSkip = true ∧ l.KeepsTag) ∨
    ∃ (k : Nat) (b : TestBlock) (f : Failure) (skip : Line),
      o.blocks[k]? = some b ∧ failures[k]? = some (some f) ∧
        b.body.find? Line.isSkip = some skip ∧ skip.KeepsTag

namespace Outline

variable {o : Outline} (h : o.WellFormed) (failures : List (Option Failure))

include h

theorem any_isTagged_preamble_iff :
    (o.afterRun failures).preamble.any Line.isTagged = true ↔
      ∃ l ∈ o.preamble, l.isSkip = true ∧ l.KeepsTag := by
  rw [afterRun, settle, mark, List.any_map, List.any_eq_true]
  exact exists_congr fun l => and_congr_right fun hl =>
    Line.isTagged_persisted_iff (h.preamble l hl)

theorem any_isTagged_blocks_iff :
    ((o.afterRun failures).blocks.flatMap TestBlock.lines).any Line.isTagged = true ↔
      ∃ (k : Nat) (b : TestBlock) (f : Failure) (skip : Line),
        o.blocks[k]? = some b ∧ failures[k]? = some (some f) ∧
          b.body.find? Line.isSkip = some skip ∧ skip.KeepsTag := by
  rw [List.any_flatMap, List.any_eq_true, blocks_afterRun]
  constructor
  · rintro ⟨c, hc, htagged⟩
    obtain ⟨k, hk⟩ := List.getElem?_of_mem hc
    obtain ⟨f?, b, hf, hb, rfl⟩ := List.getElem?_zipWith_eq_some.mp hk
    rw [TestBlock.any_isTagged_settle_mark (h.blocks b (List.mem_of_getElem? hb)),
      Bool.and_eq_true, Option.any_eq_true] at htagged
    obtain ⟨hfailed, skip, hskip, hkeeps⟩ := htagged
    cases f? with
    | none => exact absurd hfailed Bool.false_ne_true
    | some f =>
        exact ⟨k, b, f, skip, hb, hf, hskip,
          (Line.isTagged_withoutTag_iff (List.find?_some hskip)).mp hkeeps⟩
  · rintro ⟨k, b, f, skip, hb, hf, hskip, hkeeps⟩
    refine ⟨b.mark.settle false, List.mem_of_getElem?
      (List.getElem?_zipWith_eq_some.mpr ⟨some f, b, hf, hb, rfl⟩), ?_⟩
    rw [TestBlock.any_isTagged_settle_mark (h.blocks b (List.mem_of_getElem? hb)), hskip]
    exact (Line.isTagged_withoutTag_iff (List.find?_some hskip)).mpr hkeeps

theorem any_isTagged_afterRun_iff :
    (o.afterRun failures).lines.any Line.isTagged = true ↔ o.KeepsTag failures := by
  rw [lines, List.any_append, Bool.or_eq_true, any_isTagged_preamble_iff h,
    any_isTagged_blocks_iff h, KeepsTag]

end Outline

/-- **When a tagged skip line is written.**  Whatever failures the units of a file end with, there
is a skip line with a tag among the lines that are written back exactly when a skip line that stays
hides a tag, and does not become a declaration when its tags are taken out. -/
theorem isTagged_settled_iff (t : Text) :
    ∃ units, unitsOf (markBlocks (splitLines t)) = .ok units ∧
      ∀ failures : List (Option Failure), failures.length = units.length →
        let out := settle (TestUnit.assign failures units) (markBlocks (splitLines t))
        splitLines out.flatten = out ∧
          ((∃ l ∈ out, l.isTagged = true) ↔ (outline (splitLines t)).KeepsTag failures) := by
  have hwf := wellFormed_outline (splitLines t)
  have hs := isSplit_outline t
  refine ⟨_, unitsOf_markBlocks _, fun failures hlen => ?_⟩
  rw [length_unitListAt, Outline.mark, List.length_map] at hlen
  intro out
  have hout : ((outline (splitLines t)).afterRun failures).lines = out :=
    (Outline.lines_afterRun hwf hlen).trans (congrArg _ (markBlocks_eq _).symm)
  constructor
  · rw [← hout]
    exact splitLines_flatten (Outline.isSplit_afterRun hwf hlen hs)
  · rw [← hout, ← List.any_eq_true]
    exact Outline.any_isTagged_afterRun_iff hwf failures

/-- Both skip lines hide a tag.  The second test fails, and its line keeps the tag; when both have
passed there is no line to keep one. -/
theorem isTagged_settled_iff_sample :
    let skip : Line := Mark.indent ++ Mark.skipStatement ++
      text " // inserted by // inserted by unskip unskip\n"
    let t := text "test a\n" ++ skip ++ text "test b\n" ++ skip
    let marked := markBlocks (splitLines t)
    ∃ units, unitsOf marked = .ok units ∧ units.length = 2 ∧
      (∃ l ∈ settle (TestUnit.assign [none, some .panic] units) marked, l.isTagged = true) ∧
        ¬ ∃ l ∈ settle (TestUnit.assign [none, none] units) marked, l.isTagged = true := by
  intro skip t marked
  have hcount : (unitsOf marked).map List.length = .ok 2 := by decide +kernel
  have hblocks : outline (splitLines t) =
      ⟨[], [⟨text "test a\n", [skip]⟩, ⟨text "test b\n", [skip]⟩]⟩ := by decide +kernel
  have hskip : skip.isSkip = true := by decide +kernel
  have hkeeps : skip.KeepsTag := (Line.isTagged_withoutTag_iff hskip).mp (by decide +kernel)
  obtain ⟨units, hunits, hrun⟩ := isTagged_settled_iff t
  rw [hunits] at hcount
  have hlen : units.length = 2 := Except.ok.inj hcount
  refine ⟨units, hunits, hlen, (hrun [none, some .panic] hlen.symm).2.mpr ?_, fun htagged => ?_⟩
  · rw [hblocks]
    exact Or.inr ⟨1, _, .panic, skip, rfl, rfl, List.find?_cons_of_pos hskip, hkeeps⟩
  · have hpassed := (hrun [none, none] hlen.symm).2.mp htagged
    rcases hpassed with ⟨l, hl, -⟩ | ⟨k, -, f, -, -, hf, -⟩
    · rw [hblocks] at hl
      exact absurd hl List.not_mem_nil
    · have hmem := List.mem_of_getElem? hf
      simp at hmem

/-- **A tag that hides.**  The test has been run again and has timed out, and a tag is left on its
skip line.  The next run takes the line for its own: it does not run the test, and the line goes. -/
theorem hidden_tag_stays :
    let head := text "test \x7b\n"
    let skip := Mark.indent ++ Mark.skipStatement
    let t := head ++ skip ++ text " // inserted by un // inserted by unskipskip\n\x7d\n"
    let out := head ++ skip ++ text " // inserted by unskip\n\x7d\n"
    let marked := markBlocks (splitLines t)
    (unitsOf marked).map (fun units =>
        (settle (TestUnit.assign [some .timedOut] units) marked).any Line.isTagged) = .ok true ∧
      afterRun [some .timedOut] t = .ok out ∧
      (unitsOf (markBlocks (splitLines out))).map (·.map (·.selected)) = .ok [false] ∧
      afterRun [none] out = .ok (head ++ text "\x7d\n") := by
  decide +kernel

end SkipAudit
