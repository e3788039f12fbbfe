/-
# Marking, block by block

`markBlocks` carries an open block through the lines of a file.  Here the state is read off
the lines that went in: marking is one map on outlines (`markBlocks_lines`), and
`TestBlock.mark` says what it does to a block without any state.

Most of what follows needs less than that: only in which of three ways a block came to its
skip line (`Placed`).

* `kept`: the block had skip lines, and the first one is left;
* `underHead`: the new line stands under the declaration, with a blank line after it;
* `underCheck`: it stands under a check for another backend.

Each fact about marked blocks is proved by these three cases.
-/
import Mathlib.Data.List.DropRight
import SkipAudit.Proofs.Marks
import SkipAudit.Proofs.Outline

namespace SkipAudit

/-! ## The rule for one block -/

/-- The lines without the skip lines after the first one. -/
def firstSkipOnly : List Line → List Line
  | [] => []
  | l :: ls => if l.isSkip then l :: ls.filter (!·.isSkip) else l :: firstSkipOnly ls

/-- A line that may stand above the place of a new skip line. -/
def Line.isLead (l : Line) : Bool := l.isCheck || l.isBlank

/-- The lines that open a block, up to the last backend check that stands above every
statement: none if there is no such check. -/
def opening (ls : List Line) : List Line := (ls.takeWhile Line.isLead).rdropWhile (!·.isCheck)

namespace TestBlock

/-- The block has a skip line. -/
def isMarked (b : TestBlock) : Bool := b.body.any Line.isSkip

/-- The block with exactly one skip line. -/
def mark (b : TestBlock) : TestBlock :=
  let ending := b.head.terminator
  if b.isMarked then ⟨b.head, firstSkipOnly b.body⟩
  else if opening b.body = [] then
    ⟨b.head.terminateWith ending, Line.provisionalSkip ending :: ending :: b.body⟩
  else
    ⟨b.head, OpenBlock.terminateLast ending (opening b.body) ++
      Line.provisionalSkip ending :: b.body.drop (opening b.body).length⟩

/-- The block as it stands in the reader after its last line. -/
def read (b : TestBlock) : OpenBlock := b.body.foldl OpenBlock.add (.start b.head)

end TestBlock

/-! ## What the reader knows -/

theorem firstSkipOnly_concat (ls : List Line) (l : Line) :
    firstSkipOnly (ls ++ [l]) =
      if l.isSkip && ls.any Line.isSkip then firstSkipOnly ls else firstSkipOnly ls ++ [l] := by
  induction ls with
  | nil => by_cases hl : l.isSkip = true <;> simp [firstSkipOnly, hl]
  | cons m ls ih =>
      by_cases hm : m.isSkip = true
      · by_cases hl : l.isSkip = true <;> simp [firstSkipOnly, hm, hl]
      · rw [List.cons_append, firstSkipOnly, if_neg hm, ih, firstSkipOnly, if_neg hm]
        simp only [List.any_cons, hm, Bool.false_or]
        split <;> rfl

theorem firstSkipOnly_of_unmarked {ls : List Line} (h : ls.any Line.isSkip = false) :
    firstSkipOnly ls = ls := by
  induction ls with
  | nil => rfl
  | cons l ls ih =>
      rw [List.any_cons, Bool.or_eq_false_iff] at h
      rw [firstSkipOnly, if_neg (by simp [h.1]), ih h.2]

theorem opening_prefix (ls : List Line) : opening ls <+: ls :=
  (List.rdropWhile_prefix _ _).trans (List.takeWhile_prefix _)

/-- The opening lines of a block end in a check. -/
theorem exists_check_of_opening {ls : List Line} (h : opening ls ≠ []) :
    ∃ above check below, opening ls = above ++ [check] ∧ ls = above ++ check :: below := by
  obtain ⟨below, hbelow⟩ := opening_prefix ls
  obtain ⟨above, check, hopen⟩ := (List.eq_nil_or_concat (opening ls)).resolve_left h
  rw [List.concat_eq_append] at hopen
  refine ⟨above, check, below, hopen, ?_⟩
  rw [List.append_cons, ← hopen, hbelow]

theorem drop_opening {ls above below : List Line} {check : Line}
    (hopen : opening ls = above ++ [check]) (hls : ls = above ++ check :: below) :
    ls.drop (opening ls).length = below := by
  rw [hopen, hls, List.append_cons above check below, List.drop_left]

theorem opening_concat (ls : List Line) (l : Line) :
    opening (ls ++ [l]) =
      if ls.all Line.isLead && l.isCheck then ls ++ [l] else opening ls := by
  rw [opening, opening, List.takeWhile_append]
  by_cases hall : ls.all Line.isLead = true
  · have htake : ls.takeWhile Line.isLead = ls := by
      rw [List.takeWhile_eq_self_iff]
      exact fun m hm => List.all_eq_true.mp hall m hm
    rw [htake, if_pos rfl, hall, Bool.true_and]
    by_cases hc : l.isCheck = true
    · rw [if_pos hc, List.takeWhile_cons_of_pos (by simp [Line.isLead, hc]), List.takeWhile_nil,
        List.rdropWhile_concat_neg _ _ _ (by simp [hc])]
    · rw [if_neg hc]
      by_cases hb : l.isBlank = true
      · rw [List.takeWhile_cons_of_pos (by simp [Line.isLead, hb]), List.takeWhile_nil,
          List.rdropWhile_concat_pos _ _ _ (by simp [hc])]
      · rw [List.takeWhile_cons_of_neg (by simp [Line.isLead, hc, hb]), List.append_nil]
  · rw [if_neg, Bool.eq_false_iff.mpr hall, Bool.false_and, if_neg Bool.false_ne_true]
    intro hlen
    have htake := (List.takeWhile_prefix (l := ls) Line.isLead).eq_of_length hlen
    refine hall (List.all_eq_true.mpr fun m hm => ?_)
    rw [← htake] at hm
    exact List.mem_takeWhile_imp hm

/-- The state of the reader after some lines of a block. -/
structure ReadBlock (head : Line) (ls : List Line) (b : OpenBlock) : Prop where
  head : b.head = head
  body : b.body = firstSkipOnly ls
  isMarked : b.isMarked = ls.any Line.isSkip
  /-- Once a skip line has been read, the anchor is of no use and may be anything. -/
  anchor : ls.any Line.isSkip = false →
    b.anchor = if opening ls = [] then none else some (opening ls).length
  hasStatement : ls.any Line.isSkip = false → b.hasStatement = !ls.all Line.isLead

namespace ReadBlock

variable {head : Line} {ls : List Line} {b : OpenBlock}

theorem start (head : Line) : ReadBlock head [] (.start head) :=
  ⟨rfl, rfl, rfl, fun _ => rfl, fun _ => rfl⟩

theorem add_skip (h : ReadBlock head ls b) {l : Line} (hl : l.isSkip = true) :
    ReadBlock head (ls ++ [l]) (b.add l) := by
  have hany : (ls ++ [l]).any Line.isSkip = true := by simp [hl]
  have hbody := firstSkipOnly_concat ls l
  rw [hl, Bool.true_and] at hbody
  rw [OpenBlock.add, if_pos hl]
  by_cases hm : b.isMarked = true
  · rw [if_pos hm]
    rw [if_pos (h.isMarked ▸ hm)] at hbody
    exact ⟨h.head, h.body.trans hbody.symm, hm.trans hany.symm,
      fun hf => by simp [hany] at hf, fun hf => by simp [hany] at hf⟩
  · rw [if_neg hm]
    rw [if_neg (h.isMarked ▸ hm), ← h.body] at hbody
    exact ⟨h.head, hbody.symm, hany.symm,
      fun hf => by simp [hany] at hf, fun hf => by simp [hany] at hf⟩

theorem add_other (h : ReadBlock head ls b) {l : Line} (hl : l.isSkip = false) :
    ReadBlock head (ls ++ [l]) (b.add l) := by
  have hany : (ls ++ [l]).any Line.isSkip = ls.any Line.isSkip := by simp [hl]
  have hbody : b.body ++ [l] = firstSkipOnly (ls ++ [l]) := by
    rw [firstSkipOnly_concat, hl, Bool.false_and, if_neg Bool.false_ne_true, h.body]
  have hfree : ls.any Line.isSkip = false → b.body = ls :=
    fun hf => h.body.trans (firstSkipOnly_of_unmarked hf)
  rw [OpenBlock.add, if_neg (by simp [hl])]
  by_cases hc : (l.isCheck && !b.hasStatement) = true
  · rw [if_pos hc]
    rw [Bool.and_eq_true, Bool.not_eq_true'] at hc
    refine ⟨h.head, hbody, h.isMarked.trans hany.symm, fun hf => ?_, fun hf => ?_⟩
    · rw [hany] at hf
      have hall : ls.all Line.isLead = true := by simpa [hc.2] using h.hasStatement hf
      simp [opening_concat, hall, hc.1, hfree hf]
    · rw [hany] at hf
      have hall : ls.all Line.isLead = true := by simpa [hc.2] using h.hasStatement hf
      show b.hasStatement = _
      simp [hc.2, hall, Line.isLead, hc.1]
  · rw [if_neg hc]
    have hopen : ls.any Line.isSkip = false → opening (ls ++ [l]) = opening ls := by
      intro hf
      rw [h.hasStatement hf, Bool.not_not, Bool.and_comm] at hc
      rw [opening_concat, if_neg hc]
    have hanchor : (ls ++ [l]).any Line.isSkip = false → b.anchor =
        if opening (ls ++ [l]) = [] then none else some (opening (ls ++ [l])).length := by
      intro hf
      rw [hany] at hf
      rw [hopen hf, h.anchor hf]
    by_cases hb : l.isBlank = true
    · rw [if_pos hb]
      refine ⟨h.head, hbody, h.isMarked.trans hany.symm, hanchor, fun hf => ?_⟩
      rw [hany] at hf
      show b.hasStatement = _
      simp [h.hasStatement hf, Line.isLead, hb]
    · rw [if_neg hb]
      refine ⟨h.head, hbody, h.isMarked.trans hany.symm, hanchor, fun hf => ?_⟩
      rw [hany] at hf
      rw [h.hasStatement hf, Bool.not_not] at hc
      have hall : (ls ++ [l]).all Line.isLead = false := by
        simpa [Line.isLead, hb, Bool.and_comm] using hc
      rw [hall]
      rfl

theorem add (h : ReadBlock head ls b) (l : Line) : ReadBlock head (ls ++ [l]) (b.add l) := by
  cases hl : l.isSkip with
  | true => exact h.add_skip hl
  | false => exact h.add_other hl

end ReadBlock

theorem readBlock_read (b : TestBlock) : ReadBlock b.head b.body b.read := by
  obtain ⟨head, body⟩ := b
  induction body using List.reverseRecOn with
  | nil => exact .start head
  | append_singleton ls l ih =>
      rw [TestBlock.read, List.foldl_concat]
      exact ih.add l

/-- What the reader makes of a block is what the rule says. -/
theorem close_read (b : TestBlock) : b.read.close = b.mark.lines := by
  have h := readBlock_read b
  have hprefix := opening_prefix b.body
  rw [OpenBlock.close, TestBlock.mark, TestBlock.isMarked, h.head, h.body, h.isMarked]
  by_cases hm : b.body.any Line.isSkip = true
  · simp only [if_pos hm, TestBlock.lines]
  · have hf : b.body.any Line.isSkip = false := Bool.eq_false_iff.mpr hm
    simp only [if_neg hm, h.anchor hf, firstSkipOnly_of_unmarked hf]
    by_cases ho : opening b.body = []
    · simp only [if_pos ho, TestBlock.lines]
    · simp only [if_neg ho, TestBlock.lines, ← List.prefix_iff_eq_take.mp hprefix]

/-! ## Marking as a map on outlines -/

theorem markFrom_body {ls : List Line} (h : ∀ l ∈ ls, l.isDeclaration = false) (b : OpenBlock)
    (rest : List Line) :
    markFrom (some b) (ls ++ rest) = markFrom (some (ls.foldl OpenBlock.add b)) rest := by
  induction ls generalizing b with
  | nil => rfl
  | cons l ls ih =>
      rw [List.cons_append, markFrom, if_neg (by simp [h l List.mem_cons_self]),
        ih fun m hm => h m (List.mem_cons_of_mem _ hm), List.foldl_cons]

theorem markFrom_preamble {ls : List Line} (h : ∀ l ∈ ls, l.isDeclaration = false)
    (rest : List Line) : markFrom none (ls ++ rest) = ls ++ markFrom none rest := by
  induction ls with
  | nil => rfl
  | cons l ls ih =>
      rw [List.cons_append, markFrom, if_neg (by simp [h l List.mem_cons_self]),
        ih fun m hm => h m (List.mem_cons_of_mem _ hm), List.cons_append]

theorem markFrom_blocks {bs : List TestBlock} (h : ∀ b ∈ bs, b.WellFormed) (b : OpenBlock) :
    markFrom (some b) (bs.flatMap TestBlock.lines) =
      b.close ++ markFrom none (bs.flatMap TestBlock.lines) := by
  cases bs with
  | nil => simp [markFrom]
  | cons c cs =>
      have hc := (h c List.mem_cons_self).head
      rw [List.flatMap_cons, TestBlock.lines, List.cons_append, markFrom, if_pos hc, markFrom,
        if_pos hc]

theorem markFrom_none_blocks {bs : List TestBlock} (h : ∀ b ∈ bs, b.WellFormed) :
    markFrom none (bs.flatMap TestBlock.lines) =
      (bs.map TestBlock.mark).flatMap TestBlock.lines := by
  induction bs with
  | nil => rfl
  | cons b bs ih =>
      have hb := h b List.mem_cons_self
      have hbs : ∀ c ∈ bs, c.WellFormed := fun c hc => h c (List.mem_cons_of_mem _ hc)
      rw [List.flatMap_cons, TestBlock.lines, List.cons_append, markFrom, if_pos hb.head,
        markFrom_body hb.body, markFrom_blocks hbs, ih hbs, List.map_cons, List.flatMap_cons,
        ← close_read, TestBlock.read]

/-- Mark every block. -/
def Outline.mark (o : Outline) : Outline := ⟨o.preamble, o.blocks.map TestBlock.mark⟩

theorem markBlocks_lines {o : Outline} (h : o.WellFormed) : markBlocks o.lines = o.mark.lines := by
  rw [markBlocks, Outline.lines, markFrom_preamble h.preamble, markFrom_none_blocks h.blocks]
  rfl

theorem markBlocks_eq (ls : List Line) : markBlocks ls = (outline ls).mark.lines := by
  rw [← markBlocks_lines (wellFormed_outline ls), lines_outline]

/-! ## The three ways to a skip line -/

/-- How a block comes to its one skip line. -/
inductive Placed : TestBlock → TestBlock → Prop
  | kept {head skip : Line} {above below : List Line} :
      (∀ l ∈ above, l.isSkip = false) → skip.isSkip = true →
      Placed ⟨head, above ++ skip :: below⟩
        ⟨head, above ++ skip :: below.filter (!·.isSkip)⟩
  | underHead {head : Line} {body : List Line} :
      (∀ l ∈ body, l.isSkip = false) →
      Placed ⟨head, body⟩
        ⟨head.terminateWith head.terminator,
          Line.provisionalSkip head.terminator :: head.terminator :: body⟩
  | underCheck {head check : Line} {above below : List Line} :
      (∀ l ∈ above ++ check :: below, l.isSkip = false) →
      Placed ⟨head, above ++ check :: below⟩
        ⟨head, above ++ check.terminateWith head.terminator ::
          Line.provisionalSkip head.terminator :: below⟩

theorem firstSkipOnly_append {above below : List Line} {skip : Line}
    (ha : ∀ l ∈ above, l.isSkip = false) (hs : skip.isSkip = true) :
    firstSkipOnly (above ++ skip :: below) = above ++ skip :: below.filter (!·.isSkip) := by
  induction above with
  | nil => rw [List.nil_append, firstSkipOnly, if_pos hs, List.nil_append]
  | cons l ls ih =>
      rw [List.cons_append, firstSkipOnly, if_neg (by simp [ha l List.mem_cons_self]),
        ih fun m hm => ha m (List.mem_cons_of_mem _ hm), List.cons_append]

theorem terminateLast_concat (ending : Text) (ls : List Line) (l : Line) :
    OpenBlock.terminateLast ending (ls ++ [l]) = ls ++ [l.terminateWith ending] := by
  induction ls with
  | nil => rfl
  | cons m ls ih =>
      cases ls with
      | nil => rfl
      | cons k ls =>
          show m :: OpenBlock.terminateLast ending (k :: ls ++ [l]) = _
          rw [ih]
          rfl

theorem terminateLast_of_isTerminated {ls : List Line} (h : ∀ l ∈ ls, l.isTerminated = true)
    (ending : Text) : OpenBlock.terminateLast ending ls = ls := by
  rcases List.eq_nil_or_concat ls with rfl | ⟨init, l, rfl⟩
  · rfl
  · rw [List.concat_eq_append] at h ⊢
    rw [terminateLast_concat, Line.terminateWith_of_isTerminated (h l (by simp))]

theorem placed_mark (b : TestBlock) : Placed b b.mark := by
  obtain ⟨head, body⟩ := b
  rw [TestBlock.mark, TestBlock.isMarked]
  cases hfind : body.find? Line.isSkip with
  | some skip =>
      obtain ⟨hs, above, below, rfl, ha⟩ := List.find?_eq_some_iff_append.mp hfind
      have ha' : ∀ l ∈ above, l.isSkip = false := by simpa using ha
      rw [if_pos (by simp [hs]), firstSkipOnly_append ha' hs]
      exact .kept ha' hs
  | none =>
      have hfree : ∀ l ∈ body, l.isSkip = false := by simpa using hfind
      rw [if_neg (by simpa using hfree)]
      by_cases ho : opening body = []
      · rw [if_pos ho]
        exact .underHead hfree
      · obtain ⟨above, check, below, hopen, hbody⟩ := exists_check_of_opening ho
        rw [if_neg ho, drop_opening hopen hbody, hopen, terminateLast_concat, List.append_assoc,
          List.singleton_append, hbody]
        exact .underCheck (hbody ▸ hfree)

/-! ## Marked blocks -/

namespace TestBlock

/-- The block has this skip line and no other, between these lines. -/
structure MarkedBy (b : TestBlock) (above : List Line) (skip : Line) (below : List Line) :
    Prop where
  body : b.body = above ++ skip :: below
  isSkip : skip.isSkip = true
  above : ∀ l ∈ above, l.isSkip = false
  below : ∀ l ∈ below, l.isSkip = false

/-- The block has no skip line. -/
def IsBare (b : TestBlock) : Prop := ∀ l ∈ b.body, l.isSkip = false

theorem isMarked_eq_false_iff {b : TestBlock} : b.isMarked = false ↔ b.IsBare := by
  rw [isMarked, List.any_eq_false, IsBare]
  exact forall₂_congr fun _ _ => Bool.not_eq_true _ ▸ Iff.rfl

end TestBlock

open Line TestBlock

namespace Placed

variable {b m : TestBlock}

/-- The first skip line of the block, or else a provisional one: the only one afterwards. -/
theorem exists_markedBy (h : Placed b m) :
    ∃ above skip below, m.MarkedBy above skip below ∧
      (skip ∈ b.body ∨ b.IsBare ∧ skip = provisionalSkip b.head.terminator) := by
  cases h with
  | @kept head skip above below ha hs =>
      refine ⟨above, skip, _, ⟨rfl, hs, ha, ?_⟩, Or.inl (by simp)⟩
      intro l hl
      simpa using (List.mem_filter.mp hl).2
  | @underHead head body hfree =>
      refine ⟨[], _, head.terminator :: body, ⟨rfl, isSkip_provisionalSkip _, ?_, ?_⟩,
        Or.inr ⟨hfree, rfl⟩⟩
      · exact fun _ hl => absurd hl List.not_mem_nil
      · exact List.forall_mem_cons.mpr ⟨isSkip_ending (isEnding_terminator head), hfree⟩
  | @underCheck head check above below hfree =>
      obtain ⟨ha, hc, hb⟩ : (∀ l ∈ above, l.isSkip = false) ∧ check.isSkip = false ∧
          ∀ l ∈ below, l.isSkip = false := by
        simpa [List.forall_mem_append, or_imp, forall_and] using hfree
      refine ⟨above ++ [check.terminateWith head.terminator], _, below,
        ⟨by simp, isSkip_provisionalSkip _, ?_, hb⟩, Or.inr ⟨hfree, rfl⟩⟩
      refine List.forall_mem_append.mpr ⟨ha, fun l hl => ?_⟩
      rw [List.mem_singleton.mp hl, isSkip_terminateWith (isEnding_terminator head), hc]

theorem head_eq (h : Placed b m) :
    m.head = b.head ∨ m.head = b.head.terminateWith b.head.terminator := by
  cases h with
  | kept => exact Or.inl rfl
  | underHead => exact Or.inr rfl
  | underCheck => exact Or.inl rfl

/-- Where the lines of a marked block come from. -/
theorem mem_body (h : Placed b m) {l : Line} (hl : l ∈ m.body) :
    l ∈ b.body ∨ (∃ k ∈ b.body, l = k.terminateWith b.head.terminator) ∨
      l = provisionalSkip b.head.terminator ∨ l = b.head.terminator := by
  cases h with
  | kept ha hs =>
      rcases List.mem_append.mp hl with hl | hl
      · exact Or.inl (List.mem_append_left _ hl)
      · refine Or.inl (List.mem_append_right _ ?_)
        rcases List.mem_cons.mp hl with rfl | hl
        · exact List.mem_cons_self
        · exact List.mem_cons_of_mem _ (List.mem_of_mem_filter hl)
  | underHead hfree =>
      rcases List.mem_cons.mp hl with rfl | hl
      · exact Or.inr (Or.inr (Or.inl rfl))
      · rcases List.mem_cons.mp hl with rfl | hl
        · exact Or.inr (Or.inr (Or.inr rfl))
        · exact Or.inl hl
  | underCheck hfree =>
      rcases List.mem_append.mp hl with hl | hl
      · exact Or.inl (List.mem_append_left _ hl)
      · rcases List.mem_cons.mp hl with rfl | hl
        · exact Or.inr (Or.inl ⟨_, List.mem_append_right _ List.mem_cons_self, rfl⟩)
        · rcases List.mem_cons.mp hl with rfl | hl
          · exact Or.inr (Or.inr (Or.inl rfl))
          · exact Or.inl (List.mem_append_right _ (List.mem_cons_of_mem _ hl))

theorem wellFormed (h : Placed b m) (hb : b.WellFormed) : m.WellFormed := by
  have he := isEnding_terminator b.head
  refine ⟨?_, fun l hl => ?_⟩
  · rcases h.head_eq with heq | heq
    · rw [heq, hb.head]
    · rw [heq, isDeclaration_terminateWith he, hb.head]
  · rcases h.mem_body hl with hl | ⟨k, hk, rfl⟩ | rfl | rfl
    · exact hb.body l hl
    · rw [isDeclaration_terminateWith he, hb.body k hk]
    · exact isDeclaration_provisionalSkip _
    · exact isDeclaration_ending he

theorem nameOf_head (h : Placed b m) : PendingUnit.nameOf m.head = PendingUnit.nameOf b.head := by
  rcases h.head_eq with heq | heq
  · rw [heq]
  · rw [heq, nameOf_terminateWith_terminator]

/-- A line that is put in stands under a line that has been given an ending. -/
theorem standsFor (h : Placed b m) : m.StandsFor b := by
  have he := isEnding_terminator b.head
  have hprov : (provisionalSkip b.head.terminator).isTerminated = true :=
    isTerminated_append_ending he _
  have hblank : isTerminated b.head.terminator = true := isTerminated_append_ending he []
  constructor
  · intro hsplit
    cases h with
    | @kept head skip above below ha hs =>
        refine hsplit.sublist (.cons_cons _ ?_)
        exact (List.Sublist.refl above).append (List.filter_sublist.cons_cons skip)
    | underHead hfree =>
        obtain ⟨hhead, -, hbody⟩ := IsSplit.cons_iff.mp hsplit
        refine IsSplit.cons_iff.mpr ⟨isPiece_terminateWith he _ hhead,
          fun _ => isTerminated_terminateWith he _, ?_⟩
        refine IsSplit.cons_iff.mpr ⟨isPiece_provisionalSkip he, fun _ => hprov, ?_⟩
        exact IsSplit.cons_iff.mpr ⟨isPiece_ending he, fun _ => hblank, hbody⟩
    | @underCheck head check above below hfree =>
        obtain ⟨hhead, hterm, hbody⟩ := IsSplit.cons_iff.mp hsplit
        obtain ⟨habove, hall, hrest⟩ := IsSplit.append_iff.mp hbody
        obtain ⟨hcheck, -, hbelow⟩ := IsSplit.cons_iff.mp hrest
        refine IsSplit.cons_iff.mpr ⟨hhead, fun _ => hterm (by simp), ?_⟩
        refine IsSplit.append_iff.mpr ⟨habove, fun _ => hall (List.cons_ne_nil _ _), ?_⟩
        refine IsSplit.cons_iff.mpr ⟨isPiece_terminateWith he _ hcheck,
          fun _ => isTerminated_terminateWith he _, ?_⟩
        exact IsSplit.cons_iff.mpr ⟨isPiece_provisionalSkip he, fun _ => hprov, hbelow⟩
  · intro hall
    obtain ⟨hhead, hbody⟩ := List.forall_mem_cons.mp hall
    refine List.forall_mem_cons.mpr ⟨?_, fun l hl => ?_⟩
    · rcases h.head_eq with heq | heq
      · rwa [heq]
      · rw [heq]
        exact isTerminated_terminateWith he _
    · rcases h.mem_body hl with hl | ⟨k, -, rfl⟩ | rfl | rfl
      · exact hbody l hl
      · exact isTerminated_terminateWith he k
      · exact hprov
      · exact hblank

end Placed

/-- A block with one skip line is left as it is. -/
theorem TestBlock.MarkedBy.mark_eq {b : TestBlock} {above below : List Line} {skip : Line}
    (h : b.MarkedBy above skip below) : b.mark = b := by
  obtain ⟨head, body⟩ := b
  obtain rfl : body = above ++ skip :: below := h.body
  have hbelow : below.filter (!·.isSkip) = below :=
    List.filter_eq_self.mpr fun l hl => by simp [h.below l hl]
  rw [TestBlock.mark, TestBlock.isMarked, if_pos (by simp [h.isSkip]),
    firstSkipOnly_append h.above h.isSkip, hbelow]

/-- The first skip line of a block is the one that is left when the block is marked. -/
theorem TestBlock.markedBy_mark_of_find {b : TestBlock} {skip : Line}
    (h : b.body.find? Line.isSkip = some skip) :
    b.mark.head = b.head ∧ ∃ above below, b.mark.MarkedBy above skip below := by
  obtain ⟨hs, above, below, hbody, ha⟩ := List.find?_eq_some_iff_append.mp h
  have habove : ∀ l ∈ above, l.isSkip = false := by simpa using ha
  have hmarked : b.isMarked = true := by rw [isMarked, hbody]; simp [hs]
  rw [mark, if_pos hmarked]
  refine ⟨rfl, above, below.filter (!·.isSkip), ?_, hs, habove, fun l hl => ?_⟩
  · rw [hbody, firstSkipOnly_append habove hs]
  · simpa using (List.mem_filter.mp hl).2

theorem Outline.WellFormed.mark {o : Outline} (h : o.WellFormed) : o.mark.WellFormed := by
  refine ⟨h.preamble, fun m hm => ?_⟩
  obtain ⟨b, hb, rfl⟩ := List.mem_map.mp hm
  exact (placed_mark b).wellFormed (h.blocks b hb)

theorem Outline.exists_markedBy {o : Outline} :
    ∀ m ∈ o.mark.blocks, ∃ above skip below, m.MarkedBy above skip below := by
  intro m hm
  obtain ⟨b, -, rfl⟩ := List.mem_map.mp hm
  obtain ⟨above, skip, below, hmarked, -⟩ := (placed_mark b).exists_markedBy
  exact ⟨above, skip, below, hmarked⟩

/-- The marked lines of a file survive being written and read again. -/
theorem IsSplit.mark {o : Outline} (h : IsSplit o.lines) : IsSplit o.mark.lines := by
  obtain ⟨hpre, hterm, hblocks⟩ := IsSplit.append_iff.mp h
  refine IsSplit.append_iff.mpr ⟨hpre, fun hne => hterm ?_,
    isSplit_flatMap_map (fun b _ => (placed_mark b).standsFor) hblocks⟩
  rw [Outline.mark] at hne
  cases hb : o.blocks with
  | nil => simp [hb] at hne
  | cons b bs => exact List.cons_ne_nil _ _

end SkipAudit
