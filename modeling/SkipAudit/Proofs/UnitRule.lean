/-
# Which files have units

`unitsOf` learns about a block only when the next one opens, or the file ends.  What it answers
can be said without that, in the positions of the lines: a declaration with no skip line under it
makes the file a broken one, the first such declaration is the one that is reported, and otherwise
there is one unit for each declaration, read off two lines.

    skipAt_under_iff       the skip lines under a declaration are those of its block
    answers_unitsAt        block after block, the reader answers as the rule says
    unitsOf_iff            the rule, for the lines of any file

Nothing is assumed of the lines: they need not be marked, and they need not come from a text.
-/
import SkipAudit.Proofs.Dropping

namespace SkipAudit

/-- The declaration at index `d` has no skip line under it. -/
structure Skipless (ls : List Line) (d : Nat) : Prop where
  declaration : ls[d]?.any Line.isDeclaration = true
  bare : ∀ i, StandsUnder ls d i → skipAt ls i = false

/-- The unit is read off its declaration and the last skip line under it, and has not been run. -/
structure TestUnit.ReadFrom (u : TestUnit) (ls : List Line) : Prop where
  under : StandsUnder ls u.declIndex u.skipIndex
  skip : skipAt ls u.skipIndex = true
  last : ∀ i, StandsUnder ls u.declIndex i → skipAt ls i = true → i ≤ u.skipIndex
  name : ls[u.declIndex]?.map PendingUnit.nameOf = some u.name
  provisional : ls[u.skipIndex]?.map Line.isProvisional = some u.provisional
  selected : u.selected = !u.provisional
  failure : u.failure = none

/-- What is to be answered for the declarations at these indices. -/
def Answers (ls : List Line) (heads : List Nat) : Except StructureError (List TestUnit) → Prop
  | .ok us => us.map (·.declIndex) = heads ∧ ∀ u ∈ us, u.ReadFrom ls
  | .error e => ∃ d ∈ heads, e = .missingSkipLine d ∧ Skipless ls d ∧
      ∀ d' ∈ heads, d' < d → ¬ Skipless ls d'

/-! ## One declaration has one answer -/

namespace TestUnit.ReadFrom

variable {ls : List Line} {u v : TestUnit}

theorem not_skipless (h : u.ReadFrom ls) : ¬ Skipless ls u.declIndex := fun hbare => by
  have hskip := h.skip
  rw [hbare.bare _ h.under] at hskip
  exact Bool.false_ne_true hskip

theorem eq (h : u.ReadFrom ls) (h' : v.ReadFrom ls) (hd : u.declIndex = v.declIndex) : u = v := by
  have hs : u.skipIndex = v.skipIndex :=
    Nat.le_antisymm (h'.last _ (hd ▸ h.under) h.skip) (h.last _ (hd ▸ h'.under) h'.skip)
  have hname : some u.name = some v.name := by rw [← h.name, ← h'.name, hd]
  have hprov : some u.provisional = some v.provisional := by
    rw [← h.provisional, ← h'.provisional, hs]
  have hsel : u.selected = v.selected := by
    rw [h.selected, h'.selected, Option.some.inj hprov]
  have hfail : u.failure = v.failure := by rw [h.failure, h'.failure]
  cases u
  cases v
  simp only [TestUnit.mk.injEq]
  exact ⟨hd, hs, Option.some.inj hname, Option.some.inj hprov, hsel, hfail⟩

theorem list_eq {us vs : List TestUnit} (h : ∀ u ∈ us, u.ReadFrom ls) (h' : ∀ v ∈ vs, v.ReadFrom ls)
    (hd : us.map (·.declIndex) = vs.map (·.declIndex)) : us = vs := by
  induction us generalizing vs with
  | nil => exact (List.map_eq_nil_iff.mp hd.symm).symm
  | cons u us ih =>
      cases vs with
      | nil => exact absurd hd (List.cons_ne_nil _ _)
      | cons v vs =>
          obtain ⟨hu, hus⟩ := List.forall_mem_cons.mp h
          obtain ⟨hv, hvs⟩ := List.forall_mem_cons.mp h'
          obtain ⟨hhead, htail⟩ := List.cons.inj hd
          rw [hu.eq hv hhead, ih hus hvs htail]

end TestUnit.ReadFrom

/-! ## The lines under a declaration -/

section Block

variable {ls above rest : List Line} {b : TestBlock} (hls : ls = above ++ (b.lines ++ rest))

include hls

theorem getElem?_head : ls[above.length]? = some b.head := by
  rw [hls, TestBlock.lines, List.cons_append, getElem?_append_cons_length]

theorem getElem?_under (j : Nat) : ls[above.length + 1 + j]? = (b.body ++ rest)[j]? := by
  rw [hls, Nat.add_assoc, List.getElem?_append_right (Nat.le_add_right _ _),
    Nat.add_sub_cancel_left, Nat.add_comm 1 j]
  rfl

variable (hb : b.WellFormed)

include hb

theorem standsUnder_body {j : Nat} (hj : j ≤ b.body.length) :
    StandsUnder ls above.length (above.length + 1 + j) := by
  refine ⟨by omega, by rw [getElem?_head hls, Option.any_some, hb.head], fun k h₁ h₂ => ?_⟩
  obtain ⟨i, rfl⟩ : ∃ i, k = above.length + 1 + i := ⟨k - (above.length + 1), by omega⟩
  have hi : i < b.body.length := by omega
  rw [getElem?_under hls, List.getElem?_append_left hi, List.getElem?_eq_getElem hi,
    Option.any_some, hb.body _ (List.getElem_mem hi)]

theorem skipAt_body {j : Nat} (hj : j < b.body.length) :
    skipAt ls (above.length + 1 + j) = b.body[j]?.any Line.isSkip := by
  have hat : ls[above.length + 1 + j]? = some b.body[j] := by
    rw [getElem?_under hls, List.getElem?_append_left hj, List.getElem?_eq_getElem hj]
  rw [skipAt_of_getElem? hat (hb.body _ (List.getElem_mem hj)), List.getElem?_eq_getElem hj,
    Option.any_some]

omit hb in
/-- The block ends at a declaration, which is no skip line and has the lines below it under
itself. -/
theorem lt_of_skipAt (hrest : AtCut rest) {j : Nat}
    (hu : StandsUnder ls above.length (above.length + 1 + j))
    (hskip : skipAt ls (above.length + 1 + j) = true) : j < b.body.length := by
  by_contra hj
  have hle := Nat.le_of_not_lt hj
  cases rest with
  | nil =>
      rw [skipAt, getElem?_under hls, List.append_nil, List.getElem?_eq_none hle] at hskip
      exact Bool.false_ne_true hskip
  | cons m rest =>
      have hdecl : ls[above.length + 1 + b.body.length]?.any Line.isDeclaration = true := by
        rw [getElem?_under hls, getElem?_append_cons_length, Option.any_some, hrest m rfl]
      rcases Nat.eq_or_lt_of_le hle with rfl | hlt
      · rw [skipAt_of_isDeclaration hdecl] at hskip
        exact Bool.false_ne_true hskip
      · rw [hu.between _ (by omega) (by omega)] at hdecl
        exact Bool.false_ne_true hdecl

/-- The skip lines under a declaration are those of its block. -/
theorem skipAt_under_iff (hrest : AtCut rest) (i : Nat) :
    StandsUnder ls above.length i ∧ skipAt ls i = true ↔
      ∃ j, i = above.length + 1 + j ∧ b.body[j]?.any Line.isSkip = true := by
  constructor
  · rintro ⟨hu, hskip⟩
    have hlt := hu.lt
    obtain ⟨j, rfl⟩ : ∃ j, i = above.length + 1 + j := ⟨i - (above.length + 1), by omega⟩
    have hj : j < b.body.length := lt_of_skipAt hls hrest hu hskip
    exact ⟨j, rfl, (skipAt_body hls hb hj).symm.trans hskip⟩
  · rintro ⟨j, rfl, hany⟩
    obtain ⟨l, hl, -⟩ := (Option.any_eq_true ..).mp hany
    obtain ⟨hj, -⟩ := List.getElem?_eq_some_iff.mp hl
    exact ⟨standsUnder_body hls hb (Nat.le_of_lt hj), (skipAt_body hls hb hj).trans hany⟩

theorem skipless_of_bare (hrest : AtCut rest) (h : b.IsBare) : Skipless ls above.length := by
  refine ⟨by rw [getElem?_head hls, Option.any_some, hb.head], fun i hu => ?_⟩
  refine Bool.eq_false_iff.mpr fun hskip => ?_
  obtain ⟨j, -, hany⟩ := (skipAt_under_iff hls hb hrest i).mp ⟨hu, hskip⟩
  obtain ⟨l, hl, hs⟩ := (Option.any_eq_true ..).mp hany
  rw [h l (List.mem_of_getElem? hl)] at hs
  exact Bool.false_ne_true hs

theorem readFrom_of_last (hrest : AtCut rest) {before after : List Line} {skip : Line}
    (hbody : b.body = before ++ skip :: after) (hs : skip.isSkip = true)
    (hafter : ∀ l ∈ after, l.isSkip = false) :
    TestUnit.ReadFrom ⟨above.length, above.length + 1 + before.length, PendingUnit.nameOf b.head,
      skip.isProvisional, !skip.isProvisional, none⟩ ls := by
  have hat : b.body[before.length]? = some skip := by
    rw [hbody, getElem?_append_cons_length]
  obtain ⟨hlen, -⟩ := List.getElem?_eq_some_iff.mp hat
  have hunder : StandsUnder ls above.length (above.length + 1 + before.length) ∧
      skipAt ls (above.length + 1 + before.length) = true :=
    (skipAt_under_iff hls hb hrest _).mpr ⟨_, rfl, by rw [hat, Option.any_some, hs]⟩
  constructor
  case under => exact hunder.1
  case skip => exact hunder.2
  case last =>
    intro i hu hskip
    obtain ⟨j, rfl, hany⟩ := (skipAt_under_iff hls hb hrest i).mp ⟨hu, hskip⟩
    obtain ⟨l, hl, hl'⟩ := (Option.any_eq_true ..).mp hany
    refine Nat.add_le_add_left (Nat.le_of_not_lt fun hlt => ?_) _
    -- A line further down is one of `after`.
    obtain ⟨k, rfl⟩ : ∃ k, j = before.length + (k + 1) := ⟨j - before.length - 1, by omega⟩
    rw [hbody, List.getElem?_append_right (Nat.le_add_right _ _), Nat.add_sub_cancel_left,
      List.getElem?_cons_succ] at hl
    rw [hafter l (List.mem_of_getElem? hl)] at hl'
    exact Bool.false_ne_true hl'
  case name =>
    show ls[above.length]?.map _ = _
    rw [getElem?_head hls, Option.map_some]
  case provisional =>
    show ls[above.length + 1 + before.length]?.map _ = _
    rw [getElem?_under hls, List.getElem?_append_left hlen, hat, Option.map_some]
  case selected => rfl
  case failure => rfl

end Block

/-! ## Block after block -/

theorem bare_or_exists_last (ls : List Line) :
    (∀ l ∈ ls, l.isSkip = false) ∨ ∃ before skip after, ls = before ++ skip :: after ∧
      skip.isSkip = true ∧ ∀ l ∈ after, l.isSkip = false := by
  induction ls with
  | nil => exact Or.inl fun _ h => absurd h List.not_mem_nil
  | cons l ls ih =>
      rcases ih with hbare | ⟨before, skip, after, rfl, hs, hafter⟩
      · cases hl : l.isSkip with
        | true => exact Or.inr ⟨[], l, ls, rfl, hl, hbare⟩
        | false => exact Or.inl (List.forall_mem_cons.mpr ⟨hl, hbare⟩)
      · exact Or.inr ⟨l :: before, skip, after, rfl, hs, hafter⟩

theorem close_pendingAt_of_bare {b : TestBlock} (h : b.IsBare) (i : Nat) :
    (b.pendingAt i).close = .error (.missingSkipLine i) := by
  rw [PendingUnit.close, TestBlock.pendingAt, lastSkipFrom_of_bare h]

/-- The first block without a skip line ends the reading; the others are read one by one. -/
theorem answers_unitsAt {ls above : List Line} {bs : List TestBlock} (h : ∀ b ∈ bs, b.WellFormed)
    (hls : ls = above ++ bs.flatMap TestBlock.lines) :
    Answers ls (headsAt above.length bs) (unitsAt above.length bs) := by
  induction bs generalizing above with
  | nil => exact ⟨rfl, fun _ hu => absurd hu List.not_mem_nil⟩
  | cons b bs ih =>
      obtain ⟨hb, hbs⟩ := List.forall_mem_cons.mp h
      have hcut : AtCut (bs.flatMap TestBlock.lines) := Outline.atCut_blocks hbs
      rw [List.flatMap_cons] at hls
      have hrest := @ih (above ++ b.lines) hbs (by rw [hls, List.append_assoc])
      rw [List.length_append] at hrest
      rw [headsAt, unitsAt]
      rcases bare_or_exists_last b.body with hbare | ⟨before, skip, after, hbody, hs, hafter⟩
      · rw [close_pendingAt_of_bare hbare]
        refine ⟨above.length, List.mem_cons_self, rfl, skipless_of_bare hls hb hcut hbare, ?_⟩
        intro d hd hlt
        rcases List.mem_cons.mp hd with rfl | hd
        · exact absurd hlt (Nat.lt_irrefl _)
        · exact absurd (le_of_mem_headsAt hd) (by omega)
      · have hread := readFrom_of_last hls hb hcut hbody hs hafter
        rw [close_pendingAt_of_last hbody hs hafter]
        cases hus : unitsAt (above.length + b.lines.length) bs with
        | error e =>
            rw [hus] at hrest
            obtain ⟨d, hd, rfl, hbare, hfirst⟩ := hrest
            refine ⟨d, List.mem_cons_of_mem _ hd, rfl, hbare, fun d' hd' hlt => ?_⟩
            rcases List.mem_cons.mp hd' with rfl | hd'
            · exact hread.not_skipless
            · exact hfirst d' hd' hlt
        | ok us =>
            rw [hus] at hrest
            exact ⟨congrArg (above.length :: ·) hrest.1, List.forall_mem_cons.mpr ⟨hread, hrest.2⟩⟩

theorem answers_unitsOf (ls : List Line) :
    Answers ls (ls.findIdxs Line.isDeclaration) (unitsOf ls) := by
  obtain ⟨o, hwf, rfl⟩ : ∃ o : Outline, o.WellFormed ∧ o.lines = ls :=
    ⟨outline ls, wellFormed_outline ls, lines_outline ls⟩
  rw [unitsOf_lines hwf, ← hwf.headsAt_eq]
  exact answers_unitsAt hwf.blocks rfl

/-! ## The rule -/

section Unique

variable {ls : List Line} {heads : List Nat}

theorem not_skipless_of_readFrom {us : List TestUnit} (hmap : us.map (·.declIndex) = heads)
    (hread : ∀ u ∈ us, u.ReadFrom ls) {d : Nat} (hd : d ∈ heads) : ¬ Skipless ls d := by
  rw [← hmap] at hd
  obtain ⟨u, hu, rfl⟩ := List.mem_map.mp hd
  exact (hread u hu).not_skipless

theorem Answers.unique {r r' : Except StructureError (List TestUnit)} (h : Answers ls heads r)
    (h' : Answers ls heads r') : r = r' := by
  cases r with
  | error e =>
      obtain ⟨d, hd, rfl, hbare, hfirst⟩ := h
      cases r' with
      | error e' =>
          obtain ⟨d', hd', rfl, hbare', hfirst'⟩ := h'
          have heq : d = d' :=
            Nat.le_antisymm (Nat.le_of_not_lt fun hlt => hfirst d' hd' hlt hbare')
              (Nat.le_of_not_lt fun hlt => hfirst' d hd hlt hbare)
          rw [heq]
      | ok us' => exact absurd hbare (not_skipless_of_readFrom h'.1 h'.2 hd)
  | ok us =>
      cases r' with
      | error e' =>
          obtain ⟨d', hd', -, hbare', -⟩ := h'
          exact absurd hbare' (not_skipless_of_readFrom h.1 h.2 hd')
      | ok us' => rw [TestUnit.ReadFrom.list_eq h.2 h'.2 (h.1.trans h'.1.symm)]

end Unique

theorem unitsOf_eq_iff (ls : List Line) (r : Except StructureError (List TestUnit)) :
    unitsOf ls = r ↔ Answers ls (ls.findIdxs Line.isDeclaration) r :=
  ⟨fun h => h ▸ answers_unitsOf ls, (answers_unitsOf ls).unique⟩

theorem Skipless.mem_findIdxs {ls : List Line} {d : Nat} (h : Skipless ls d) :
    d ∈ ls.findIdxs Line.isDeclaration := by
  obtain ⟨l, hl, hd⟩ := (Option.any_eq_true ..).mp h.declaration
  obtain ⟨hlt, rfl⟩ := List.getElem?_eq_some_iff.mp hl
  exact List.mem_findIdxs_iff_exists_getElem_pos.mpr ⟨hlt, hd⟩

/-- The lines above the first declaration are counted and not looked into. -/
theorem unitsOf_above {above above' : List Line} (hlen : above.length = above'.length)
    (h : ∀ l ∈ above, l.isDeclaration = false) (h' : ∀ l ∈ above', l.isDeclaration = false)
    (ls : List Line) : unitsOf (above ++ ls) = unitsOf (above' ++ ls) := by
  rw [unitsOf, unitsOf, unitsFrom_preamble h, unitsFrom_preamble h', hlen]

/-- **Which files have units, and which.**  Reading the units of a file fails exactly when some
declaration has no skip line under it, and reports the first such declaration.  Otherwise it gives
one unit for each declaration, from the top to the bottom, read off the declaration and the last
skip line under it.  The lines above the first declaration have no part in that. -/
theorem unitsOf_iff (ls : List Line) :
    ((∃ e, unitsOf ls = .error e) ↔ ∃ d, Skipless ls d) ∧
      (∀ e, unitsOf ls = .error e ↔
        ∃ d, e = .missingSkipLine d ∧ Skipless ls d ∧ ∀ d' < d, ¬ Skipless ls d') ∧
      (∀ us, unitsOf ls = .ok us ↔
        us.map (·.declIndex) = ls.findIdxs Line.isDeclaration ∧ ∀ u ∈ us, u.ReadFrom ls) ∧
      ∀ above above' : List Line, above.length = above'.length →
        (∀ l ∈ above, l.isDeclaration = false) → (∀ l ∈ above', l.isDeclaration = false) →
          unitsOf (above ++ ls) = unitsOf (above' ++ ls) := by
  have hanswer := answers_unitsOf ls
  refine ⟨⟨?_, ?_⟩, fun e => ?_, fun us => unitsOf_eq_iff ls (.ok us),
    fun above above' hlen h h' => unitsOf_above hlen h h' ls⟩
  · rintro ⟨e, he⟩
    obtain ⟨d, -, -, hbare, -⟩ := (unitsOf_eq_iff ls _).mp he
    exact ⟨d, hbare⟩
  · rintro ⟨d, hbare⟩
    cases hres : unitsOf ls with
    | error e => exact ⟨e, rfl⟩
    | ok us =>
        rw [hres] at hanswer
        exact absurd hbare (not_skipless_of_readFrom hanswer.1 hanswer.2 hbare.mem_findIdxs)
  · rw [unitsOf_eq_iff]
    constructor
    · rintro ⟨d, -, rfl, hbare, hfirst⟩
      exact ⟨d, rfl, hbare, fun d' hlt hbare' => hfirst d' hbare'.mem_findIdxs hlt hbare'⟩
    · rintro ⟨d, rfl, hbare, hfirst⟩
      exact ⟨d, hbare.mem_findIdxs, rfl, hbare, fun d' _ hlt => hfirst d' hlt⟩

/-- A skip line above the first declaration, a declaration that contains the statement, and a block
with two skip lines, the second of which is provisional.  The third block has none, nor has the
last one; and once these are left out the file has its units, whatever stands on top. -/
theorem unitsOf_iff_sample :
    let skip : Line := Line.plainSkip Line.lf
    let blank : Line := Line.lf
    let good : List Line := [text "test " ++ Mark.skipStatement, skip, text "x\n",
      Line.provisionalSkip Line.lf, text "test \"b\" \x7b\n", skip]
    let bad : List Line := good ++ [text "test c\n", text "test d\n", skip, text "test e\n"]
    (unitsOf (skip :: bad) = .error (.missingSkipLine 7) ∧ Skipless (skip :: bad) 7 ∧
        ∀ d < 7, ¬ Skipless (skip :: bad) d) ∧
      (∃ u v, unitsOf (skip :: good) = .ok [u, v] ∧ u.ReadFrom (skip :: good) ∧
        v.ReadFrom (skip :: good) ∧ (u.declIndex, u.skipIndex, u.provisional) = (1, 4, true) ∧
          (v.declIndex, v.skipIndex, v.name) = (5, 6, text "b")) ∧
      (skip.isSkip = true ∧ [skip].length = [blank].length ∧
        (∀ l ∈ [skip], l.isDeclaration = false) ∧ (∀ l ∈ [blank], l.isDeclaration = false) ∧
          unitsOf ([skip] ++ good) = unitsOf ([blank] ++ good)) := by
  intro skip blank good bad
  have hbad : unitsOf (skip :: bad) = .error (.missingSkipLine 7) := by decide +kernel
  obtain ⟨d, hd, hbare, hfirst⟩ := ((unitsOf_iff (skip :: bad)).2.1 _).mp hbad
  obtain rfl : 7 = d := StructureError.missingSkipLine.inj hd
  have hgood : unitsOf (skip :: good) = .ok
      [⟨1, 4, Mark.unknownName, true, false, none⟩, ⟨5, 6, text "b", false, true, none⟩] := by
    decide +kernel
  obtain ⟨-, hread⟩ := ((unitsOf_iff (skip :: good)).2.2.1 _).mp hgood
  obtain ⟨hu, hread⟩ := List.forall_mem_cons.mp hread
  obtain ⟨hv, -⟩ := List.forall_mem_cons.mp hread
  have hskip : ∀ l ∈ [skip], l.isDeclaration = false := by decide +kernel
  have hblank : ∀ l ∈ [blank], l.isDeclaration = false := by decide +kernel
  refine ⟨⟨hbad, hbare, hfirst⟩, ⟨_, _, hgood, hu, hv, rfl, rfl⟩, by decide +kernel, rfl, hskip,
    hblank, (unitsOf_iff good).2.2.2 _ _ rfl hskip hblank⟩

end SkipAudit
