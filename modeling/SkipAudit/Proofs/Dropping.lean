/-
# Which lines are dropped

`settle` reads on from line to line with three flags.  What it drops can be told from the
positions of the lines alone, and `DropRule` does: a skip line goes when the unit of its block is
cleared, and a blank line goes when it stands right under a skip line that goes and nothing is
left between the declaration and itself.

    DropRule.eq_of_lt         the rule decides about every line
    StateUnder.next           what one line does to the flags
    stateUnder                and what they are anywhere in a block
    dropRule_droppedAt        so the lines that are dropped obey the rule
    settle_eq_without         settling takes out these lines, and no others

The flags never look at what has been written, and the rule does not either: "nothing is left"
means that all lines between are dropped.
-/
import SkipAudit.Proofs.Marked

namespace SkipAudit

/-- The line at index `i` stands under the declaration at index `d`: no other declaration stands
between them. -/
structure StandsUnder (ls : List Line) (d i : Nat) : Prop where
  lt : d < i
  declaration : ls[d]?.any Line.isDeclaration = true
  between : ∀ j, d < j → j < i → ls[j]?.any Line.isDeclaration = false

/-- Which lines of a file are dropped, given its units. -/
structure DropRule (units : List TestUnit) (ls : List Line) (dropped : Nat → Bool) : Prop where
  /-- Declarations stay. -/
  declaration : ∀ (i : Nat) (l : Line), ls[i]? = some l → l.isDeclaration = true →
    dropped i = false
  /-- Above the first declaration all lines stay. -/
  outside : ∀ (i : Nat) (l : Line), ls[i]? = some l →
    (∀ d < i, ls[d]?.any Line.isDeclaration = false) → dropped i = false
  /-- A skip line goes when the unit of its declaration has no failure. -/
  skip : ∀ (d i : Nat) (l : Line), ls[i]? = some l → StandsUnder ls d i →
    l.isDeclaration = false → l.isSkip = true →
      (dropped i = true ↔ ∃ u ∈ units, u.declIndex = d ∧ u.failure = none)
  /-- Another line goes when it is blank, the line above it is a skip line that goes, and so do
  all lines between the declaration and itself. -/
  other : ∀ (d i : Nat) (l : Line), ls[i]? = some l → StandsUnder ls d i →
    l.isDeclaration = false → l.isSkip = false →
      (dropped i = true ↔ l.isBlank = true ∧
        (skipAt ls (i - 1) = true ∧ dropped (i - 1) = true) ∧
          ∀ j, d < j → j < i → dropped j = true)

/-- The lines without those at the dropped indices.  A skip line that stays loses its tags. -/
def without (dropped : Nat → Bool) (ls : List Line) : List Line :=
  (ls.zipIdx.filter fun x => !dropped x.2).map fun x => x.1.persisted

/-! ## Above a line -/

section Above

variable {ls : List Line} {d i : Nat} {l : Line}

theorem forall_between_succ {P : Nat → Prop} (h : d < i) :
    (∀ j, d < j → j < i + 1 → P j) ↔ (∀ j, d < j → j < i → P j) ∧ P i := by
  constructor
  · intro hall
    exact ⟨fun j h₁ h₂ => hall j h₁ (by omega), hall i h (by omega)⟩
  · rintro ⟨hall, hi⟩ j h₁ h₂
    rcases Nat.lt_succ_iff_lt_or_eq.mp h₂ with h₂ | rfl
    · exact hall j h₁ h₂
    · exact hi

/-- Either a declaration stands above a line, and then there is a nearest one, or none does. -/
theorem standsUnder_or (ls : List Line) (i : Nat) :
    (∃ d, StandsUnder ls d i) ∨ ∀ d < i, ls[d]?.any Line.isDeclaration = false := by
  induction i with
  | zero => exact Or.inr fun d hd => absurd hd (Nat.not_lt_zero d)
  | succ i ih =>
      cases hi : ls[i]?.any Line.isDeclaration with
      | true => exact Or.inl ⟨i, Nat.lt_succ_self i, hi, fun j h₁ h₂ => by omega⟩
      | false =>
          rcases ih with ⟨d, hlt, hdecl, hbetween⟩ | hnone
          · exact Or.inl ⟨d, Nat.lt_succ_of_lt hlt, hdecl,
              (forall_between_succ hlt).mpr ⟨hbetween, hi⟩⟩
          · exact Or.inr (Nat.forall_lt_succ_right.mpr ⟨hnone, hi⟩)

theorem skipAt_of_getElem? (hl : ls[i]? = some l) (hd : l.isDeclaration = false) :
    skipAt ls i = l.isSkip := by
  rw [skipAt, hl, Option.any_some, Line.marksBlock, hd, Bool.not_false, Bool.true_and]

theorem skipAt_of_isDeclaration (h : ls[i]?.any Line.isDeclaration = true) :
    skipAt ls i = false := by
  obtain ⟨l, hl, hd⟩ := (Option.any_eq_true ..).mp h
  rw [skipAt, hl, Option.any_some, Line.marksBlock, hd]
  rfl

/-- A skip line right above a line of the block is itself in the block. -/
theorem StandsUnder.pred (h : StandsUnder ls d i) (hs : skipAt ls (i - 1) = true) :
    StandsUnder ls d (i - 1) := by
  have hne : d ≠ i - 1 := by
    rintro rfl
    rw [skipAt_of_isDeclaration h.declaration] at hs
    exact absurd hs Bool.false_ne_true
  have hlt := h.lt
  exact ⟨by omega, h.declaration, fun j h₁ h₂ => h.between j h₁ (by omega)⟩

end Above

/-! ## The rule decides -/

namespace DropRule

variable {units : List TestUnit} {ls : List Line} {dropped dropped' : Nat → Bool}

theorem eq_of_lt (h : DropRule units ls dropped) (h' : DropRule units ls dropped') {i : Nat}
    (hi : i < ls.length) : dropped i = dropped' i := by
  induction i using Nat.strong_induction_on with
  | _ i ih =>
      obtain ⟨l, hl⟩ : ∃ l, ls[i]? = some l := ⟨_, List.getElem?_eq_getElem hi⟩
      cases hd : l.isDeclaration with
      | true => rw [h.declaration i l hl hd, h'.declaration i l hl hd]
      | false =>
          rcases standsUnder_or ls i with ⟨d, hu⟩ | hnone
          · rw [Bool.eq_iff_iff]
            cases hs : l.isSkip with
            | true => rw [h.skip d i l hl hu hd hs, h'.skip d i l hl hu hd hs]
            | false =>
                have hlt := hu.lt
                have hpred : dropped (i - 1) = dropped' (i - 1) := ih (i - 1) (by omega) (by omega)
                have hall : (∀ j, d < j → j < i → dropped j = true) ↔
                    ∀ j, d < j → j < i → dropped' j = true :=
                  forall₃_congr fun j _ hj => by rw [ih j hj (by omega)]
                rw [h.other d i l hl hu hd hs, h'.other d i l hl hu hd hs, hpred, hall]
          · rw [h.outside i l hl hnone, h'.outside i l hl hnone]

theorem without_eq (h : DropRule units ls dropped) (h' : DropRule units ls dropped') :
    without dropped ls = without dropped' ls := by
  rw [without, without]
  refine congrArg _ (List.filter_congr fun x hx => ?_)
  rw [h.eq_of_lt h' (by simpa using List.snd_lt_of_mem_zipIdx hx)]

/-- A line that goes and is no skip line stands right under a skip line that goes. -/
theorem skipAt_pred (h : DropRule units ls dropped) {d i : Nat} {l : Line} (hl : ls[i]? = some l)
    (hu : StandsUnder ls d i) (hs : skipAt ls i = false) (hi : dropped i = true) :
    l.isBlank = true ∧ skipAt ls (i - 1) = true ∧ ∀ j, d < j → j < i → dropped j = true := by
  have hd : l.isDeclaration = false := Bool.eq_false_iff.mpr fun hd => by
    rw [h.declaration i l hl hd] at hi
    exact absurd hi Bool.false_ne_true
  rw [skipAt_of_getElem? hl hd] at hs
  obtain ⟨hblank, ⟨hpred, -⟩, hall⟩ := (h.other d i l hl hu hd hs).mp hi
  exact ⟨hblank, hpred, hall⟩

section Single

/-! A block with one skip line at most, at index `s`. -/

variable (h : DropRule units ls dropped) {d s : Nat}
  (honly : ∀ i, StandsUnder ls d i → (skipAt ls i = true ↔ i = s))

include h honly

theorem eq_succ_of_dropped {i : Nat} {l : Line} (hl : ls[i]? = some l) (hu : StandsUnder ls d i)
    (hne : i ≠ s) (hi : dropped i = true) :
    l.isBlank = true ∧ i = s + 1 ∧ d < s ∧ ∀ j, d < j → j < i → dropped j = true := by
  have hs : skipAt ls i = false := Bool.eq_false_iff.mpr (mt (honly i hu).mp hne)
  obtain ⟨hblank, hskip, hall⟩ := h.skipAt_pred hl hu hs hi
  have heq : i - 1 = s := (honly _ (hu.pred hskip)).mp hskip
  have hlt := (hu.pred hskip).lt
  exact ⟨hblank, by omega, by omega, hall⟩

/-- Besides the skip line one blank line goes at most: the one under it, when it stands right under
the declaration. -/
theorem blank_of_dropped {i : Nat} {l : Line} (hl : ls[i]? = some l) (hu : StandsUnder ls d i)
    (hne : i ≠ s) (hi : dropped i = true) : l.isBlank = true ∧ i = s + 1 ∧ s = d + 1 := by
  obtain ⟨hblank, heq, hlt, hall⟩ := eq_succ_of_dropped h honly hl hu hne hi
  refine ⟨hblank, heq, ?_⟩
  -- Otherwise the line under the declaration goes too, and it stands under no skip line.
  by_contra hfar
  obtain ⟨hlen, -⟩ := List.getElem?_eq_some_iff.mp hl
  obtain ⟨m, hm⟩ : ∃ m, ls[d + 1]? = some m := ⟨_, List.getElem?_eq_getElem (by omega)⟩
  have hum : StandsUnder ls d (d + 1) :=
    ⟨Nat.lt_succ_self d, hu.declaration, fun j h₁ h₂ => by omega⟩
  have hfirst : dropped (d + 1) = true := hall (d + 1) (Nat.lt_succ_self d) (by omega)
  obtain ⟨-, hm', -⟩ := eq_succ_of_dropped h honly hm hum (by omega) hfirst
  omega

end Single

end DropRule

/-! ## The flags, and the lines above -/

section State

variable (units : List TestUnit) (ls : List Line)

/-- The state in which the line at index `i` is settled. -/
def stateAt : Nat → SettleState
  | 0 => .outside
  | i + 1 => match ls[i]? with
    | some l => (stateAt i).next units i l
    | none => stateAt i

/-- The line at index `i` is dropped. -/
def droppedAt (i : Nat) : Bool := ls[i]?.any (stateAt units ls i).drops

variable {units ls} {d i : Nat} {l : Line}

theorem stateAt_succ (hl : ls[i]? = some l) :
    stateAt units ls (i + 1) = (stateAt units ls i).next units i l := by
  rw [stateAt, hl]

theorem droppedAt_eq (units : List TestUnit) (hl : ls[i]? = some l) :
    droppedAt units ls i = (stateAt units ls i).drops l := by
  rw [droppedAt, hl, Option.any_some]

theorem stateAt_outside (h : ∀ d < i, ls[d]?.any Line.isDeclaration = false) :
    stateAt units ls i = .outside := by
  induction i with
  | zero => rfl
  | succ i ih =>
      have hprev := ih fun d hd => h d (Nat.lt_succ_of_lt hd)
      have hi := h i (Nat.lt_succ_self i)
      cases hl : ls[i]? with
      | none => rw [stateAt, hl, hprev]
      | some l =>
          rw [hl, Option.any_some] at hi
          rw [stateAt_succ hl, hprev, SettleState.next_outside units i hi]

/-- What the flags say at index `i` under the declaration at index `d`. -/
structure StateUnder (units : List TestUnit) (ls : List Line) (d i : Nat) : Prop where
  cleared : (stateAt units ls i).cleared = clearedAt units d
  /-- All lines since the declaration have been dropped. -/
  bare : (stateAt units ls i).bare = true ↔ ∀ j, d < j → j < i → droppedAt units ls j = true
  /-- And the last of them was a skip line. -/
  dropBlank : (stateAt units ls i).dropBlank = true ↔
    skipAt ls (i - 1) = true ∧ ∀ j, d < j → j < i → droppedAt units ls j = true

theorem StateUnder.start (hl : ls[d]? = some l) (hd : l.isDeclaration = true) :
    StateUnder units ls d (d + 1) := by
  have hnext : stateAt units ls (d + 1) = ⟨clearedAt units d, true, false⟩ := by
    rw [stateAt_succ hl, SettleState.next, if_pos hd]
  have hnone : ∀ j, d < j → j < d + 1 → droppedAt units ls j = true := fun j h₁ h₂ => by omega
  constructor
  case cleared => rw [hnext]
  case bare => rw [hnext]; exact iff_of_true rfl hnone
  case dropBlank =>
    have hskip : skipAt ls (d + 1 - 1) = false := by
      rw [Nat.add_sub_cancel, skipAt_of_isDeclaration (by rw [hl, Option.any_some, hd])]
    rw [hnext, hskip]
    exact iff_of_false Bool.false_ne_true fun h => absurd h.1 Bool.false_ne_true

/-- One line further, still in the block. -/
theorem StateUnder.next (h : StateUnder units ls d i) (hlt : d < i) (hl : ls[i]? = some l)
    (hd : l.isDeclaration = false) : StateUnder units ls d (i + 1) := by
  have hskip : skipAt ls (i + 1 - 1) = l.isSkip := skipAt_of_getElem? hl hd
  have hdrop := droppedAt_eq units hl
  by_cases hdr : (stateAt units ls i).drops l = true
  · have hnext : stateAt units ls (i + 1) =
        { stateAt units ls i with dropBlank := l.isSkip && (stateAt units ls i).bare } := by
      rw [stateAt_succ hl, SettleState.next, if_neg (by simp [hd]), if_pos hdr]
    rw [hdr] at hdrop
    constructor
    case cleared => rw [hnext]; exact h.cleared
    case bare =>
      rw [hnext, forall_between_succ hlt, and_iff_left hdrop]
      exact h.bare
    case dropBlank =>
      rw [hnext, forall_between_succ hlt, and_iff_left hdrop, hskip, ← h.bare]
      exact Bool.and_eq_true_iff
  · have hnext : stateAt units ls (i + 1) =
        { stateAt units ls i with bare := false, dropBlank := false } := by
      rw [stateAt_succ hl, SettleState.next, if_neg (by simp [hd]), if_neg hdr]
    rw [← hdrop] at hdr
    constructor
    case cleared => rw [hnext]; exact h.cleared
    case bare =>
      rw [hnext, forall_between_succ hlt]
      exact iff_of_false Bool.false_ne_true fun hall => hdr hall.2
    case dropBlank =>
      rw [hnext, forall_between_succ hlt]
      exact iff_of_false Bool.false_ne_true fun hall => hdr hall.2.2

theorem stateUnder (h : StandsUnder ls d i) (hi : i ≤ ls.length) : StateUnder units ls d i := by
  obtain ⟨hlt, hdecl, hbetween⟩ := h
  induction i with
  | zero => exact absurd hlt (Nat.not_lt_zero d)
  | succ i ih =>
      obtain ⟨l, hl⟩ : ∃ l, ls[i]? = some l := ⟨_, List.getElem?_eq_getElem hi⟩
      rcases Nat.lt_succ_iff_lt_or_eq.mp hlt with hlt' | rfl
      · have hprev := ih (Nat.le_of_lt hi) hlt' fun j h₁ h₂ => hbetween j h₁ (Nat.lt_succ_of_lt h₂)
        have hd := hbetween i hlt' (Nat.lt_succ_self i)
        rw [hl, Option.any_some] at hd
        exact hprev.next hlt' hl hd
      · rw [hl, Option.any_some] at hdecl
        exact .start hl hdecl

end State

/-! ## What settling drops -/

section Settle

variable {units : List TestUnit} (h : units.Pairwise fun u v => u.declIndex < v.declIndex)
  {ls : List Line}

include h

theorem clearedAt_iff (d : Nat) :
    clearedAt units d = true ↔ ∃ u ∈ units, u.declIndex = d ∧ u.failure = none := by
  constructor
  · intro hc
    rw [clearedAt] at hc
    cases hfind : units.find? (·.declIndex == d) with
    | none => rw [hfind] at hc; exact absurd hc Bool.false_ne_true
    | some u =>
        rw [hfind] at hc
        have hd := List.find?_some hfind
        exact ⟨u, List.mem_of_find?_eq_some hfind, by simpa using hd,
          Option.isNone_iff_eq_none.mp hc⟩
  · rintro ⟨u, hu, rfl, hnone⟩
    rw [clearedAt_declIndex h hu]
    exact Option.isNone_iff_eq_none.mpr hnone

theorem dropRule_droppedAt : DropRule units ls (droppedAt units ls) := by
  constructor
  case declaration =>
    intro i l hl hd
    rw [droppedAt_eq units hl, SettleState.drops, hd]
    rfl
  case outside =>
    intro i l hl hnone
    rw [droppedAt_eq units hl, stateAt_outside hnone, SettleState.drops_outside]
  case skip =>
    intro d i l hl hu hd hs
    have hstate : StateUnder units ls d i :=
      stateUnder hu (Nat.le_of_lt (List.getElem?_eq_some_iff.mp hl).1)
    rw [droppedAt_eq units hl, SettleState.drops, hd, hs, ← clearedAt_iff h, ← hstate.cleared]
    rfl
  case other =>
    intro d i l hl hu hd hs
    have hstate : StateUnder units ls d i :=
      stateUnder hu (Nat.le_of_lt (List.getElem?_eq_some_iff.mp hl).1)
    have hdrops : (stateAt units ls i).drops l = ((stateAt units ls i).dropBlank && l.isBlank) := by
      rw [SettleState.drops, hd, hs]
      rfl
    rw [droppedAt_eq units hl, hdrops, Bool.and_eq_true_iff, hstate.dropBlank]
    constructor
    · rintro ⟨⟨hskip, hall⟩, hblank⟩
      have hlt := (hu.pred hskip).lt
      exact ⟨hblank, ⟨hskip, hall _ hlt (by omega)⟩, hall⟩
    · rintro ⟨hblank, ⟨hskip, -⟩, hall⟩
      exact ⟨⟨hskip, hall⟩, hblank⟩

end Settle

theorem settleFrom_eq_filter (units : List TestUnit) {ls above rest : List Line}
    (h : ls = above ++ rest) :
    settleFrom units above.length (stateAt units ls above.length) rest =
      ((rest.zipIdx above.length).filter fun x => !droppedAt units ls x.2).map
        fun x => x.1.persisted := by
  induction rest generalizing above with
  | nil => rfl
  | cons l rest ih =>
      have hl : ls[above.length]? = some l := by
        rw [h, getElem?_append_cons_length]
      have hrest := @ih (above ++ [l]) (by rw [h, List.append_cons])
      rw [List.length_append, List.length_singleton] at hrest
      rw [settleFrom_cons, ← stateAt_succ hl, hrest, List.zipIdx_cons, List.filter_cons,
        droppedAt_eq units hl]
      by_cases hdr : (stateAt units ls above.length).drops l = true
      · simp [hdr]
      · simp [hdr]

theorem settle_eq_droppedAt (units : List TestUnit) (ls : List Line) :
    settle units ls = without (droppedAt units ls) ls :=
  settleFrom_eq_filter units (List.nil_append ls).symm

/-- **Settling drops what the rule says, and keeps all else as it is.**  Let the units ascend.  The
rule tells for each line whether it goes, and settling leaves the lines that stay, in their order
and letter by letter, but for the tags of skip lines.  In a block with one skip line, one other
line goes at most: a blank line under it, when it stands right under the declaration. -/
theorem settle_eq_without {units : List TestUnit}
    (h : units.Pairwise fun u v => u.declIndex < v.declIndex) (ls : List Line) :
    (∃ dropped, DropRule units ls dropped) ∧
      ∀ dropped, DropRule units ls dropped →
        settle units ls = without dropped ls ∧
          ∀ d s, (∀ i, StandsUnder ls d i → (skipAt ls i = true ↔ i = s)) →
            ∀ (i : Nat) (l : Line), ls[i]? = some l → StandsUnder ls d i → i ≠ s →
              dropped i = true → l.isBlank = true ∧ i = s + 1 ∧ s = d + 1 := by
  have hrule : DropRule units ls (droppedAt units ls) := dropRule_droppedAt h
  refine ⟨⟨_, hrule⟩, fun dropped hdropped => ⟨?_, fun d s honly i l hl hu hne hi => ?_⟩⟩
  · rw [settle_eq_droppedAt, hrule.without_eq hdropped]
  · exact hdropped.blank_of_dropped honly hl hu hne hi

/-- In the first block two skip lines go, and a blank line with each of them, but not the third
blank line; the second block has no unit, and the unit of the third has failed. -/
theorem settle_eq_without_sample :
    let skip := Line.plainSkip Line.lf
    let units : List TestUnit := [⟨1, 2, Mark.unknownName, false, true, none⟩,
      ⟨9, 10, Mark.unknownName, true, false, some .panic⟩]
    let ls := [Line.provisionalSkip Line.lf, text "test a\n", skip, Line.lf, skip, Line.lf, Line.lf,
      text "test b\n", skip, text "test c\n", Line.provisionalSkip Line.lf, Line.lf]
    (units.Pairwise fun u v => u.declIndex < v.declIndex) ∧
      ∃ dropped, DropRule units ls dropped ∧
        without dropped ls = [skip, text "test a\n", Line.lf, text "test b\n", skip,
          text "test c\n", skip, Line.lf] := by
  intro skip units ls
  have hasc : units.Pairwise fun u v => u.declIndex < v.declIndex := by decide
  obtain ⟨⟨dropped, hrule⟩, hsettle⟩ := settle_eq_without hasc ls
  refine ⟨hasc, dropped, hrule, ?_⟩
  rw [← (hsettle dropped hrule).1]
  decide +kernel

end SkipAudit
