/-
# Which phrase decides

The diagnostics of a failed compiler are classified by the first row of a table whose phrase
occurs in them, and by the exit status when there is no such row.  `Decided` says this of any
phrases that have been seen, wherever they were looked for.

    classify_eq_iff_of_seen    classifying a text is seeing the phrases that occur in it
    Decided.unique             no two rows decide
    Decided.mono               when more phrases are seen, no row below decides
    classify_joined            the text is made of lines

There is no line feed in any phrase, so a phrase that occurs in joined lines occurs in one of
them.  Where it stands makes no difference either: `panic: ` is the beginning of two other phrases,
and it is their place in the table, not in the text, that puts them first.
-/
import Mathlib.Data.List.Infix
import SkipAudit.Failure

namespace SkipAudit

namespace Text

/-! ## Words between characters that they lack -/

section Lacking

variable {n : Text} {x : Char} (hx : x ∉ n)

include hx

theorem prefix_append_cons_iff (s t : Text) : n <+: s ++ x :: t ↔ n <+: s := by
  constructor
  · intro h
    rcases List.prefix_or_prefix_of_prefix h (List.prefix_append s (x :: t)) with hns | ⟨u, hu⟩
    · exact hns
    · subst hu
      cases u with
      | nil => rw [List.append_nil]
      | cons c u =>
          have hc : c = x := (List.cons_prefix_cons.mp ((List.prefix_append_right_inj s).mp h)).1
          exact absurd (List.mem_append_right s (hc ▸ List.mem_cons_self)) hx
  · intro h
    exact h.trans (List.prefix_append s _)

/-- A word does not reach across a character that it lacks. -/
theorem infix_append_cons_iff (s t : Text) : n <:+: s ++ x :: t ↔ n <:+: s ∨ n <:+: t := by
  induction s with
  | nil =>
      have hnil : n <+: x :: t ↔ n <+: [] := prefix_append_cons_iff hx [] t
      rw [List.nil_append, List.infix_cons_iff, hnil, List.infix_nil, List.prefix_nil]
  | cons c s ih =>
      have hcons := prefix_append_cons_iff hx (c :: s) t
      rw [List.cons_append] at hcons ⊢
      rw [List.infix_cons_iff, hcons, ih, ← or_assoc, ← List.infix_cons_iff]

/-- A word that occurs in joined pieces occurs in one of them. -/
theorem infix_intercalate_iff (hne : n ≠ []) (ls : List Text) :
    n <:+: [x].intercalate ls ↔ ∃ l ∈ ls, n <:+: l := by
  induction ls with
  | nil =>
      constructor
      · intro h
        exact absurd (List.infix_nil.mp h) hne
      · rintro ⟨l, hl, -⟩
        exact absurd hl List.not_mem_nil
  | cons l ls ih =>
      cases ls with
      | nil => simp
      | cons k ls =>
          rw [List.intercalate_cons_cons, List.append_assoc, List.singleton_append,
            infix_append_cons_iff hx, ih]
          simp only [List.mem_cons, exists_eq_or_imp]

end Lacking

end Text

namespace Failure

/-! ## The first row whose phrase is seen -/

/-- What the table says when these phrases have been seen: the number of the row that decides, if
one does, and the failure. -/
inductive Decided (seen : Text → Prop) (code : Int) : Option Nat → Failure → Prop
  | row {i : Nat} {s : Signature} : signatures[i]? = some s → seen s.phrase →
      (∀ r ∈ signatures.take i, ¬ seen r.phrase) → Decided seen code (some i) s.failure
  | status : (∀ s ∈ signatures, ¬ seen s.phrase) →
      Decided seen code none (.returnCode code)

namespace Decided

variable {seen seen' : Text → Prop} {code : Int} {row? row?' : Option Nat} {f f' : Failure}

/-- Nothing else is looked at than whether the phrases of the table are seen. -/
theorem congr (h : Decided seen code row? f)
    (heq : ∀ s ∈ signatures, seen s.phrase ↔ seen' s.phrase) : Decided seen' code row? f := by
  cases h with
  | row hi hs hfirst =>
      refine .row hi ((heq _ (List.mem_of_getElem? hi)).mp hs) fun r hr hr' => ?_
      exact hfirst r hr ((heq r (List.mem_of_mem_take hr)).mpr hr')
  | status hno =>
      exact .status fun s hs hs' => hno s hs ((heq s hs).mpr hs')

/-- When more phrases are seen, the same row decides or one above it. -/
theorem mono {i : Nat} (h : Decided seen code (some i) f) (h' : Decided seen' code row?' f')
    (hsub : ∀ s ∈ signatures, seen s.phrase → seen' s.phrase) : ∃ j ≤ i, row?' = some j := by
  cases h with
  | row hi hs hfirst =>
      have hs' := hsub _ (List.mem_of_getElem? hi) hs
      cases h' with
      | @row j _ hj _ hfirst' =>
          refine ⟨j, ?_, rfl⟩
          by_contra hlt
          have habove : (signatures.take j)[i]? = some _ :=
            (List.getElem?_take_of_lt (Nat.lt_of_not_le hlt)).trans hi
          exact hfirst' _ (List.mem_of_getElem? habove) hs'
      | status hno => exact absurd hs' (hno _ (List.mem_of_getElem? hi))

theorem unique (h : Decided seen code row? f) (h' : Decided seen code row?' f') :
    row? = row?' ∧ f = f' := by
  cases row? with
  | none =>
      cases row?' with
      | none =>
          cases h with
          | status _ =>
              cases h' with
              | status _ => exact ⟨rfl, rfl⟩
      | some i =>
          obtain ⟨j, -, hj⟩ := h'.mono h fun _ _ hs => hs
          exact absurd hj (by simp)
  | some i =>
      obtain ⟨j, hji, rfl⟩ := h.mono h' fun _ _ hs => hs
      obtain ⟨k, hij, hk⟩ := h'.mono h fun _ _ hs => hs
      obtain rfl : i = j := Nat.le_antisymm (Option.some.inj hk ▸ hij) hji
      cases h with
      | row hi _ _ =>
          cases h' with
          | row hi' _ _ => exact ⟨rfl, congrArg _ (Option.some.inj (hi.symm.trans hi'))⟩

end Decided

/-! ## Classifying a text -/

theorem exists_decided_classify (t : Text) (code : Int) :
    ∃ row?, Decided (· <:+: t) code row? (classify t code) := by
  rw [classify]
  cases hfind : signatures.find? fun s => Text.occursIn s.phrase t with
  | none =>
      refine ⟨none, .status fun s hs hs' => ?_⟩
      exact List.find?_eq_none.mp hfind s hs ((Text.occursIn_iff _ _).mpr hs')
  | some s =>
      obtain ⟨hs, above, below, htable, habove⟩ := List.find?_eq_some_iff_append.mp hfind
      have hi : signatures[above.length]? = some s := by
        rw [htable, List.getElem?_append_right (Nat.le_refl _), Nat.sub_self,
          List.getElem?_cons_zero]
      refine ⟨some above.length, .row hi ((Text.occursIn_iff _ _).mp hs) fun r hr hr' => ?_⟩
      rw [htable, List.take_left] at hr
      have hno := habove r hr
      rw [(Text.occursIn_iff _ _).mpr hr'] at hno
      exact absurd hno (by simp)

/-- Seeing the phrases that occur in a text, by whatever means, decides as classifying it does. -/
theorem classify_eq_iff_of_seen {seen : Text → Prop} {t : Text}
    (hseen : ∀ s ∈ signatures, s.phrase <:+: t ↔ seen s.phrase) (code : Int) (f : Failure) :
    classify t code = f ↔ ∃ row?, Decided seen code row? f := by
  obtain ⟨row?, h⟩ := exists_decided_classify t code
  constructor
  · intro hf
    exact ⟨row?, hf ▸ h.congr hseen⟩
  · rintro ⟨row?', h'⟩
    exact ((h.congr hseen).unique h').2

/-! ## Lines -/

/-- A phrase is seen on one of some lines. -/
def OnLine (ls : List Text) (phrase : Text) : Prop := ∃ l ∈ ls, phrase <:+: l

theorem OnLine.mono {ls ls' : List Text} {phrase : Text} (h : OnLine ls phrase) (hsub : ls ⊆ ls') :
    OnLine ls' phrase := by
  obtain ⟨l, hl, hphrase⟩ := h
  exact ⟨l, hsub hl, hphrase⟩

/-- There is something to look for in every phrase, and no line feed. -/
theorem phrase_on_one_line : ∀ s ∈ signatures, s.phrase ≠ [] ∧ '\n' ∉ s.phrase := by
  decide

instance (ls : List Text) (phrase : Text) : Decidable (OnLine ls phrase) :=
  inferInstanceAs (Decidable (∃ l ∈ ls, phrase <:+: l))

/-- The lines of diagnostics, put together. -/
def joined (ls : List Text) : Text := ['\n'].intercalate ls

theorem infix_joined_iff (ls : List Text) :
    ∀ s ∈ signatures, s.phrase <:+: joined ls ↔ OnLine ls s.phrase := by
  intro s hs
  obtain ⟨hne, hlf⟩ := phrase_on_one_line s hs
  exact Text.infix_intercalate_iff hlf hne ls

/-- **Diagnostics are classified line by line.**  The first row of the table whose phrase is on one
of the lines decides, and the exit status when there is no such row.  So the order of the lines
makes no difference, and with more lines among them the same row decides or one above it. -/
theorem classify_joined (ls : List Text) (code : Int) :
    (∀ f, classify (joined ls) code = f ↔ ∃ row?, Decided (OnLine ls) code row? f) ∧
      (∀ ls', ls'.Perm ls → classify (joined ls') code = classify (joined ls) code) ∧
      ∀ ls', ls ⊆ ls' → ∀ i f, Decided (OnLine ls) code (some i) f →
        ∃ j ≤ i, Decided (OnLine ls') code (some j) (classify (joined ls') code) := by
  have hdecided : ∀ ls f, classify (joined ls) code = f ↔ ∃ row?, Decided (OnLine ls) code row? f :=
    fun ls => classify_eq_iff_of_seen (infix_joined_iff ls) code
  refine ⟨hdecided ls, ?_, ?_⟩
  · intro ls' hperm
    obtain ⟨row?, h⟩ := (hdecided ls _).mp rfl
    refine (hdecided ls' _).mpr ⟨row?, h.congr fun s _ => ?_⟩
    exact ⟨fun hs => hs.mono hperm.symm.subset, fun hs => hs.mono hperm.subset⟩
  · intro ls' hsub i f h
    obtain ⟨row?, h'⟩ := (hdecided ls' _).mp rfl
    obtain ⟨j, hji, rfl⟩ := h.mono h' fun _ _ hs => hs.mono hsub
    exact ⟨j, hji, h'⟩

/-- A general trap and a crash, and then a failed test and a particular trap before them. -/
theorem classify_joined_sample :
    let ls := [text "thread 1 panic: integer overflow", text "Segmentation fault"]
    let more := [text "1/1 a... FAIL (b)", text "thread 1 panic: reached unreachable code"]
    Decided (OnLine ls) 1 (some 2) .panic ∧ classify (joined ls.reverse) 1 = .panic ∧
      ls ⊆ more ++ ls ∧ ∃ j ≤ 2, Decided (OnLine (more ++ ls)) 1 (some j) .unreachable := by
  intro ls more
  obtain ⟨hdecided, hperm, hmore⟩ := classify_joined ls 1
  have hrow : Decided (OnLine ls) 1 (some 2) .panic :=
    .row (s := ⟨text "panic: ", .panic⟩) rfl (by decide +kernel) (by decide +kernel)
  have hsub : ls ⊆ more ++ ls := List.subset_append_right _ _
  have hclassify : classify (joined (more ++ ls)) 1 = .unreachable := by decide +kernel
  refine ⟨hrow, ?_, hsub, ?_⟩
  · exact (hperm _ (List.reverse_perm ls)).trans ((hdecided .panic).mpr ⟨_, hrow⟩)
  · obtain ⟨j, hj, h⟩ := hmore _ hsub 2 .panic hrow
    exact ⟨j, hj, hclassify ▸ h⟩

end Failure

end SkipAudit
