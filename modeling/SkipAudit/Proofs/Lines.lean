/-
# Lines that survive being written and read again

A file is kept as a list of lines, written as their concatenation and read back by cutting
after each line feed.  The two undo each other exactly on the lists that a cut can yield:
`IsSplit` says which those are, on its own and not through the cut.

    isSplit_splitLines    a cut yields one of them
    splitLines_flatten    IsSplit ls → splitLines ls.flatten = ls

So texts and such lists are one and the same thing in two forms (`text_and_lines`).  Both passes
over a file end in this form, since leaving lines out keeps it (`IsSplit.sublist`) and lines that
are put in bring a line feed of their own.
-/
import SkipAudit.Marker

namespace SkipAudit

/-- The line is not empty, and has a line feed at most at its end. -/
def Line.IsPiece (l : Line) : Prop := l ≠ [] ∧ '\n' ∉ l.dropLast

/-- The lines are pieces, and all but the last one end in a line feed. -/
structure IsSplit (ls : List Line) : Prop where
  piece : ∀ l ∈ ls, Line.IsPiece l
  terminated : ls.Pairwise fun l _ => l.isTerminated = true

namespace Line

theorem isPiece_singleton (c : Char) : IsPiece [c] :=
  ⟨List.cons_ne_nil _ _, List.not_mem_nil⟩

theorem isPiece_cons_iff {c : Char} {l : Line} (h : l ≠ []) :
    IsPiece (c :: l) ↔ c ≠ '\n' ∧ IsPiece l := by
  simp only [IsPiece, List.dropLast_cons_of_ne_nil h, List.mem_cons, not_or]
  constructor
  · rintro ⟨-, hc, hl⟩
    exact ⟨fun he => hc he.symm, h, hl⟩
  · rintro ⟨hc, -, hl⟩
    exact ⟨List.cons_ne_nil _ _, fun he => hc he.symm, hl⟩

theorem isTerminated_cons {c : Char} {l : Line} (h : l ≠ []) :
    isTerminated (c :: l) = isTerminated l := by
  cases l with
  | nil => exact absurd rfl h
  | cons d l => simp [isTerminated, List.getLast?_cons_cons]

end Line

open Line

namespace IsSplit

theorem nil : IsSplit [] := ⟨fun _ h => absurd h List.not_mem_nil, .nil⟩

theorem cons_iff {l : Line} {ls : List Line} :
    IsSplit (l :: ls) ↔ l.IsPiece ∧ (ls ≠ [] → l.isTerminated = true) ∧ IsSplit ls := by
  constructor
  · intro h
    obtain ⟨hhead, htail⟩ := List.pairwise_cons.mp h.terminated
    refine ⟨h.piece l List.mem_cons_self, ?_,
      fun m hm => h.piece m (List.mem_cons_of_mem _ hm), htail⟩
    intro hne
    obtain ⟨m, hm⟩ := List.exists_mem_of_ne_nil ls hne
    exact hhead m hm
  · rintro ⟨hl, ht, hls⟩
    refine ⟨?_, .cons (fun m hm => ht (List.ne_nil_of_mem hm)) hls.terminated⟩
    intro m hm
    rcases List.mem_cons.mp hm with rfl | hm
    · exact hl
    · exact hls.piece m hm

theorem append_iff {ls ms : List Line} :
    IsSplit (ls ++ ms) ↔
      IsSplit ls ∧ (ms ≠ [] → ∀ l ∈ ls, l.isTerminated = true) ∧ IsSplit ms := by
  induction ls with
  | nil => simp [nil]
  | cons l ls ih =>
      simp only [List.cons_append, cons_iff, ih, List.forall_mem_cons, List.append_eq_nil_iff,
        ne_eq, not_and]
      constructor
      · rintro ⟨hl, ht, hls, hall, hms⟩
        exact ⟨⟨hl, fun hne => ht fun he => absurd he hne, hls⟩,
          fun hne => ⟨ht fun _ => hne, hall hne⟩, hms⟩
      · rintro ⟨⟨hl, ht, hls⟩, hall, hms⟩
        refine ⟨hl, fun hne => ?_, hls, fun hne => (hall hne).2, hms⟩
        by_cases hnil : ls = []
        · exact (hall (hne hnil)).1
        · exact ht hnil

/-- All lines but the last one are those in front of another. -/
theorem forall_dropLast_iff {ls : List Line} :
    (∀ l ∈ ls.dropLast, l.isTerminated = true) ↔ ls.Pairwise fun l _ => l.isTerminated = true := by
  induction ls with
  | nil => simp
  | cons l ls ih =>
      cases ls with
      | nil => simp
      | cons m ls =>
          rw [List.dropLast_cons_of_ne_nil (List.cons_ne_nil m ls), List.forall_mem_cons, ih]
          refine Iff.trans (and_congr_left fun _ => ?_) List.pairwise_cons.symm
          constructor
          · intro hl _ _
            exact hl
          · intro hl
            exact hl m List.mem_cons_self

/-- Leaving lines out does not harm. -/
theorem sublist {ls ls' : List Line} (h : IsSplit ls) (hsub : ls'.Sublist ls) : IsSplit ls' :=
  ⟨fun l hl => h.piece l (hsub.subset hl), h.terminated.sublist hsub⟩

end IsSplit

/-! ## What a cut yields -/

theorem splitLines_lf (t : Text) : splitLines ('\n' :: t) = ['\n'] :: splitLines t := by
  simp [splitLines]

theorem isSplit_splitLines (t : Text) : IsSplit (splitLines t) := by
  induction t with
  | nil => exact .nil
  | cons c t ih =>
      by_cases hc : c = '\n'
      · subst hc
        rw [splitLines_lf]
        exact IsSplit.cons_iff.mpr ⟨isPiece_singleton _, fun _ => rfl, ih⟩
      · simp only [splitLines, if_neg hc]
        cases hs : splitLines t with
        | nil => exact IsSplit.cons_iff.mpr ⟨isPiece_singleton _, fun h => absurd rfl h, .nil⟩
        | cons l ls =>
            rw [hs] at ih
            obtain ⟨hl, ht, hls⟩ := IsSplit.cons_iff.mp ih
            refine IsSplit.cons_iff.mpr ⟨(isPiece_cons_iff hl.1).mpr ⟨hc, hl⟩, ?_, hls⟩
            rwa [isTerminated_cons hl.1]

/-- A text that ends in a line feed has no other lines than such that do. -/
theorem isTerminated_of_mem_splitLines {t : Text} (h : t = [] ∨ t.getLast? = some '\n') :
    ∀ l ∈ splitLines t, l.isTerminated = true := by
  induction t with
  | nil => exact fun _ hl => absurd hl List.not_mem_nil
  | cons c t ih =>
      have hlast := h.resolve_left (List.cons_ne_nil _ _)
      have ht : t = [] ∨ t.getLast? = some '\n' := by
        cases t with
        | nil => exact Or.inl rfl
        | cons d t => exact Or.inr (by rwa [List.getLast?_cons_cons] at hlast)
      by_cases hc : c = '\n'
      · subst hc
        rw [splitLines_lf]
        exact List.forall_mem_cons.mpr ⟨rfl, ih ht⟩
      · simp only [splitLines, if_neg hc]
        cases hs : splitLines t with
        | nil =>
            have hnil : t = [] := by rw [← flatten_splitLines t, hs, List.flatten_nil]
            subst hnil
            exact absurd (Option.some.inj hlast) hc
        | cons l ls =>
            have hls := ih ht
            rw [hs] at hls
            obtain ⟨hl, hls⟩ := List.forall_mem_cons.mp hls
            have hne : l ≠ [] := ((isSplit_splitLines t).piece l (by simp [hs])).1
            exact List.forall_mem_cons.mpr ⟨by rwa [isTerminated_cons hne], hls⟩

/-! ## Joining and cutting again -/

/-- A piece that ends in a line feed is cut off whole. -/
theorem splitLines_append {l : Line} (hl : IsPiece l) (ht : l.isTerminated = true) (t : Text) :
    splitLines (l ++ t) = l :: splitLines t := by
  induction l with
  | nil => exact absurd rfl hl.1
  | cons c l ih =>
      cases l with
      | nil =>
          have hc : c = '\n' := by simpa [isTerminated] using ht
          subst hc
          exact splitLines_lf t
      | cons d l =>
          have hne : d :: l ≠ [] := List.cons_ne_nil _ _
          obtain ⟨hc, hpiece⟩ := (isPiece_cons_iff hne).mp hl
          have hrest := ih hpiece (by rwa [isTerminated_cons hne] at ht)
          rw [List.cons_append, splitLines, if_neg hc, hrest]

/-- A piece without a line feed is the only line of its text. -/
theorem splitLines_single {l : Line} (hl : IsPiece l) (ht : l.isTerminated = false) :
    splitLines l = [l] := by
  induction l with
  | nil => exact absurd rfl hl.1
  | cons c l ih =>
      cases l with
      | nil =>
          have hc : ¬ c = '\n' := by simpa [isTerminated] using ht
          rw [splitLines, if_neg hc, splitLines]
      | cons d l =>
          have hne : d :: l ≠ [] := List.cons_ne_nil _ _
          obtain ⟨hc, hpiece⟩ := (isPiece_cons_iff hne).mp hl
          have hrest := ih hpiece (by rwa [isTerminated_cons hne] at ht)
          rw [splitLines, if_neg hc, hrest]

theorem splitLines_flatten {ls : List Line} (h : IsSplit ls) : splitLines ls.flatten = ls := by
  induction ls with
  | nil => rfl
  | cons l ls ih =>
      obtain ⟨hl, ht, hls⟩ := IsSplit.cons_iff.mp h
      rw [List.flatten_cons]
      by_cases hterm : l.isTerminated = true
      · rw [splitLines_append hl hterm, ih hls]
      · -- A line without a line feed has nothing after it.
        have hnil : ls = [] := Classical.byContradiction fun hne => hterm (ht hne)
        subst hnil
        rw [List.flatten_nil, List.append_nil]
        exact splitLines_single hl (by simpa using hterm)

/-- **Cutting a text into lines and joining lines to a text undo each other.**  What a cut yields is
told line by line: none is empty, none has a line feed in front of its last character, and each but
the last one ends in a line feed.  Of such lines any may be left out. -/
theorem text_and_lines :
    (∀ t : Text, (splitLines t).flatten = t ∧ IsSplit (splitLines t)) ∧
    (∀ ls : List Line, IsSplit ls → splitLines ls.flatten = ls) ∧
    (∀ ls ls' : List Line, IsSplit ls → ls'.Sublist ls → IsSplit ls') ∧
    ∀ ls : List Line, IsSplit ls ↔
      (∀ l ∈ ls, l ≠ [] ∧ '\n' ∉ l.dropLast) ∧ ∀ l ∈ ls.dropLast, l.getLast? = some '\n' := by
  refine ⟨fun t => ⟨flatten_splitLines t, isSplit_splitLines t⟩, fun ls => splitLines_flatten,
    fun ls ls' => IsSplit.sublist, fun ls => ?_⟩
  have hlast : (∀ l ∈ ls.dropLast, l.getLast? = some '\n') ↔
      ∀ l ∈ ls.dropLast, l.isTerminated = true := by
    simp only [isTerminated, beq_iff_eq]
  rw [hlast, IsSplit.forall_dropLast_iff]
  exact ⟨fun h => ⟨h.piece, h.terminated⟩, fun ⟨hpiece, hterm⟩ => ⟨hpiece, hterm⟩⟩

/-- A line that ends in CRLF, an empty one and one without an end, and then without the second. -/
theorem text_and_lines_threeLines :
    IsSplit [['a', '\r', '\n'], ['\n'], ['\r', 'b']] ∧
      splitLines ['a', '\r', '\n', '\n', '\r', 'b'] = [['a', '\r', '\n'], ['\n'], ['\r', 'b']] ∧
      IsSplit [['a', '\r', '\n'], ['\r', 'b']] := by
  obtain ⟨-, hjoin, hsub, hiff⟩ := text_and_lines
  have h : IsSplit [['a', '\r', '\n'], ['\n'], ['\r', 'b']] := (hiff _).mpr (by decide)
  exact ⟨h, hjoin _ h, hsub _ _ h (by decide)⟩

end SkipAudit
