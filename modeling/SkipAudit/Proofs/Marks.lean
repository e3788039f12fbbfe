/-
# Marks and line endings

What a line means to the passes is decided by the text before its ending: no mark contains a
carriage return or a line feed, so a line that is given an ending keeps all its marks
(`isDeclaration_terminateWith` and its fellows).  No tag reaches into a skip statement either,
so a skip line that loses its tags keeps the statement (`isSkip_withoutTag`).  The lines that the
tool writes itself, the provisional skip line and the blank line under it, are looked at here once
and for all.
-/
import Mathlib.Data.List.Infix
import SkipAudit.Block.Marking
import SkipAudit.Block.TestUnit
import SkipAudit.Proofs.Lines

namespace SkipAudit

namespace Text

/-- A character that a word lacks does not complete an occurrence of it. -/
theorem occursIn_concat {n : Text} {c : Char} (hne : n ≠ []) (hc : c ∉ n) (t : Text) :
    occursIn n (t ++ [c]) = occursIn n t := by
  rw [Bool.eq_iff_iff, occursIn_iff, occursIn_iff, List.infix_concat_iff]
  refine ⟨?_, Or.inr⟩
  rintro (h | h)
  · rcases List.suffix_concat_iff.mp h with rfl | ⟨s, rfl, -⟩
    · exact absurd rfl hne
    · exact absurd (List.mem_append_right s List.mem_cons_self) hc
  · exact h

theorem startsWith_concat {n : Text} {c : Char} (hc : c ∉ n) (t : Text) :
    startsWith n (t ++ [c]) = startsWith n t := by
  rw [Bool.eq_iff_iff, startsWith, startsWith, List.isPrefixOf_iff_prefix,
    List.isPrefixOf_iff_prefix, List.prefix_concat_iff]
  refine ⟨?_, Or.inr⟩
  rintro (rfl | h)
  · exact absurd (List.mem_append_right t List.mem_cons_self) hc
  · exact h

/-- Nothing is removed where nothing occurs. -/
theorem removeAll_of_not_occursIn {n t : Text} (h : occursIn n t = false) :
    removeAll n t = t := by
  rw [removeAll]
  induction t with
  | nil => rfl
  | cons c t ih =>
      rw [occursIn, Bool.or_eq_false_iff] at h
      rw [removeFrom, if_neg (by simp [h.1]), ih h.2]

/-! ### What removing keeps -/

section Remove

variable {n : Text} {c : Char} (hne : n ≠ []) (hc : c ∉ n)

include hne hc

theorem removeFrom_concat (t : Text) {pending : Nat} (h : pending ≤ t.length) :
    removeFrom n pending (t ++ [c]) = removeFrom n pending t ++ [c] := by
  induction t generalizing pending with
  | nil =>
      obtain rfl : pending = 0 := Nat.le_zero.mp h
      have hno : ¬ n.isPrefixOf [c] = true := by
        rw [← List.nil_append [c], ← startsWith, startsWith_concat hc, startsWith]
        simpa using hne
      have hstep : removeFrom n 0 [c] = [c] := by rw [removeFrom, if_neg hno, removeFrom]
      exact hstep
  | cons d t ih =>
      cases pending with
      | succ pending =>
          rw [List.cons_append, removeFrom, ih (Nat.le_of_succ_le_succ h), removeFrom]
      | zero =>
          have hsame : n.isPrefixOf (d :: (t ++ [c])) = n.isPrefixOf (d :: t) :=
            startsWith_concat hc (d :: t)
          rw [List.cons_append, removeFrom, removeFrom, hsame]
          by_cases hp : n.isPrefixOf (d :: t) = true
          · have hlen := (List.isPrefixOf_iff_prefix.mp hp).length_le
            rw [if_pos hp, if_pos hp, ih (by simp at hlen; omega)]
          · rw [if_neg hp, if_neg hp, ih (Nat.zero_le _), List.cons_append]

theorem removeAll_concat (t : Text) : removeAll n (t ++ [c]) = removeAll n t ++ [c] :=
  removeFrom_concat hne hc t (Nat.zero_le _)

theorem mem_removeFrom {t : Text} {pending : Nat} (h : c ∈ t.drop pending) :
    c ∈ removeFrom n pending t := by
  induction t generalizing pending with
  | nil => simp at h
  | cons d t ih =>
      cases pending with
      | succ pending => exact ih h
      | zero =>
          rw [removeFrom]
          split
          · -- What is passed over lies inside an occurrence, where `c` is not.
            rename_i hp
            obtain ⟨rest, hrest⟩ := List.isPrefixOf_iff_prefix.mp hp
            obtain ⟨a, n', rfl⟩ := List.exists_cons_of_ne_nil hne
            refine ih ?_
            obtain ⟨-, rfl⟩ := List.cons.inj hrest
            rw [List.drop_zero, ← hrest, List.mem_append] at h
            simpa using h.resolve_left hc
          · rcases List.mem_cons.mp h with rfl | h
            · exact List.mem_cons_self
            · exact List.mem_cons_of_mem _ (ih h)

end Remove

/-! ### What removing leaves whole -/

/-- No part of `s` from some place on begins like `n`, as far as both go. -/
def Apart (s n : Text) : Prop := ∀ i < s.length, ¬ s.drop i <+: n ∧ ¬ n <+: s.drop i

instance (s n : Text) : Decidable (Apart s n) :=
  inferInstanceAs (Decidable (∀ i < s.length, ¬ s.drop i <+: n ∧ ¬ n <+: s.drop i))

theorem not_prefix_append {n s : Text} (h : ¬ s <+: n ∧ ¬ n <+: s) (t : Text) : ¬ n <+: s ++ t :=
  fun hn => (List.prefix_or_prefix_of_prefix hn (List.prefix_append s t)).elim h.2 h.1

theorem Apart.tail {c : Char} {s n : Text} (h : Apart (c :: s) n) : Apart s n := fun i hi =>
  h (i + 1) (Nat.succ_lt_succ hi)

theorem removeFrom_zero_append {s n : Text} (h : Apart s n) (t : Text) :
    removeFrom n 0 (s ++ t) = s ++ removeFrom n 0 t := by
  induction s with
  | nil => rfl
  | cons c s ih =>
      have hno : ¬ n <+: c :: (s ++ t) := not_prefix_append (h 0 (Nat.succ_pos _)) t
      rw [List.cons_append, removeFrom, if_neg (mt List.isPrefixOf_iff_prefix.mp hno), ih h.tail,
        List.cons_append]

/-- A piece of the text that no occurrence can reach into stays. -/
theorem removeFrom_append {s n : Text} (hs : Apart s n) (hn : Apart n s) (r t : Text)
    {pending : Nat} (h : pending ≤ r.length) :
    ∃ r', removeFrom n pending (r ++ (s ++ t)) = r' ++ (s ++ removeFrom n 0 t) := by
  induction r generalizing pending with
  | nil =>
      obtain rfl : pending = 0 := Nat.le_zero.mp h
      exact ⟨[], removeFrom_zero_append hs t⟩
  | cons c r ih =>
      cases pending with
      | succ pending => exact ih (Nat.le_of_succ_le_succ h)
      | zero =>
          rw [List.cons_append, removeFrom]
          split
          · rename_i hp
            -- An occurrence that begins in `r` ends there, or else what is left of it begins
            -- like `s`.
            refine ih (Nat.le_of_not_lt fun hlt => ?_)
            have hrest := List.IsPrefix.drop (List.isPrefixOf_iff_prefix.mp hp) (r.length + 1)
            rw [List.drop_succ_cons, List.drop_left] at hrest
            have happ := hn (r.length + 1) (by omega)
            exact not_prefix_append happ.symm t hrest
          · obtain ⟨r', heq⟩ := ih (Nat.zero_le _)
            exact ⟨c :: r', by rw [heq, List.cons_append]⟩

theorem occursIn_removeAll {s n t : Text} (hs : Apart s n) (hn : Apart n s)
    (h : occursIn s t = true) : occursIn s (removeAll n t) = true := by
  obtain ⟨r, t, rfl⟩ := (occursIn_iff _ _).mp h
  obtain ⟨r', heq⟩ := removeFrom_append hs hn r t (Nat.zero_le _)
  rw [occursIn_iff, removeAll, List.append_assoc, heq]
  exact ⟨r', _, List.append_assoc _ _ _⟩

theorem removeFrom_sublist (n : Text) (pending : Nat) (t : Text) :
    (removeFrom n pending t).Sublist t := by
  induction t generalizing pending with
  | nil => exact .slnil
  | cons c t ih =>
      cases pending with
      | succ pending => exact (ih pending).cons c
      | zero =>
          rw [removeFrom]
          split
          · exact (ih _).cons c
          · exact (ih 0).cons_cons c

end Text

namespace Line

/-- A line feed, or a carriage return and a line feed. -/
def IsEnding (e : Text) : Prop := e = lf ∨ e = crlf

theorem isEnding_terminator (l : Line) : IsEnding l.terminator := by
  rw [terminator]
  split
  · exact Or.inr rfl
  · exact Or.inl rfl

theorem append_crlf (x : Text) : x ++ crlf = (x ++ ['\r']) ++ ['\n'] := by simp [crlf]

/-! ## A line that is given an ending -/

section Ending

variable {e : Text} (he : IsEnding e) (l : Line)

include he

theorem isTerminated_append_ending : (l ++ e).isTerminated = true := by
  rcases he with rfl | rfl <;> simp [isTerminated, lf, crlf]

theorem isTerminated_terminateWith : (l.terminateWith e).isTerminated = true := by
  rw [terminateWith]
  split
  · assumption
  · exact isTerminated_append_ending he l

theorem occursIn_terminateWith {n : Text} (hne : n ≠ []) (hcr : '\r' ∉ n) (hlf : '\n' ∉ n) :
    Text.occursIn n (l.terminateWith e) = Text.occursIn n l := by
  rw [terminateWith]
  split
  · rfl
  · rcases he with rfl | rfl
    · exact Text.occursIn_concat hne hlf l
    · rw [append_crlf, Text.occursIn_concat hne hlf, Text.occursIn_concat hne hcr]

theorem startsWith_terminateWith {n : Text} (hcr : '\r' ∉ n) (hlf : '\n' ∉ n) :
    Text.startsWith n (l.terminateWith e) = Text.startsWith n l := by
  rw [terminateWith]
  split
  · rfl
  · rcases he with rfl | rfl
    · exact Text.startsWith_concat hlf l
    · rw [append_crlf, Text.startsWith_concat hlf, Text.startsWith_concat hcr]

theorem isDeclaration_terminateWith : (l.terminateWith e).isDeclaration = l.isDeclaration :=
  startsWith_terminateWith he l (by decide) (by decide)

theorem isSkip_terminateWith : (l.terminateWith e).isSkip = l.isSkip :=
  occursIn_terminateWith he l (by decide) (by decide) (by decide)

theorem isPiece_append_ending {x : Text} (hx : '\n' ∉ x) : IsPiece (x ++ e) := by
  rcases he with rfl | rfl <;> exact ⟨by simp [lf, crlf], by simp [lf, crlf, hx]⟩

theorem isPiece_terminateWith (hl : IsPiece l) : IsPiece (l.terminateWith e) := by
  rw [terminateWith]
  split
  · exact hl
  · rename_i hterm
    refine isPiece_append_ending he ?_
    rw [← List.dropLast_concat_getLast hl.1, List.mem_append, not_or, List.mem_singleton]
    refine ⟨hl.2, fun h => hterm ?_⟩
    rw [isTerminated, List.getLast?_eq_some_getLast hl.1, ← h]
    rfl

end Ending

theorem terminateWith_of_isTerminated {l : Line} (h : l.isTerminated = true) (e : Text) :
    l.terminateWith e = l := by
  rw [terminateWith, if_pos h]

/-- An unterminated line counts as one that ends in a line feed, so its own ending leaves the
text before the ending as it is. -/
theorem body_terminateWith_terminator (l : Line) :
    (l.terminateWith l.terminator).body = l.body := by
  rw [terminateWith]
  split
  · rfl
  · rename_i hterm
    have hlast : l.getLast? ≠ some '\n' := by simpa [isTerminated] using hterm
    have hlf : l.terminator = lf := by
      rw [terminator, if_neg]
      intro h
      obtain ⟨x, rfl⟩ := List.isSuffixOf_iff_suffix.mp h
      exact hlast (by simp [crlf])
    rw [hlf, body, body, lf]
    simp [Text.dropFinal, hlast]

theorem nameOf_terminateWith_terminator (l : Line) :
    PendingUnit.nameOf (l.terminateWith l.terminator) = PendingUnit.nameOf l := by
  rw [PendingUnit.nameOf, PendingUnit.nameOf, quotedName?, quotedName?,
    body_terminateWith_terminator]

/-! ## The lines that the tool writes -/

/-- The skip line that is left of a provisional one. -/
def plainSkip (ending : Text) : Line := Mark.indent ++ Mark.skipStatement ++ ending

theorem withoutTag_of_untagged {l : Line} (h : l.isProvisional = false) : l.withoutTag = l :=
  Text.removeAll_of_not_occursIn h

theorem isSkip_provisionalSkip (e : Text) : (provisionalSkip e).isSkip = true := by
  rw [isSkip, Text.occursIn_iff, provisionalSkip, List.append_assoc _ _ e]
  exact List.infix_append _ _ _

theorem isProvisional_provisionalSkip (e : Text) : (provisionalSkip e).isProvisional = true := by
  rw [isProvisional, Text.occursIn_iff, provisionalSkip]
  exact List.infix_append _ _ _

theorem isDeclaration_provisionalSkip (e : Text) : (provisionalSkip e).isDeclaration = false :=
  rfl

theorem isSkip_plainSkip (e : Text) : (plainSkip e).isSkip = true := by
  rw [isSkip, Text.occursIn_iff, plainSkip]
  exact List.infix_append _ _ _

theorem isDeclaration_plainSkip (e : Text) : (plainSkip e).isDeclaration = false := rfl

/-- The statement stays when the tags go; but the line may begin with a declaration then. -/
theorem isSkip_withoutTag {l : Line} (h : l.isSkip = true) : l.withoutTag.isSkip = true :=
  Text.occursIn_removeAll (by decide +kernel) (by decide +kernel) h

theorem isTerminated_withoutTag {l : Line} (h : l.isTerminated = true) :
    l.withoutTag.isTerminated = true := by
  obtain ⟨x, rfl⟩ := List.getLast?_eq_some_iff.mp (beq_iff_eq.mp h)
  rw [withoutTag, Text.removeAll_concat (by decide) (by decide)]
  simp [isTerminated]

/-- No tag holds an opening parenthesis, so a skip line without its tags is not empty. -/
theorem isPiece_withoutTag {l : Line} (hs : l.isSkip = true) (hl : IsPiece l) :
    IsPiece l.withoutTag := by
  constructor
  · have hparen : '(' ∈ l := (Text.occursIn_iff _ _).mp hs |>.subset (by decide +kernel)
    exact List.ne_nil_of_mem (Text.mem_removeFrom (by decide) (by decide) hparen)
  · have hsub : l.withoutTag.dropLast.Sublist l.dropLast := by
      have htail := (Text.removeFrom_sublist Mark.provisionalTag 0 l).reverse.tail
      rw [List.tail_reverse, List.tail_reverse, List.reverse_sublist] at htail
      exact htail
    exact fun h => hl.2 (hsub.subset h)

section Written

variable {e : Text} (he : IsEnding e)

include he

theorem withoutTag_provisionalSkip : (provisionalSkip e).withoutTag = plainSkip e := by
  rcases he with rfl | rfl <;> decide +kernel

theorem isProvisional_plainSkip : (plainSkip e).isProvisional = false := by
  rcases he with rfl | rfl <;> decide +kernel

theorem isPiece_provisionalSkip : IsPiece (provisionalSkip e) :=
  isPiece_append_ending he (by decide +kernel)

theorem isBlank_ending : isBlank e = true := by
  rcases he with rfl | rfl <;> decide

theorem isSkip_ending : isSkip e = false := by
  rcases he with rfl | rfl <;> decide +kernel

theorem isDeclaration_ending : isDeclaration e = false := by
  rcases he with rfl | rfl <;> rfl

theorem isPiece_ending : IsPiece e := isPiece_append_ending (x := []) he List.not_mem_nil

end Written

end Line

end SkipAudit
