/-
# The order of paths

Texts, components, paths and the rows of the report are compared by functions of their own.  Each
of these is a linear order, seen through a rank.

    Text.le_iff           a text ranks as the list of its characters
    Component.le_iff      a component by its kind, and a name by its bytes as well
    Path.le_iff           a path as the list of the ranks of its components
    Corpus.reportLe_iff   a row by its number, and then by its path

Paths of one rank are the same but for their spelling (`Path.rank_eq_iff`).  That these orders are
total and transitive is true of ranks already; and what is sorted by one of them ascends without
ties if the ranks are different, in one way only (`pairwise_lt_mergeSort`,
`mergeSort_eq_of_perm`).
-/
import Mathlib.Data.Char
import Mathlib.Data.List.Lex
import Mathlib.Data.List.Sort
import Mathlib.Data.Prod.Lex
import SkipAudit.Proofs.Corpus

namespace SkipAudit

/-! ## Lists of ranks -/

section Lists

variable {α : Type} [LinearOrder α] {a b : α} {s t : List α}

theorem nil_le_list : [] ≤ t := not_lt.mp (List.not_lt_nil t)

theorem not_cons_le_nil : ¬ a :: s ≤ [] := not_le.mpr (List.nil_lt_cons a s)

theorem cons_le_cons_self_iff : a :: s ≤ a :: t ↔ s ≤ t := by
  rw [← not_lt, ← not_lt, List.cons_lt_cons_iff]
  constructor
  · intro h hts
    exact h (.inr ⟨rfl, hts⟩)
  · rintro h (haa | ⟨-, hts⟩)
    · exact lt_irrefl a haa
    · exact h hts

theorem cons_le_cons_iff_of_ne (hab : a ≠ b) : a :: s ≤ b :: t ↔ a < b := by
  rw [← not_lt, List.cons_lt_cons_iff]
  constructor
  · intro h
    exact lt_of_le_of_ne (not_lt.mp fun hba => h (.inl hba)) hab
  · rintro hlt (hba | ⟨hba, -⟩)
    · exact lt_asymm hlt hba
    · exact hab hba.symm

end Lists

/-! ## What is sorted by rank -/

section Sorting

variable {α β : Type} [LinearOrder β] {rank : α → β} {le : α → α → Bool}
  (hle : ∀ a b, le a b = true ↔ rank a ≤ rank b)

include hle

/-- Rows of different ranks are sorted without ties. -/
theorem pairwise_lt_mergeSort {l : List α} (hl : l.Pairwise fun a b => rank a ≠ rank b) :
    (l.mergeSort le).Pairwise fun a b => rank a < rank b := by
  have hsorted : (l.mergeSort le).Pairwise fun a b => le a b = true := by
    refine List.pairwise_mergeSort ?_ ?_ l
    · intro a b c hab hbc
      exact (hle a c).mpr (((hle a b).mp hab).trans ((hle b c).mp hbc))
    · intro a b
      rw [Bool.or_eq_true, hle, hle]
      exact le_total _ _
  have hne : (l.mergeSort le).Pairwise fun a b => rank a ≠ rank b :=
    ((List.mergeSort_perm l le).pairwise_iff fun h => h.symm).mpr hl
  exact (hsorted.and hne).imp fun ⟨hab, hne⟩ => lt_of_le_of_ne ((hle _ _).mp hab) hne

/-- Sorting forgets the order from before. -/
theorem mergeSort_eq_of_perm {l l' : List α} (hl : l.Pairwise fun a b => rank a ≠ rank b)
    (hperm : l.Perm l') : l.mergeSort le = l'.mergeSort le := by
  have hl' : l'.Pairwise fun a b => rank a ≠ rank b :=
    (hperm.pairwise_iff fun h => h.symm).mp hl
  have hsorted : (l.mergeSort le).Perm (l'.mergeSort le) :=
    ((List.mergeSort_perm l le).trans hperm).trans (List.mergeSort_perm l' le).symm
  refine hsorted.eq_of_pairwise ?_ (pairwise_lt_mergeSort hle hl) (pairwise_lt_mergeSort hle hl')
  intro a b _ _ hab hba
  exact absurd hba (lt_asymm hab)

end Sorting

/-! ## Texts, components and paths -/

theorem Text.le_iff {s t : Text} : Text.le s t = true ↔ s ≤ t := by
  induction s generalizing t with
  | nil => exact iff_of_true rfl nil_le_list
  | cons a s ih =>
      cases t with
      | nil => exact iff_of_false Bool.false_ne_true not_cons_le_nil
      | cons b t =>
          rw [Text.le]
          split
          · rename_i hab
            subst hab
            rw [ih, cons_le_cons_self_iff]
          · rename_i hab
            rw [decide_eq_true_iff, cons_le_cons_iff_of_ne hab]

/-- Where a component stands: by its kind, a name by its bytes as well. -/
def Component.rank : Component → ℕ ×ₗ List Char
  | .root => toLex (0, [])
  | .here => toLex (1, [])
  | .up => toLex (2, [])
  | .name n => toLex (3, n)

theorem Component.rank_injective : Function.Injective Component.rank := by
  intro a b h
  cases a <;> cases b <;> simp_all [rank]

theorem Component.le_iff {a b : Component} : a.le b = true ↔ a.rank ≤ b.rank := by
  cases a <;> cases b <;> simp [Component.le, rank, Prod.Lex.toLex_le_toLex, Text.le_iff]

namespace Path

theorem componentsLe_iff {s t : List Component} :
    componentsLe s t = true ↔ s.map Component.rank ≤ t.map Component.rank := by
  induction s generalizing t with
  | nil => exact iff_of_true rfl nil_le_list
  | cons a s ih =>
      cases t with
      | nil => exact iff_of_false Bool.false_ne_true not_cons_le_nil
      | cons b t =>
          rw [componentsLe, List.map_cons, List.map_cons]
          split
          · rename_i hab
            subst hab
            rw [ih, cons_le_cons_self_iff]
          · rename_i hab
            have hne : a.rank ≠ b.rank := fun h => hab (Component.rank_injective h)
            rw [Component.le_iff, cons_le_cons_iff_of_ne hne, hne.le_iff_lt]

/-- Where a path stands: by its components, one after the other. -/
def rank (p : Path) : List (ℕ ×ₗ List Char) := p.components.map Component.rank

theorem le_iff (p q : Path) : p.le q = true ↔ p.rank ≤ q.rank := componentsLe_iff

theorem rank_eq_iff {p q : Path} : p.rank = q.rank ↔ p.same q = true := by
  rw [same_iff]
  exact (List.map_injective_iff.mpr Component.rank_injective).eq_iff

/-- A path stands before another one, not just in another spelling. -/
def Before (p q : Path) : Prop := p.le q = true ∧ p.same q = false

theorem before_iff {p q : Path} : p.Before q ↔ p.rank < q.rank := by
  rw [Before, le_iff, ← Bool.not_eq_true, ← rank_eq_iff, lt_iff_le_and_ne]

end Path

/-! ## Rows of the report -/

namespace Corpus

/-- Where a row of the report stands: by its number, then by its path. -/
def rowRank (row : Path × Nat) : ℕ ×ₗ List (ℕ ×ₗ List Char) := toLex (row.2, row.1.rank)

theorem reportLe_iff (a b : Path × Nat) : reportLe a b = true ↔ rowRank a ≤ rowRank b := by
  rw [reportLe, rowRank, rowRank, Prod.Lex.toLex_le_toLex, Bool.or_eq_true, Bool.and_eq_true,
    decide_eq_true_iff, beq_iff_eq, Path.le_iff]

theorem rowRank_lt_iff {a b : Path × Nat} :
    rowRank a < rowRank b ↔ a.2 < b.2 ∨ a.2 = b.2 ∧ a.1.Before b.1 := by
  rw [rowRank, rowRank, Prod.Lex.toLex_lt_toLex, Path.before_iff]

end Corpus

end SkipAudit
