/-
# A test file, taken apart at its declarations

The passes read a file as one sequence of lines and carry a state along.  What they do is
easier to say block by block, so the lines are cut once and for all: a preamble, and then for
every declaration the lines under it.

    lines_outline          the outline of some lines has these lines
    wellFormed_outline     and its declarations stand at the heads of blocks only

Each pass is later shown to be a map on outlines.
-/
import SkipAudit.Proofs.Lines

namespace SkipAudit

/-- A declaration with the lines up to the next one. -/
structure TestBlock where
  head : Line
  body : List Line
deriving DecidableEq, Repr

/-- The lines above the first declaration, and the blocks. -/
@[ext]
structure Outline where
  preamble : List Line
  blocks : List TestBlock
deriving DecidableEq, Repr

namespace TestBlock

/-- The lines of a block. -/
def lines (b : TestBlock) : List Line := b.head :: b.body

theorem add_length_lines (i : Nat) (b : TestBlock) :
    i + b.lines.length = i + 1 + b.body.length := by
  rw [lines, List.length_cons]
  omega

theorem lines_inj {b c : TestBlock} (h : b.lines = c.lines) : b = c := by
  obtain ⟨hhead, hbody⟩ := List.cons.inj h
  exact congr (congrArg TestBlock.mk hhead) hbody

/-- The head is a declaration, and nothing under it is. -/
structure WellFormed (b : TestBlock) : Prop where
  head : b.head.isDeclaration = true
  body : ∀ l ∈ b.body, l.isDeclaration = false

end TestBlock

namespace Outline

/-- The lines of a file with this outline. -/
def lines (o : Outline) : List Line := o.preamble ++ o.blocks.flatMap TestBlock.lines

/-- Declarations stand at the heads of blocks only. -/
structure WellFormed (o : Outline) : Prop where
  preamble : ∀ l ∈ o.preamble, l.isDeclaration = false
  blocks : ∀ b ∈ o.blocks, b.WellFormed

/-- Put a line on top. -/
def cons (l : Line) (o : Outline) : Outline :=
  if l.isDeclaration then ⟨[], ⟨l, o.preamble⟩ :: o.blocks⟩ else ⟨l :: o.preamble, o.blocks⟩

theorem lines_cons (l : Line) (o : Outline) : (o.cons l).lines = l :: o.lines := by
  rw [cons]
  split <;> simp [lines, TestBlock.lines]

theorem WellFormed.cons {o : Outline} (h : o.WellFormed) (l : Line) :
    (o.cons l).WellFormed := by
  rw [Outline.cons]
  split
  · rename_i hl
    refine ⟨fun _ hm => absurd hm List.not_mem_nil, fun b hb => ?_⟩
    rcases List.mem_cons.mp hb with rfl | hb
    · exact ⟨hl, h.preamble⟩
    · exact h.blocks b hb
  · rename_i hl
    refine ⟨fun m hm => ?_, h.blocks⟩
    rcases List.mem_cons.mp hm with rfl | hm
    · exact Bool.eq_false_iff.mpr hl
    · exact h.preamble m hm

end Outline

/-- The outline of some lines. -/
def outline : List Line → Outline
  | [] => ⟨[], []⟩
  | l :: ls => (outline ls).cons l

theorem lines_outline (ls : List Line) : (outline ls).lines = ls := by
  induction ls with
  | nil => rfl
  | cons l ls ih => rw [outline, Outline.lines_cons, ih]

theorem wellFormed_outline (ls : List Line) : (outline ls).WellFormed := by
  induction ls with
  | nil => exact ⟨fun _ h => absurd h List.not_mem_nil, fun _ h => absurd h List.not_mem_nil⟩
  | cons l ls ih => exact ih.cons l

theorem isSplit_outline (t : Text) : IsSplit (outline (splitLines t)).lines :=
  (lines_outline (splitLines t)).symm ▸ isSplit_splitLines t

theorem length_blocks_outline (ls : List Line) :
    (outline ls).blocks.length = ls.countP Line.isDeclaration := by
  induction ls with
  | nil => rfl
  | cons l ls ih =>
      rw [outline, Outline.cons, List.countP_cons, ← ih]
      split <;> rfl

/-! ## Changing blocks in place -/

/-- A block can stand in for another: its lines survive being written and read wherever the
lines of the other do. -/
structure TestBlock.StandsFor (b' b : TestBlock) : Prop where
  isSplit : IsSplit b.lines → IsSplit b'.lines
  terminated : (∀ l ∈ b.lines, l.isTerminated = true) → ∀ l ∈ b'.lines, l.isTerminated = true

theorem isSplit_flatMap_map {f : TestBlock → TestBlock} {bs : List TestBlock}
    (hf : ∀ b ∈ bs, (f b).StandsFor b) (h : IsSplit (bs.flatMap TestBlock.lines)) :
    IsSplit ((bs.map f).flatMap TestBlock.lines) := by
  induction bs with
  | nil => exact h
  | cons b bs ih =>
      rw [List.flatMap_cons, IsSplit.append_iff] at h
      obtain ⟨hb, hterm, hbs⟩ := h
      have hfb := hf b List.mem_cons_self
      rw [List.map_cons, List.flatMap_cons, IsSplit.append_iff]
      refine ⟨hfb.isSplit hb, fun hne => hfb.terminated (hterm ?_),
        ih (fun c hc => hf c (List.mem_cons_of_mem _ hc)) hbs⟩
      -- Every block has a line, so something follows before iff something follows after.
      cases bs with
      | nil => exact absurd rfl hne
      | cons c cs => exact List.cons_ne_nil _ _

end SkipAudit
