/-
Looking for one text inside another.

`occursIn n t` decides whether `n` stands somewhere in `t` as a contiguous piece
(`occursIn_iff`); `removeAll n t` takes out the occurrences of `n`, from left to right and
without overlap.
-/
import SkipAudit.Text.Basic

namespace SkipAudit.Text

/-- `n` stands somewhere in the text. -/
def occursIn (n : Text) : Text → Bool
  | [] => n.isPrefixOf []
  | c :: t => n.isPrefixOf (c :: t) || occursIn n t

theorem occursIn_iff (n t : Text) : occursIn n t = true ↔ n <:+: t := by
  induction t with
  | nil => simp [occursIn]
  | cons c t ih =>
      rw [occursIn, Bool.or_eq_true, ih, List.isPrefixOf_iff_prefix]
      exact List.infix_cons_iff.symm

/-- Remove `n` from the text after passing over its first `pending` characters, which
belong to an occurrence already found. -/
def removeFrom (n : Text) : Nat → Text → Text
  | _, [] => []
  | pending + 1, _ :: t => removeFrom n pending t
  | 0, c :: t =>
      if n.isPrefixOf (c :: t) then removeFrom n (n.length - 1) t
      else c :: removeFrom n 0 t

/-- The text without the occurrences of `n`, found from left to right; no two of them
overlap, and what closes up after a removal is not looked at again. -/
def removeAll (n t : Text) : Text := removeFrom n 0 t

end SkipAudit.Text
