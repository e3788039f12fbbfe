/-
# Diagnostics that are not well-formed

What a compiler writes need not be UTF-8, and the text that is classified has a replacement
character for every ill-formed piece.  No phrase is made or lost by that.  The bytes can be cut so
that every piece stands for a part of its own (`exists_stands`), and there are two kinds of parts:

    one ASCII byte                    the piece is that character
    any bytes, none of them ASCII     the piece is shown as a character that is not ASCII

The second kind is as it is because no ASCII byte goes on with a sequence, and because a sequence
that has begun ends in a character beyond ASCII or in none (`Partial.Sound`).  A word in ASCII is
then looked for in both, one piece and one part at a time (`infix_decodeLossy_iff`).  Nothing is
said about which bytes a replacement character stands for, except that there are some.
-/
import Mathlib.Algebra.Group.Nat.Defs
import Mathlib.Data.List.Forall2
import SkipAudit.Compiler.Execution
import SkipAudit.Proofs.Classification

namespace SkipAudit

namespace Utf8

/-! ## Sequences that have begun -/

theorem toNat_ofNat {n : Nat} (h : n.isValidChar) : (Char.ofNat n).toNat = n := by
  rw [Char.ofNat, dif_pos h]
  rfl

namespace Partial

/-- The least value that a sequence may end in. -/
def least (p : Partial) : Nat := (p.value * 0x40 + (p.low - 0x80)) * 0x40 ^ (p.more - 1)

/-- The first value above those that a sequence may end in. -/
def beyond (p : Partial) : Nat := (p.value * 0x40 + (p.high - 0x80) + 1) * 0x40 ^ (p.more - 1)

/-- A sequence goes on with bytes that are not ASCII, and all values that it may end in are
characters, none of them ASCII.  The surrogates have to be left out: `Char.ofNat` makes the
character zero of them, and that one is ASCII. -/
structure Sound (p : Partial) : Prop where
  low : 0x80 ≤ p.low
  range : 0x80 ≤ p.least ∧ p.beyond ≤ 0xD800 ∨ 0xE000 ≤ p.least ∧ p.beyond ≤ 0x110000

variable {p : Partial} {b : UInt8}

theorem accepts_iff : p.accepts b = true ↔ p.low ≤ b.toNat ∧ b.toNat ≤ p.high := by
  rw [accepts, Bool.and_eq_true, decide_eq_true_eq, decide_eq_true_eq]

theorem Sound.not_ascii (h : p.Sound) (hb : p.accepts b = true) : 0x80 ≤ b.toNat :=
  h.low.trans (accepts_iff.mp hb).1

theorem valueWith_bounds (hb : p.accepts b = true) :
    p.value * 0x40 + (p.low - 0x80) ≤ p.valueWith b ∧
      p.valueWith b ≤ p.value * 0x40 + (p.high - 0x80) := by
  obtain ⟨hlow, hhigh⟩ := accepts_iff.mp hb
  unfold valueWith
  omega

theorem least_next (p : Partial) (b : UInt8) :
    (p.next b).least = p.valueWith b * 0x40 * 0x40 ^ (p.more - 1 - 1) := by
  unfold least Partial.next
  dsimp only
  rw [Nat.sub_self, Nat.add_zero]

theorem beyond_next (p : Partial) (b : UInt8) :
    (p.next b).beyond = (p.valueWith b + 1) * 0x40 * 0x40 ^ (p.more - 1 - 1) := by
  unfold beyond Partial.next
  dsimp only
  have hvalue : p.valueWith b * 0x40 + (0xBF - 0x80) + 1 = (p.valueWith b + 1) * 0x40 := by omega
  rw [hvalue]

/-- One byte more leaves some of the values. -/
theorem Sound.next (h : p.Sound) (hb : p.accepts b = true) (hmore : 1 < p.more) :
    (p.next b).Sound := by
  obtain ⟨hlow, hhigh⟩ := valueWith_bounds hb
  have hpow : 0x40 ^ (p.more - 1) = 0x40 * 0x40 ^ (p.more - 1 - 1) := by
    rw [← Nat.pow_succ', Nat.succ_eq_add_one, Nat.sub_add_cancel (by omega)]
  have hleast : p.least ≤ (p.next b).least := by
    rw [least_next, Nat.mul_assoc, ← hpow]
    exact Nat.mul_le_mul_right _ hlow
  have hbeyond : (p.next b).beyond ≤ p.beyond := by
    rw [beyond_next, Nat.mul_assoc, ← hpow]
    exact Nat.mul_le_mul_right _ (Nat.succ_le_succ hhigh)
  refine ⟨Nat.le_refl _, ?_⟩
  rcases h.range with ⟨h₁, h₂⟩ | ⟨h₁, h₂⟩
  · exact .inl ⟨h₁.trans hleast, hbeyond.trans h₂⟩
  · exact .inr ⟨h₁.trans hleast, hbeyond.trans h₂⟩

/-- The last byte makes a character that is not ASCII. -/
theorem Sound.char (h : p.Sound) (hb : p.accepts b = true) (hmore : p.more ≤ 1) :
    0x80 ≤ (Char.ofNat (p.valueWith b)).toNat := by
  obtain ⟨hlow, hhigh⟩ := valueWith_bounds hb
  have hpow : 0x40 ^ (p.more - 1) = 1 := by
    rw [Nat.sub_eq_zero_of_le hmore, Nat.pow_zero]
  have hleast : p.least ≤ p.valueWith b := by
    rw [least, hpow, Nat.mul_one]
    exact hlow
  have hbeyond : p.valueWith b < p.beyond := by
    rw [beyond, hpow, Nat.mul_one]
    exact Nat.lt_succ_of_le hhigh
  have hvalid : (p.valueWith b).isValidChar := by
    rcases h.range with ⟨-, h⟩ | ⟨h, h'⟩
    · exact .inl (lt_of_lt_of_le hbeyond h)
    · exact .inr ⟨lt_of_lt_of_le (by decide) (h.trans hleast), lt_of_lt_of_le hbeyond h'⟩
  rw [toNat_ofNat hvalid]
  rcases h.range with ⟨h, -⟩ | ⟨h, -⟩
  · exact h.trans hleast
  · exact le_trans (by decide) (h.trans hleast)

end Partial

theorem lead_eq_char {b : UInt8} {c : Char} (h : lead b = .char c) :
    b.toNat < 0x80 ∧ Char.ofNat b.toNat = c := by
  unfold lead at h
  extract_lets n at h
  split at h
  · rename_i hb
    exact ⟨hb, Lead.char.inj h⟩
  · repeat' split at h
    all_goals cases h

theorem le_of_lead_eq_invalid {b : UInt8} (h : lead b = .invalid) : 0x80 ≤ b.toNat := by
  unfold lead at h
  extract_lets n at h
  split at h
  · cases h
  · omega

/-- The first byte of a sequence begins a sound one, and is not ASCII. -/
theorem sound_of_lead {b : UInt8} {p : Partial} (h : lead b = .begins p) :
    p.Sound ∧ 0x80 ≤ b.toNat := by
  have hb := b.toNat_lt
  unfold lead at h
  extract_lets n at h
  split at h
  · exact absurd h (by simp)
  · refine ⟨?_, by omega⟩
    -- One case for each row of the table of first bytes.
    repeat' split at h
    all_goals cases h
    all_goals
      refine ⟨by simp, ?_⟩
      simp only [Partial.least, Partial.beyond, Nat.reduceSub, Nat.reducePow]
      omega

/-! ## The part of the bytes that a piece stands for -/

/-- A piece stands for these bytes. -/
inductive Piece.Stands : Piece → List UInt8 → Prop
  | ascii {b : UInt8} : b.toNat < 0x80 → Stands (.char (Char.ofNat b.toNat)) [b]
  | other {x : Piece} {part : List UInt8} : 0x80 ≤ x.shown.toNat → part ≠ [] →
      (∀ b ∈ part, 0x80 ≤ b.toNat) → Stands x part

/-- These bytes have been read of a sequence that has begun. -/
inductive Held : Option Partial → List UInt8 → Prop
  | between : Held none []
  | inside {p : Partial} {taken : List UInt8} : p.Sound → taken ≠ [] →
      (∀ b ∈ taken, 0x80 ≤ b.toNat) → Held (some p) taken

theorem piecesFrom_some (p : Partial) (b : UInt8) (bs : List UInt8) :
    piecesFrom (some p) (b :: bs) =
      if p.accepts b then
        if p.more ≤ 1 then .char (Char.ofNat (p.valueWith b)) :: piecesFrom none bs
        else piecesFrom (some (p.next b)) bs
      else .illFormed :: piecesFrom none (b :: bs) := rfl

theorem Held.concat {p : Partial} {taken : List UInt8} {b : UInt8} (h : Held (some p) taken)
    (hb : p.accepts b = true) : taken ++ [b] ≠ [] ∧ ∀ c ∈ taken ++ [b], 0x80 ≤ c.toNat := by
  cases h with
  | inside hp _ hall =>
      refine ⟨by simp, fun c hc => ?_⟩
      rcases List.mem_append.mp hc with hc | hc
      · exact hall c hc
      · exact List.mem_singleton.mp hc ▸ hp.not_ascii hb

/-- The bytes of a sequence that goes no further are an ill-formed piece. -/
theorem Held.illFormed {p : Partial} {taken : List UInt8} (h : Held (some p) taken) :
    Piece.illFormed.Stands taken := by
  cases h with
  | inside _ hne hall => exact .other (by decide) hne hall

/-- The bytes can be cut so that every piece stands for a part of its own. -/
theorem exists_stands {open? : Option Partial} {taken : List UInt8} (h : Held open? taken)
    (bs : List UInt8) :
    ∃ parts, parts.flatten = taken ++ bs ∧
      List.Forall₂ Piece.Stands (piecesFrom open? bs) parts := by
  induction bs generalizing open? taken with
  | nil =>
      cases open? with
      | none =>
          cases h with
          | between => exact ⟨[], rfl, .nil⟩
      | some p => exact ⟨[taken], by simp, .cons h.illFormed .nil⟩
  | cons b bs ih =>
      -- A sequence may be broken off by a byte that begins anew, so that comes first.
      have hfresh : ∃ parts, parts.flatten = b :: bs ∧
          List.Forall₂ Piece.Stands (piecesFrom none (b :: bs)) parts := by
        obtain ⟨rest, hrest, hstands⟩ := ih Held.between
        rw [piecesFrom]
        dsimp only
        split
        · rename_i c hc
          obtain ⟨hb, rfl⟩ := lead_eq_char hc
          exact ⟨[b] :: rest, by simp [hrest], .cons (.ascii hb) hstands⟩
        · rename_i p hp
          obtain ⟨hsound, hb⟩ := sound_of_lead hp
          have hheld : Held (some p) [b] := .inside hsound (by simp) (by simpa using hb)
          exact ih hheld
        · rename_i hb
          have hstep : Piece.illFormed.Stands [b] :=
            .other (by decide) (by simp) (by simpa using le_of_lead_eq_invalid hb)
          exact ⟨[b] :: rest, by simp [hrest], .cons hstep hstands⟩
      cases open? with
      | none =>
          cases h with
          | between => exact hfresh
      | some p =>
          rw [piecesFrom_some]
          split
          · rename_i hb
            obtain ⟨hne, hall⟩ := h.concat hb
            cases h with
            | inside hp _ _ =>
                split
                · rename_i hmore
                  obtain ⟨rest, hrest, hstands⟩ := ih Held.between
                  refine ⟨(taken ++ [b]) :: rest, by simp [hrest], .cons ?_ hstands⟩
                  exact .other (hp.char hb hmore) hne hall
                · rename_i hmore
                  obtain ⟨parts, hparts, hstands⟩ :=
                    ih (.inside (hp.next hb (Nat.lt_of_not_le hmore)) hne hall)
                  exact ⟨parts, by simp [hparts], hstands⟩
          · obtain ⟨parts, hparts, hstands⟩ := hfresh
            exact ⟨taken :: parts, by simp [hparts], .cons h.illFormed hstands⟩

/-! ## Searching both -/

theorem toNat_toUInt8 {c : Char} (hc : c.toNat < 0x80) : c.toNat.toUInt8.toNat = c.toNat :=
  Nat.mod_eq_of_lt (hc.trans (by decide))

theorem encode_cons_of_ascii {c : Char} (hc : c.toNat < 0x80) (n : Text) :
    encode (c :: n) = c.toNat.toUInt8 :: encode n := by
  have hchar : String.utf8EncodeChar c = [c.toNat.toUInt8] := by
    rw [String.utf8EncodeChar]
    exact if_pos (Nat.le_of_lt_succ hc)
  rw [encode, List.flatMap_cons, hchar]
  rfl

theorem lt_of_mem_encode {n : Text} (hn : ∀ c ∈ n, c.toNat < 0x80) :
    ∀ b ∈ encode n, b.toNat < 0x80 := by
  induction n with
  | nil => exact fun _ hb => absurd hb List.not_mem_nil
  | cons c n ih =>
      obtain ⟨hc, hn'⟩ := List.forall_mem_cons.mp hn
      rw [encode_cons_of_ascii hc]
      exact List.forall_mem_cons.mpr ⟨(toNat_toUInt8 hc).symm ▸ hc, ih hn'⟩

/-- A word is not found in a list because of elements in front of it that the word lacks. -/
theorem infix_append_iff_of_disjoint {α : Type} {n s : List α} (hne : n ≠ [])
    (hs : ∀ a ∈ s, a ∉ n) (t : List α) : n <:+: s ++ t ↔ n <:+: t := by
  induction s with
  | nil => exact Iff.rfl
  | cons a s ih =>
      obtain ⟨ha, hs'⟩ := List.forall_mem_cons.mp hs
      rw [List.cons_append, List.infix_cons_iff, ih hs']
      refine or_iff_right fun h => ?_
      obtain rfl | ⟨u, rfl, -⟩ := List.prefix_cons_iff.mp h
      · exact hne rfl
      · exact ha List.mem_cons_self

section Search

variable {xs : List Piece} {parts : List (List UInt8)}

theorem prefix_shown_iff (h : List.Forall₂ Piece.Stands xs parts) {n : Text}
    (hn : ∀ c ∈ n, c.toNat < 0x80) : n <+: xs.map Piece.shown ↔ encode n <+: parts.flatten := by
  induction h generalizing n with
  | nil =>
      cases n with
      | nil => exact iff_of_true List.nil_prefix List.nil_prefix
      | cons c n =>
          rw [encode_cons_of_ascii (hn c List.mem_cons_self)]
          exact iff_of_false (by simp) (by simp)
  | cons hx _ ih =>
      cases n with
      | nil => exact iff_of_true List.nil_prefix List.nil_prefix
      | cons c n =>
          obtain ⟨hc, hn'⟩ := List.forall_mem_cons.mp hn
          rw [List.map_cons, List.flatten_cons, encode_cons_of_ascii hc, List.cons_prefix_cons]
          cases hx with
          | @ascii b hb =>
              rw [List.singleton_append, List.cons_prefix_cons, ih hn', Piece.shown]
              refine and_congr_left fun _ => ?_
              constructor
              · rintro rfl
                rw [toNat_ofNat (.inl (by omega)), Nat.toUInt8_eq, UInt8.ofNat_toNat]
              · rintro rfl
                rw [toNat_toUInt8 hc, Char.ofNat_toNat]
          | other hshown hne hall =>
              obtain ⟨b, part, rfl⟩ := List.exists_cons_of_ne_nil hne
              rw [List.cons_append, List.cons_prefix_cons]
              refine iff_of_false ?_ ?_
              · rintro ⟨rfl, -⟩
                exact absurd hc (Nat.not_lt.mpr hshown)
              · rintro ⟨rfl, -⟩
                have hb := hall _ List.mem_cons_self
                rw [toNat_toUInt8 hc] at hb
                exact absurd hc (Nat.not_lt.mpr hb)

theorem infix_shown_iff (h : List.Forall₂ Piece.Stands xs parts) {n : Text} (hne : n ≠ [])
    (hn : ∀ c ∈ n, c.toNat < 0x80) : n <:+: xs.map Piece.shown ↔ encode n <:+: parts.flatten := by
  have hencode : encode n ≠ [] := by
    obtain ⟨c, n, rfl⟩ := List.exists_cons_of_ne_nil hne
    rw [encode_cons_of_ascii (hn c List.mem_cons_self)]
    exact List.cons_ne_nil _ _
  induction h with
  | nil => simp [hne, hencode]
  | cons hx hxs ih =>
      have hprefix := prefix_shown_iff (.cons hx hxs) hn
      rw [List.map_cons, List.flatten_cons] at hprefix ⊢
      cases hx with
      | ascii hb =>
          rw [List.singleton_append] at hprefix ⊢
          rw [List.infix_cons_iff, List.infix_cons_iff]
          exact or_congr hprefix ih
      | other hshown _ hall =>
          rw [← List.singleton_append, infix_append_iff_of_disjoint hne,
            infix_append_iff_of_disjoint hencode]
          · exact ih
          · intro b hb hmem
            exact absurd (lt_of_mem_encode hn b hmem) (Nat.not_lt.mpr (hall b hb))
          · intro c hc hmem
            obtain rfl := List.mem_singleton.mp hc
            exact absurd (hn _ hmem) (Nat.not_lt.mpr hshown)

end Search

/-- An ASCII word occurs in the text that bytes are shown as exactly where its bytes occur. -/
theorem infix_decodeLossy_iff {n : Text} (hne : n ≠ []) (hn : ∀ c ∈ n, c.toNat < 0x80)
    (bs : List UInt8) : n <:+: decodeLossy bs ↔ encode n <:+: bs := by
  obtain ⟨parts, hparts, hstands⟩ := exists_stands .between bs
  rw [decodeLossy, pieces, infix_shown_iff hstands hne hn, hparts, List.nil_append]

end Utf8

/-! ## Phrases in bytes -/

/-- The end of a program that has not succeeded in time is put down with its diagnostics. -/
theorem Finished.outcome_of_failed {e : Ending} (hstatus : e ≠ .exited 0) (htime : e ≠ .outOfTime)
    (bs : List UInt8) :
    Finished.outcome ⟨e, bs⟩ =
      .failed e.code (Utf8.decodeLossy bs) (Failure.classify (Utf8.decodeLossy bs) e.code) := by
  cases e with
  | exited status =>
      cases status with
      | zero => exact absurd rfl hstatus
      | succ status => rfl
  | killed signal => rfl
  | outOfTime => exact absurd rfl htime

namespace Failure

/-- The bytes of a phrase stand next to each other somewhere in some bytes. -/
def InBytes (bs : List UInt8) (phrase : Text) : Prop := Utf8.encode phrase <:+: bs

instance (bs : List UInt8) (phrase : Text) : Decidable (InBytes bs phrase) :=
  inferInstanceAs (Decidable (_ <:+: _))

theorem phrase_ascii : ∀ s ∈ signatures, ∀ c ∈ s.phrase, c.toNat < 0x80 := by
  have hall : signatures.all (fun s => s.phrase.all fun c => c.toNat < 0x80) = true := by decide
  intro s hs c hc
  exact of_decide_eq_true (List.all_eq_true.mp (List.all_eq_true.mp hall s hs) c hc)

/-- **Ill-formed bytes neither hide a phrase nor make one.**  Classifying the text that bytes are
shown as comes to the first row of the table whose phrase is in the bytes themselves, and to the
exit status when there is no such row; so does a run of the compiler that has failed. -/
theorem classify_decodeLossy (bs : List UInt8) (code : Int) :
    (∀ f, classify (Utf8.decodeLossy bs) code = f ↔ ∃ row?, Decided (InBytes bs) code row? f) ∧
      ∀ e : Ending, e ≠ .exited 0 → e ≠ .outOfTime → ∀ f,
        (Finished.outcome ⟨e, bs⟩).failure? = some f ↔
          ∃ row?, Decided (InBytes bs) e.code row? f := by
  have hseen : ∀ s ∈ signatures, s.phrase <:+: Utf8.decodeLossy bs ↔ InBytes bs s.phrase := by
    intro s hs
    exact Utf8.infix_decodeLossy_iff (phrase_on_one_line s hs).1 (phrase_ascii s hs) bs
  refine ⟨classify_eq_iff_of_seen hseen code, fun e hstatus htime f => ?_⟩
  rw [Finished.outcome_of_failed hstatus htime, Outcome.failure?, Option.some.injEq]
  exact classify_eq_iff_of_seen hseen e.code f

/-- A phrase stands between the beginnings of two characters, and another one is broken in two by
a byte that is none. -/
theorem classify_decodeLossy_sample :
    let bs := [0xF0, 0x9F] ++ Utf8.encode (text "Segmentation fault") ++ [0xED] ++
      Utf8.encode (text "panic:") ++ [0xFF] ++ Utf8.encode (text " ")
    Ending.killed 11 ≠ .exited 0 ∧ Ending.killed 11 ≠ .outOfTime ∧
      (Finished.outcome ⟨.killed 11, bs⟩).failure? = some .segfault := by
  intro bs
  have hrow : Decided (InBytes bs) (-11) (some 3) .segfault :=
    .row (s := ⟨text "Segmentation fault", .segfault⟩) rfl (by decide +kernel) (by decide +kernel)
  refine ⟨by simp, by simp, ?_⟩
  exact ((classify_decodeLossy bs 0).2 (.killed 11) (by simp) (by simp) .segfault).mpr ⟨_, hrow⟩

end Failure

end SkipAudit
