/-
# Names in paths

A path is read piece by piece, the pieces being what stands between its slashes.  What stands in
front of a slash and what stands behind it are read on their own (`Text.cutAt_append`), and so a
name behind a path is one more component of it, and nothing else:

    components_join        (p.join ⟨n⟩).components = p.components ++ [.name n]
    components_down        the same for several names

That needs the name to be one that an entry of a directory can have (`IsEntryName`).  Of two
spellings of a look-up, by components and by slashes, the first does not see a slash at the end of a
path; where a path ends in a name it does (`one_lt_length_components`).
-/
import Mathlib.Data.List.Basic
import SkipAudit.Corpus.Discovery

namespace SkipAudit

/-! ## Pieces between separators -/

namespace Text

variable {sep : Char}

theorem cutAt_ne_nil (sep : Char) (t : Text) : cutAt sep t ≠ [] := by
  cases t with
  | nil => exact List.cons_ne_nil _ _
  | cons c t =>
      rw [cutAt]
      split
      · exact List.cons_ne_nil _ _
      · split <;> exact List.cons_ne_nil _ _

theorem cutAt_of_not_mem {t : Text} (h : sep ∉ t) : cutAt sep t = [t] := by
  induction t with
  | nil => rfl
  | cons c t ih =>
      rw [List.mem_cons, not_or] at h
      obtain ⟨hc, ht⟩ := h
      rw [cutAt, if_neg fun he => hc he.symm, ih ht]

/-- A text is cut at a separator, and then on both sides of it. -/
theorem cutAt_append (s t : Text) : cutAt sep (s ++ sep :: t) = cutAt sep s ++ cutAt sep t := by
  induction s with
  | nil => simp [cutAt]
  | cons c s ih =>
      rw [List.cons_append, cutAt, cutAt, ih]
      split
      · rfl
      · obtain ⟨p, ps, hs⟩ := List.exists_cons_of_ne_nil (cutAt_ne_nil sep s)
        rw [hs]
        rfl

/-- The first piece of a text that does not begin with the separator is not empty. -/
theorem cutAt_cons {c : Char} (hc : c ≠ sep) (t : Text) :
    ∃ p ps, cutAt sep (c :: t) = (c :: p) :: ps := by
  obtain ⟨p, ps, ht⟩ := List.exists_cons_of_ne_nil (cutAt_ne_nil sep t)
  refine ⟨p, ps, ?_⟩
  rw [cutAt, if_neg hc, ht]

end Text

namespace Path

/-! ## Components -/

/-- A name that an entry of a directory can have. -/
def IsEntryName (n : Name) : Prop := n ≠ [] ∧ n ≠ ['.'] ∧ n ≠ ['.', '.'] ∧ '/' ∉ n

instance (n : Name) : Decidable (IsEntryName n) := inferInstanceAs (Decidable (_ ∧ _))

theorem innerComponent_eq_name_iff {n : Octets} :
    innerComponent n = some (.name n) ↔ n ≠ [] ∧ n ≠ ['.'] ∧ n ≠ ['.', '.'] := by
  rw [innerComponent]
  split
  · rename_i h
    rcases h with rfl | rfl <;> simp
  · rename_i h
    split
    · rename_i hup
      subst hup
      simp
    · rename_i hup
      rw [not_or] at h
      simp [h, hup]

/-- The components of a path that is not absolute, by its pieces: a dot counts in front only. -/
theorem componentsOf_cons {c : Char} (hc : c ≠ '/') (w : Octets) :
    componentsOf (c :: w) =
      match Text.cutAt '/' (c :: w) with
      | ['.'] :: rest => .here :: rest.filterMap innerComponent
      | pieces => pieces.filterMap innerComponent := by
  unfold componentsOf
  split
  · rename_i h
    cases h
  · rename_i h
    exact absurd (List.cons.inj h).1 hc
  · rfl

theorem componentsOf_ne_nil {w : Octets} (hw : w ≠ []) : componentsOf w ≠ [] := by
  cases w with
  | nil => exact absurd rfl hw
  | cons c w =>
      by_cases hc : c = '/'
      · subst hc
        exact List.cons_ne_nil _ _
      · obtain ⟨p, ps, hcut⟩ := Text.cutAt_cons hc w
        rw [componentsOf_cons hc, hcut]
        split
        · exact List.cons_ne_nil _ _
        · rename_i hdot
          have hname : innerComponent (c :: p) ≠ none := by
            rw [innerComponent]
            split
            · rename_i h
              rcases h with h | h
              · exact absurd h (List.cons_ne_nil _ _)
              · exact absurd (congrArg (· :: ps) h) (hdot ps)
            · split <;> exact Option.some_ne_none _
          obtain ⟨k, hk⟩ := Option.ne_none_iff_exists'.mp hname
          rw [List.filterMap_cons_some hk]
          exact List.cons_ne_nil _ _

/-- What stands behind a slash adds its own components. -/
theorem componentsOf_append {s : Octets} (hs : s ≠ []) (t : Octets) :
    componentsOf (s ++ '/' :: t) =
      componentsOf s ++ (Text.cutAt '/' t).filterMap innerComponent := by
  cases s with
  | nil => exact absurd rfl hs
  | cons c s =>
      by_cases hc : c = '/'
      · subst hc
        rw [List.cons_append, componentsOf, componentsOf, Text.cutAt_append, List.filterMap_append,
          List.cons_append]
      · obtain ⟨p, ps, hcut⟩ := Text.cutAt_cons hc s
        rw [List.cons_append, componentsOf_cons hc, componentsOf_cons hc, ← List.cons_append,
          Text.cutAt_append, hcut, List.cons_append]
        split
        · rename_i rest h
          obtain ⟨hp, rfl⟩ := List.cons.inj h
          rw [hp]
          simp
        · rename_i h
          split
          · rename_i rest h'
            obtain ⟨hp, rfl⟩ := List.cons.inj h'
            exact absurd (by rw [hp]) (h (ps ++ Text.cutAt '/' t))
          · rw [← List.cons_append, List.filterMap_append]

theorem IsEntryName.cutAt {n : Name} (h : IsEntryName n) :
    (Text.cutAt '/' n).filterMap innerComponent = [.name n] := by
  have hname : innerComponent n = some (.name n) :=
    innerComponent_eq_name_iff.mpr ⟨h.1, h.2.1, h.2.2.1⟩
  rw [Text.cutAt_of_not_mem h.2.2.2, List.filterMap_cons_some hname, List.filterMap_nil]

theorem IsEntryName.componentsOf {n : Name} (h : IsEntryName n) :
    componentsOf n = [.name n] := by
  cases n with
  | nil => exact absurd rfl h.1
  | cons c n =>
      have hc : c ≠ '/' := fun he => h.2.2.2 (he ▸ List.mem_cons_self)
      rw [componentsOf_cons hc, Text.cutAt_of_not_mem h.2.2.2]
      split
      · rename_i rest hdot
        exact absurd (List.cons.inj hdot).1 h.2.1
      · rw [← Text.cutAt_of_not_mem h.2.2.2, h.cutAt]

theorem IsEntryName.not_isAbsolute {n : Name} (h : IsEntryName n) :
    Path.isAbsolute ⟨n⟩ = false := by
  cases n with
  | nil => rfl
  | cons c n =>
      have hc : '/' ≠ c := fun he => h.2.2.2 (he ▸ List.mem_cons_self)
      simp [isAbsolute, Text.startsWith, List.isPrefixOf, hc]

/-- A joined path is written with a slash in between, unless there is one already or nothing in
front. -/
theorem join_written {p q : Path} (hq : q.isAbsolute = false) :
    (p.written = [] ∧ (p.join q).written = q.written) ∨
    (∃ s, p.written = s ++ ['/'] ∧ (p.join q).written = s ++ '/' :: q.written) ∨
    p.written ≠ [] ∧ (p.join q).written = p.written ++ '/' :: q.written := by
  rw [join, hq, if_neg Bool.false_ne_true]
  split
  · rename_i h
    rcases h with h | h
    · refine .inl ⟨h, ?_⟩
      rw [h]
      rfl
    · obtain ⟨s, hs⟩ := List.getLast?_eq_some_iff.mp h
      refine .inr (.inl ⟨s, hs, ?_⟩)
      rw [hs, List.append_assoc, List.singleton_append]
  · rename_i h
    rw [not_or] at h
    exact .inr (.inr ⟨h.1, rfl⟩)

theorem components_join {p : Path} {n : Name} (h : IsEntryName n) :
    (p.join ⟨n⟩).components = p.components ++ [.name n] := by
  rw [components, components]
  rcases join_written (p := p) h.not_isAbsolute with ⟨hp, hj⟩ | ⟨s, hp, hj⟩ | ⟨hp, hj⟩
  · rw [hj, hp, h.componentsOf]
    rfl
  · rw [hj, hp]
    by_cases hs : s = []
    · subst hs
      rw [List.nil_append, List.nil_append, componentsOf, h.cutAt]
      rfl
    · rw [componentsOf_append hs, componentsOf_append hs, h.cutAt]
      simp [Text.cutAt, innerComponent]
  · rw [hj, componentsOf_append hp, h.cutAt]

/-- The components of a path to something below a directory are those of the directory and the
names on the way. -/
theorem components_down {p : Path} {names : List Name} (h : ∀ n ∈ names, IsEntryName n) :
    (p.down names).components = p.components ++ names.map .name := by
  induction names generalizing p with
  | nil => rw [List.map_nil, List.append_nil, down, List.foldl_nil]
  | cons n names ih =>
      obtain ⟨hn, hnames⟩ := List.forall_mem_cons.mp h
      have hdown : p.down (n :: names) = (p.join ⟨n⟩).down names := rfl
      rw [hdown, ih hnames, components_join hn, List.append_assoc, List.map_cons,
        List.singleton_append]

/-! ## The end of a path -/

/-- The last of some pieces is a name: it is not empty, and neither one dot nor two. -/
def LastIsName (pieces : List Octets) : Prop :=
  ∃ n, pieces.getLast? = some n ∧ innerComponent n = some (.name n)

theorem lastIsName_singleton_iff {n : Octets} :
    LastIsName [n] ↔ n ≠ [] ∧ n ≠ ['.'] ∧ n ≠ ['.', '.'] := by
  simp [LastIsName, ← innerComponent_eq_name_iff]

theorem lastIsName_append_iff {s t : List Octets} (ht : t ≠ []) :
    LastIsName (s ++ t) ↔ LastIsName t := by
  rw [LastIsName, LastIsName, List.getLast?_append_of_ne_nil s ht]

theorem LastIsName.ne_nil {pieces : List Octets} (h : LastIsName pieces) : pieces ≠ [] := by
  rintro rfl
  obtain ⟨n, hn, -⟩ := h
  cases hn

theorem LastIsName.cons {pieces : List Octets} (h : LastIsName pieces) (n : Octets) :
    LastIsName (n :: pieces) :=
  (lastIsName_append_iff (s := [n]) h.ne_nil).mpr h

/-- A path ends in a name, and not in a slash or in dots. -/
def EndsInName (p : Path) : Prop := LastIsName (Text.cutAt '/' p.written)

theorem endsInName_join {p q : Path} : (p.join q).EndsInName ↔ q.EndsInName := by
  have hbehind (s : Octets) : LastIsName (Text.cutAt '/' (s ++ '/' :: q.written)) ↔
      LastIsName (Text.cutAt '/' q.written) := by
    rw [Text.cutAt_append, lastIsName_append_iff (Text.cutAt_ne_nil '/' _)]
  rw [EndsInName, EndsInName]
  cases hq : q.isAbsolute with
  | true => rw [join, if_pos hq]
  | false =>
      rcases join_written (p := p) hq with ⟨-, hj⟩ | ⟨s, -, hj⟩ | ⟨-, hj⟩
      · rw [hj]
      · rw [hj, hbehind]
      · rw [hj, hbehind]

theorem EndsInName.written_ne_nil {p : Path} (h : p.EndsInName) : p.written ≠ [] := by
  intro hp
  rw [EndsInName, hp] at h
  exact (lastIsName_singleton_iff.mp h).1 rfl

/-- A slash that does not stand at the end separates two components. -/
theorem EndsInName.one_lt_length_components {p : Path} (h : p.EndsInName)
    (hp : p.isAbsolute = false) (hslash : '/' ∈ p.written) : 1 < p.components.length := by
  obtain ⟨s, t, hst⟩ := List.append_of_mem hslash
  have hs : s ≠ [] := by
    rintro rfl
    rw [isAbsolute, hst] at hp
    exact absurd hp (by simp [Text.startsWith])
  rw [EndsInName, hst, Text.cutAt_append, lastIsName_append_iff (Text.cutAt_ne_nil '/' _)] at h
  obtain ⟨n, hn, hname⟩ := h
  have hmem : Component.name n ∈ (Text.cutAt '/' t).filterMap innerComponent :=
    List.mem_filterMap.mpr ⟨n, List.mem_of_getLast? hn, hname⟩
  rw [components, hst, componentsOf_append hs, List.length_append]
  have hfront := List.length_pos_of_ne_nil (componentsOf_ne_nil hs)
  have hback := List.length_pos_of_mem hmem
  omega

theorem mem_slash_of_isAbsolute {p : Path} (h : p.isAbsolute = true) : '/' ∈ p.written := by
  obtain ⟨t, ht⟩ := List.isPrefixOf_iff_prefix.mp h
  rw [← ht]
  exact List.mem_cons_self

/-- Two components have a slash between them. -/
theorem mem_slash_of_components {p : Path} (h : 1 < p.components.length) : '/' ∈ p.written := by
  refine Classical.byContradiction fun hslash => ?_
  rw [components] at h
  cases hw : p.written with
  | nil => simp [hw, componentsOf] at h
  | cons c w =>
      rw [hw] at h hslash
      have hc : c ≠ '/' := fun he => hslash (he ▸ List.mem_cons_self)
      rw [componentsOf_cons hc, Text.cutAt_of_not_mem hslash] at h
      split at h
      · rename_i rest hcut
        rw [← (List.cons.inj hcut).2] at h
        exact absurd h (by simp)
      · have hle := List.length_filterMap_le innerComponent [c :: w]
        rw [List.length_singleton] at hle
        omega

/-! ## The end of a name -/

theorem cutAtLastDot_eq_none {n : Name} (h : cutAtLastDot n = none) : '.' ∉ n := by
  induction n with
  | nil => exact List.not_mem_nil
  | cons c n ih =>
      rw [cutAtLastDot] at h
      split at h
      · cases h
      · rename_i hn
        split at h
        · cases h
        · rename_i hc
          rw [List.mem_cons, not_or]
          exact ⟨fun he => hc he.symm, ih hn⟩

theorem cutAtLastDot_eq_some_iff {n stem ext : Name} :
    cutAtLastDot n = some (stem, ext) ↔ n = stem ++ '.' :: ext ∧ '.' ∉ ext := by
  induction n generalizing stem ext with
  | nil => simp [cutAtLastDot]
  | cons c n ih =>
      rw [cutAtLastDot]
      split
      · rename_i s e hn
        obtain ⟨hs, he⟩ := ih.mp hn
        constructor
        · rintro ⟨⟩
          exact ⟨congrArg (c :: ·) hs, he⟩
        · rintro ⟨hcut, hext⟩
          cases stem with
          | nil =>
              obtain ⟨-, rfl⟩ := List.cons.inj hcut
              exact absurd (hs ▸ List.mem_append_right s List.mem_cons_self) hext
          | cons d stem =>
              obtain ⟨rfl, hrest⟩ := List.cons.inj hcut
              rw [ih.mpr ⟨hrest, hext⟩] at hn
              cases hn
              rfl
      · rename_i hn
        have hnone := cutAtLastDot_eq_none hn
        constructor
        · intro h
          split at h
          · rename_i hc
            cases h
            exact ⟨congrArg (· :: n) hc, hnone⟩
          · cases h
        · rintro ⟨hcut, hext⟩
          cases stem with
          | nil =>
              obtain ⟨rfl, rfl⟩ := List.cons.inj hcut
              rw [if_pos rfl]
          | cons d stem =>
              obtain ⟨-, rfl⟩ := List.cons.inj hcut
              exact absurd (List.mem_append_right stem List.mem_cons_self) hnone

/-- An extension is what follows the last dot of a name, if something stands in front of that. -/
theorem extension?_eq_some_iff {n ext : Name} :
    extension? n = some ext ↔ ∃ stem, stem ≠ [] ∧ n = stem ++ '.' :: ext ∧ '.' ∉ ext := by
  rw [extension?]
  split
  · rename_i c s e hn
    obtain ⟨hs, he⟩ := cutAtLastDot_eq_some_iff.mp hn
    constructor
    · rintro ⟨⟩
      exact ⟨c :: s, List.cons_ne_nil c s, hs, he⟩
    · rintro ⟨stem, -, hcut⟩
      rw [cutAtLastDot_eq_some_iff.mpr hcut] at hn
      cases hn
      rfl
  · rename_i hn
    refine iff_of_false (Option.some_ne_none ext).symm ?_
    rintro ⟨stem, hstem, hcut⟩
    obtain ⟨c, s, rfl⟩ := List.exists_cons_of_ne_nil hstem
    exact hn c s ext (cutAtLastDot_eq_some_iff.mpr hcut)

end Path

end SkipAudit
