/-
# Results, wherever they come from

A tally is given any results at all: strays, repeats, some too many and some too few.  What it
makes of them depends on one thing only, the *first* result with the key of each selected unit
(`answer?`).  So the state after any number of results can be written down without the tally
(`Follows`), and one step from such a state leads to such a state.

    Follows.record_eq_error_iff    which results are rejected, and with which error
    Follows.finish                 the corpus and the counts at the end
    answer?_perm                   the order of the results does not matter

A result is accepted when a key like its own is pending.  Keys are told apart by components and
the pending ones are all different, so exactly one unit is changed and one count goes up by
one.
-/
import SkipAudit.Proofs.Corpus

namespace SkipAudit

/-! ## Sets of different keys -/

namespace KeySet

theorem has_iff {s : KeySet} {k : UnitKey} : has s k = true ↔ ∃ k' ∈ s, k'.same k = true :=
  List.any_eq_true

theorem has_eq_false_iff {s : KeySet} {k : UnitKey} :
    has s k = false ↔ ∀ k' ∈ s, k'.same k = false := by
  rw [has, List.any_eq_false]
  exact forall₂_congr fun _ _ => by rw [Bool.not_eq_true]

/-- Different keys make the set that they are. -/
theorem ofKeys_eq {ks : List UnitKey} (h : ks.Pairwise fun a b => a.same b = false) :
    ofKeys ks = ks := by
  suffices hfold : ∀ s : KeySet, (s ++ ks).Pairwise (fun a b => a.same b = false) →
      ks.foldl insert s = s ++ ks from hfold [] h
  clear h
  induction ks with
  | nil => exact fun s _ => (List.append_nil s).symm
  | cons k ks ih =>
      intro s hs
      have hnew : has s k = false := has_eq_false_iff.mpr fun k' hk' =>
        (List.pairwise_append.mp hs).2.2 k' hk' k List.mem_cons_self
      rw [List.append_cons] at hs
      rw [List.foldl_cons, insert, hnew, if_neg Bool.false_ne_true, ih _ hs, ← List.append_cons]

end KeySet

/-! ## The first result for a test -/

/-- What the first result with a key says, if there is one. -/
def answer? (rs : List JobResult) (k : UnitKey) : Option (Option Failure) :=
  (rs.find? (·.key.same k)).map (·.outcome.failure?)

/-- What is put down for a selected test in the end: no answer is a harness error. -/
def verdict (rs : List JobResult) (k : UnitKey) : Option Failure :=
  (answer? rs k).getD (some .harnessError)

theorem answer?_concat (rs : List JobResult) (r : JobResult) (k : UnitKey) :
    answer? (rs ++ [r]) k =
      (answer? rs k).or (if r.key.same k then some r.outcome.failure? else none) := by
  rw [answer?, answer?, List.find?_append, Option.map_or, List.find?_singleton]
  congr 1
  split <;> rfl

theorem answer?_congr {a b : UnitKey} (h : a.same b = true) (rs : List JobResult) :
    answer? rs a = answer? rs b := by
  have hkey : (fun r : JobResult => r.key.same a) = fun r => r.key.same b := by
    funext r
    rw [UnitKey.same_comm, UnitKey.same_congr h, UnitKey.same_comm]
  rw [answer?, answer?, hkey]

theorem isSome_answer?_iff {rs : List JobResult} {k : UnitKey} :
    (answer? rs k).isSome = true ↔ ∃ r ∈ rs, r.key.same k = true := by
  rw [answer?, Option.isSome_map, List.find?_isSome]

/-- Results that agree where they speak of one test may come in any order. -/
theorem answer?_perm {rs rs' : List JobResult} (hperm : rs.Perm rs')
    (hagree : ∀ r ∈ rs, ∀ r' ∈ rs, r.key.same r'.key = true →
      r.outcome.failure? = r'.outcome.failure?) (k : UnitKey) :
    answer? rs k = answer? rs' k := by
  rw [answer?, answer?]
  cases hrs : rs.find? (·.key.same k) with
  | none =>
      have hnone : rs'.find? (·.key.same k) = none := List.find?_eq_none.mpr fun r hr =>
        List.find?_eq_none.mp hrs r (hperm.mem_iff.mpr hr)
      rw [hnone]
  | some r =>
      have hr := List.mem_of_find?_eq_some hrs
      have hrk := List.find?_some hrs
      cases hrs' : rs'.find? (·.key.same k) with
      | none => exact absurd hrk (List.find?_eq_none.mp hrs' r (hperm.mem_iff.mp hr))
      | some r' =>
          have hr' := hperm.mem_iff.mpr (List.mem_of_find?_eq_some hrs')
          have hrk' := List.find?_some hrs'
          exact congrArg some (hagree r hr r' hr' (UnitKey.same_of_both hrk hrk'))

/-- A result counts once: with the only one of some different keys that is its own. -/
theorem countP_answer?_concat {rs : List JobResult} {r : JobResult} {ks : List UnitKey}
    (hks : ks.Pairwise fun a b => a.same b = false) {k : UnitKey} (hk : k ∈ ks)
    (hsame : k.same r.key = true) (hnone : answer? rs k = none) (P : Option Failure → Bool) :
    ks.countP (fun k => (answer? (rs ++ [r]) k).any P) =
      ks.countP (fun k => (answer? rs k).any P) + if P r.outcome.failure? then 1 else 0 := by
  obtain ⟨before, rest, rfl⟩ := List.append_of_mem hk
  obtain ⟨-, hrest, hbefore⟩ := List.pairwise_append.mp hks
  have hother : ∀ k', k'.same k = false → answer? (rs ++ [r]) k' = answer? rs k' := by
    intro k' hk'
    have hr : r.key.same k' = false := by
      rw [← UnitKey.same_congr hsame, UnitKey.same_comm]
      exact hk'
    rw [answer?_concat, hr, if_neg Bool.false_ne_true, Option.or_none]
  have hb : before.countP (fun k => (answer? (rs ++ [r]) k).any P) =
      before.countP fun k => (answer? rs k).any P := List.countP_congr fun k' hk' => by
    rw [hother k' (hbefore k' hk' k List.mem_cons_self)]
  have hr : rest.countP (fun k => (answer? (rs ++ [r]) k).any P) =
      rest.countP fun k => (answer? rs k).any P := List.countP_congr fun k' hk' => by
    rw [hother k' ((UnitKey.same_comm _ _).trans (List.rel_of_pairwise_cons hrest hk'))]
  have hthis : answer? (rs ++ [r]) k = some r.outcome.failure? := by
    rw [answer?_concat, hnone, Option.none_or, UnitKey.same_comm, hsame, if_pos rfl]
  rw [List.countP_append, List.countP_append, List.countP_cons, List.countP_cons, hb, hr, hthis,
    hnone, Option.any_some, Option.any_none, if_neg Bool.false_ne_true, Nat.add_zero,
    Nat.add_assoc]

/-! ## The state after some results -/

/-- A unit that has been heard of, or waits, or was not selected. -/
def heard (rs : List JobResult) (f : SourceFile) (u : TestUnit) : TestUnit :=
  match u.selected, answer? rs (f.keyOf u) with
  | true, some failure? => { u with failure := failure? }
  | _, _ => u

theorem declIndex_heard (rs : List JobResult) (f : SourceFile) (u : TestUnit) :
    (heard rs f u).declIndex = u.declIndex := by
  rw [heard]
  split <;> rfl

theorem heard_of_not_selected {rs : List JobResult} {f : SourceFile} {u : TestUnit}
    (h : u.selected = false) : heard rs f u = u := by
  rw [heard, h]

theorem heard_of_none {rs : List JobResult} {f : SourceFile} {u : TestUnit}
    (h : answer? rs (f.keyOf u) = none) : heard rs f u = u := by
  rw [heard, h]
  split
  · rename_i heq
    exact absurd heq (by simp)
  · rfl

theorem heard_of_some {rs : List JobResult} {f : SourceFile} {u : TestUnit}
    {failure? : Option Failure} (hu : u.selected = true)
    (h : answer? rs (f.keyOf u) = some failure?) :
    heard rs f u = { u with failure := failure? } := by
  rw [heard, hu, h]

namespace Tally

/-- The tally after some results. -/
def after (c : Corpus) (rs : List JobResult) : Tally := rs.foldl recordOrDiscard (start c)

theorem after_concat (c : Corpus) (rs : List JobResult) (r : JobResult) :
    after c (rs ++ [r]) = (after c rs).recordOrDiscard r := by
  rw [after, List.foldl_append]
  rfl

/-- The tally in which the unit of a result has its failure. -/
def accept (t : Tally) (r : JobResult) : Tally :=
  { t with
    corpus := setFailure t.corpus r.key r.outcome.failure?
    pending := t.pending.erase r.key
    passed := if r.outcome.failure?.isNone then t.passed + 1 else t.passed
    failed := if r.outcome.failure?.isNone then t.failed else t.failed + 1 }

/-- What a tally is, in terms of the corpus that it started with and the results. -/
structure Follows (c : Corpus) (rs : List JobResult) (t : Tally) : Prop where
  corpus : t.corpus = c.mapUnits (heard rs)
  pending : t.pending = (selectedKeys c).filter fun k => (answer? rs k).isNone
  expected : t.expected = c.selectedCount
  passed : t.passed = (selectedKeys c).countP fun k => (answer? rs k).any Option.isNone
  failed : t.failed = (selectedKeys c).countP fun k => (answer? rs k).any Option.isSome

theorem follows_start {c : Corpus} (hc : c.WellFormed) : Follows c [] (start c) := by
  have hpending : KeySet.ofKeys (selectedKeys c) = selectedKeys c :=
    KeySet.ofKeys_eq hc.pairwise_selectedKeys
  refine ⟨?_, ?_, ?_, ?_, ?_⟩
  · exact (Corpus.mapUnits_eq_self fun f _ u _ => heard_of_none rfl).symm
  · rw [start, hpending]
    exact (List.filter_eq_self.mpr fun _ _ => rfl).symm
  · rw [start, hpending, Corpus.length_selectedKeys]
  · exact (List.countP_eq_zero.mpr fun _ _ => Bool.false_ne_true).symm
  · exact (List.countP_eq_zero.mpr fun _ _ => Bool.false_ne_true).symm

namespace Follows

variable {c : Corpus} {rs : List JobResult} {t : Tally}

/-- Only the answers for the selected tests count. -/
theorem congr (h : Follows c rs t) {rs' : List JobResult}
    (heq : ∀ k ∈ selectedKeys c, answer? rs' k = answer? rs k) : Follows c rs' t := by
  refine ⟨?_, ?_, h.expected, ?_, ?_⟩
  · rw [h.corpus]
    refine Corpus.mapUnits_congr fun f hf u hu => ?_
    cases hs : u.selected with
    | false => rw [heard_of_not_selected hs, heard_of_not_selected hs]
    | true =>
        rw [heard, heard, heq _ (Corpus.mem_selectedKeys.mpr ⟨f, hf, u, hu, hs, rfl⟩)]
  · rw [h.pending]
    exact List.filter_congr fun k hk => by rw [heq k hk]
  · rw [h.passed]
    exact List.countP_congr fun k hk => by rw [heq k hk]
  · rw [h.failed]
    exact List.countP_congr fun k hk => by rw [heq k hk]

theorem has_pending_iff (h : Follows c rs t) {k : UnitKey} :
    t.pending.has k = true ↔ ∃ f ∈ c.files, ∃ u ∈ f.units, u.selected = true ∧
      (f.keyOf u).same k = true ∧ answer? rs (f.keyOf u) = none := by
  rw [KeySet.has_iff, h.pending]
  constructor
  · rintro ⟨k', hk', hsame⟩
    obtain ⟨hmem, hnone⟩ := List.mem_filter.mp hk'
    obtain ⟨f, hf, u, hu, hs, rfl⟩ := Corpus.mem_selectedKeys.mp hmem
    exact ⟨f, hf, u, hu, hs, hsame, Option.isNone_iff_eq_none.mp hnone⟩
  · rintro ⟨f, hf, u, hu, hs, hsame, hnone⟩
    refine ⟨_, List.mem_filter.mpr ⟨?_, Option.isNone_iff_eq_none.mpr hnone⟩, hsame⟩
    exact Corpus.mem_selectedKeys.mpr ⟨f, hf, u, hu, hs, rfl⟩

/-- A test that there is, is waited for when it was selected and has no answer. -/
theorem has_pending_iff_of_unit (h : Follows c rs t) (hc : c.WellFormed) {f : SourceFile}
    {u : TestUnit} (hf : f ∈ c.files) (hu : u ∈ f.units) {k : UnitKey}
    (hk : (f.keyOf u).same k = true) :
    t.pending.has k = true ↔ u.selected = true ∧ answer? rs k = none := by
  rw [h.has_pending_iff]
  constructor
  · rintro ⟨g, hg, v, hv, hs, hsame, hnone⟩
    obtain ⟨rfl, rfl⟩ := hc.eq_of_same_key hf hg hu hv (UnitKey.same_of_both hk hsame)
    exact ⟨hs, answer?_congr hk rs ▸ hnone⟩
  · rintro ⟨hs, hnone⟩
    exact ⟨f, hf, u, hu, hs, hk, (answer?_congr hk rs).trans hnone⟩

/-- A result that nobody waits for is no one's first result. -/
theorem discard (h : Follows c rs t) {r : JobResult} (hr : t.pending.has r.key = false) :
    Follows c (rs ++ [r]) t := by
  refine h.congr fun k hk => ?_
  obtain ⟨f, hf, u, hu, hs, rfl⟩ := Corpus.mem_selectedKeys.mp hk
  cases hanswer : answer? rs (f.keyOf u) with
  | some failure? => rw [answer?_concat, hanswer, Option.some_or]
  | none =>
      have hother : r.key.same (f.keyOf u) = false := by
        rw [UnitKey.same_comm, ← Bool.not_eq_true]
        intro hsame
        have hpending := h.has_pending_iff.mpr ⟨f, hf, u, hu, hs, hsame, hanswer⟩
        exact Bool.false_ne_true (hr.symm.trans hpending)
      rw [answer?_concat, hanswer, hother, if_neg Bool.false_ne_true, Option.or_none]

/-- One unit is set, the one that is heard of for the first time. -/
theorem corpus_accept (h : Follows c rs t) (hc : c.WellFormed) {r : JobResult} {g : SourceFile}
    {v : TestUnit} (hg : g ∈ c.files) (hv : v ∈ g.units) (hvs : v.selected = true)
    (hsame : (g.keyOf v).same r.key = true) (hnone : answer? rs (g.keyOf v) = none) :
    setFailure t.corpus r.key r.outcome.failure? = c.mapUnits (heard (rs ++ [r])) := by
  have hwf : (c.mapUnits (heard rs)).WellFormed := hc.mapUnits (declIndex_heard rs)
  rw [h.corpus, hwf.setFailure_eq,
    Corpus.mapUnits_mapUnits (declIndex_heard rs) fun k u =>
      if k.same r.key then { u with failure := r.outcome.failure? } else u]
  refine Corpus.mapUnits_congr fun f hf u hu => ?_
  split
  · rename_i hu'
    obtain ⟨rfl, rfl⟩ := hc.eq_of_same_key hf hg hu hv (UnitKey.same_of_both hu' hsame)
    have hthis : answer? (rs ++ [r]) (f.keyOf u) = some r.outcome.failure? := by
      rw [answer?_concat, hnone, Option.none_or, UnitKey.same_comm, hu', if_pos rfl]
    rw [heard_of_none hnone, heard_of_some hvs hthis]
  · rename_i hu'
    rw [heard, heard, answer?_concat, UnitKey.same_comm, if_neg hu', Option.or_none]

/-- The first result for a test that is waited for. -/
theorem accept (h : Follows c rs t) (hc : c.WellFormed) {r : JobResult}
    (hr : t.pending.has r.key = true) : Follows c (rs ++ [r]) (t.accept r) := by
  obtain ⟨g, hg, v, hv, hvs, hsame, hnone⟩ := h.has_pending_iff.mp hr
  have hk : g.keyOf v ∈ selectedKeys c := Corpus.mem_selectedKeys.mpr ⟨g, hg, v, hv, hvs, rfl⟩
  have hcount := countP_answer?_concat hc.pairwise_selectedKeys hk hsame hnone
  refine ⟨?_, ?_, h.expected, ?_, ?_⟩
  · rw [Tally.accept, h.corpus_accept hc hg hv hvs hsame hnone]
  · rw [Tally.accept, h.pending, KeySet.erase, List.filter_filter]
    refine List.filter_congr fun k _ => ?_
    rw [answer?_concat, UnitKey.same_comm]
    cases r.key.same k <;> cases answer? rs k <;> rfl
  · rw [Tally.accept, hcount, h.passed]
    split <;> rfl
  · rw [Tally.accept, hcount, h.failed]
    cases r.outcome.failure? <;> rfl

end Follows

/-! ## What is rejected -/

/-- The results that are rejected after some others, and why. -/
inductive Rejected (c : Corpus) (rs : List JobResult) (r : JobResult) : RecordError → Prop
  | unknownFile : (∀ f ∈ c.files, f.path.same r.key.path = false) →
      Rejected c rs r (.unknownFile r.key.path)
  | unknownUnit {f : SourceFile} : f ∈ c.files → f.path.same r.key.path = true →
      (∀ u ∈ f.units, u.declIndex ≠ r.key.declIndex) → Rejected c rs r (.unknownUnit r.key)
  | notSelected {f : SourceFile} {u : TestUnit} : f ∈ c.files → u ∈ f.units →
      (f.keyOf u).same r.key = true → u.selected = false → Rejected c rs r (.unexpected r.key)
  | again {f : SourceFile} {u : TestUnit} {r' : JobResult} : f ∈ c.files → u ∈ f.units →
      (f.keyOf u).same r.key = true → r' ∈ rs → r'.key.same r.key = true →
      Rejected c rs r (.unexpected r.key)

namespace Follows

variable {c : Corpus} {rs : List JobResult} {t : Tally}

/-- Recording by way of the corpus at the start. -/
theorem record_eq (h : Follows c rs t) (r : JobResult) :
    t.record r =
      match c.file? r.key.path with
      | none => .error (.unknownFile r.key.path)
      | some f =>
          if !f.hasUnit r.key.declIndex then .error (.unknownUnit r.key)
          else if !t.pending.has r.key then .error (.unexpected r.key)
          else .ok (t.accept r) := by
  rw [record, h.corpus, Corpus.file?_mapUnits]
  cases c.file? r.key.path with
  | none => rfl
  | some f =>
      rw [Option.map_some]
      dsimp only
      rw [SourceFile.hasUnit_mapUnits (declIndex_heard rs f), ← h.corpus]
      rfl

variable {r : JobResult} (h : Follows c rs t) (hc : c.WellFormed)

include h hc

theorem record_of_no_file (hr : ∀ f ∈ c.files, f.path.same r.key.path = false) :
    t.record r = .error (.unknownFile r.key.path) := by
  have hnone : c.file? r.key.path = none := by
    rw [hc.file?_eq, List.find?_eq_none]
    exact fun f hf => by rw [hr f hf]; exact Bool.false_ne_true
  rw [h.record_eq, hnone]

theorem record_of_no_unit {f : SourceFile} (hf : f ∈ c.files)
    (hp : f.path.same r.key.path = true) (hr : ∀ u ∈ f.units, u.declIndex ≠ r.key.declIndex) :
    t.record r = .error (.unknownUnit r.key) := by
  have hno : f.hasUnit r.key.declIndex = false := by
    rw [SourceFile.hasUnit, List.any_eq_false]
    exact fun u hu => by rw [beq_iff_eq]; exact hr u hu
  rw [h.record_eq, hc.file?_of_mem hf hp]
  dsimp only
  rw [hno]
  rfl

/-- A result for a test that there is. -/
theorem record_of_unit {f : SourceFile} {u : TestUnit} (hf : f ∈ c.files) (hu : u ∈ f.units)
    (hk : (f.keyOf u).same r.key = true) :
    t.record r =
      if u.selected = true ∧ answer? rs r.key = none then .ok (t.accept r)
      else .error (.unexpected r.key) := by
  obtain ⟨hp, hi⟩ := (Bool.and_eq_true _ _).mp hk
  have hunit : f.hasUnit r.key.declIndex = true := List.any_eq_true.mpr ⟨u, hu, hi⟩
  rw [h.record_eq, hc.file?_of_mem hf hp]
  dsimp only
  rw [hunit, ← if_congr (h.has_pending_iff_of_unit hc hf hu hk) rfl rfl]
  cases t.pending.has r.key <;> rfl

theorem record_eq_error_iff {e : RecordError} :
    t.record r = .error e ↔ Rejected c rs r e := by
  constructor
  · intro he
    by_cases hfile : ∃ f ∈ c.files, f.path.same r.key.path = true
    · obtain ⟨f, hf, hp⟩ := hfile
      by_cases hunit : ∃ u ∈ f.units, u.declIndex = r.key.declIndex
      · obtain ⟨u, hu, hi⟩ := hunit
        have hk : (f.keyOf u).same r.key = true :=
          (Bool.and_eq_true _ _).mpr ⟨hp, beq_iff_eq.mpr hi⟩
        rw [h.record_of_unit hc hf hu hk] at he
        split at he
        · exact absurd he (by simp)
        · rename_i hno
          obtain rfl := Except.error.inj he
          cases hs : u.selected with
          | false => exact .notSelected hf hu hk hs
          | true =>
              have hsome : (answer? rs r.key).isSome = true :=
                Option.isSome_iff_ne_none.mpr fun hnone => hno ⟨hs, hnone⟩
              obtain ⟨r', hr', hsame⟩ := isSome_answer?_iff.mp hsome
              exact .again hf hu hk hr' hsame
      · have hno : ∀ u ∈ f.units, u.declIndex ≠ r.key.declIndex := fun u hu hi =>
          hunit ⟨u, hu, hi⟩
        rw [h.record_of_no_unit hc hf hp hno] at he
        obtain rfl := Except.error.inj he
        exact .unknownUnit hf hp hno
    · have hno : ∀ f ∈ c.files, f.path.same r.key.path = false := fun f hf =>
        Bool.eq_false_iff.mpr fun hp => hfile ⟨f, hf, hp⟩
      rw [h.record_of_no_file hc hno] at he
      obtain rfl := Except.error.inj he
      exact .unknownFile hno
  · intro hr
    cases hr with
    | unknownFile hno => exact h.record_of_no_file hc hno
    | unknownUnit hf hp hno => exact h.record_of_no_unit hc hf hp hno
    | notSelected hf hu hk hs =>
        rw [h.record_of_unit hc hf hu hk, if_neg]
        exact fun hsel => by simp [hs] at hsel
    | again hf hu hk hr' hsame =>
        have hsome := isSome_answer?_iff.mpr ⟨_, hr', hsame⟩
        rw [h.record_of_unit hc hf hu hk, if_neg]
        exact fun hnone => by simp [hnone.2] at hsome

end Follows

/-- A rejected result changes nothing. -/
theorem after_concat_of_error {c : Corpus} {rs : List JobResult} {r : JobResult} {e : RecordError}
    (h : (after c rs).record r = .error e) : after c (rs ++ [r]) = after c rs := by
  rw [after_concat, recordOrDiscard, h]

/-! ## Any number of results -/

/-- A result is accepted by a tally that waits for it, and by no other. -/
theorem Follows.step {c : Corpus} {rs : List JobResult} {t : Tally} (h : Follows c rs t)
    (hc : c.WellFormed) (r : JobResult) : Follows c (rs ++ [r]) (t.recordOrDiscard r) := by
  cases hr : t.pending.has r.key with
  | true =>
      obtain ⟨f, hf, u, hu, hs, hsame, hnone⟩ := h.has_pending_iff.mp hr
      have haccept : t.record r = .ok (t.accept r) := by
        rw [h.record_of_unit hc hf hu hsame, if_pos ⟨hs, answer?_congr hsame rs ▸ hnone⟩]
      rw [recordOrDiscard, haccept]
      exact h.accept hc hr
  | false =>
      have hreject : t.recordOrDiscard r = t := by
        rw [recordOrDiscard, h.record_eq, hr]
        cases c.file? r.key.path with
        | none => rfl
        | some f =>
            dsimp only
            cases f.hasUnit r.key.declIndex <;> rfl
      rw [hreject]
      exact h.discard hr

theorem follows_after {c : Corpus} (hc : c.WellFormed) (rs : List JobResult) :
    Follows c rs (after c rs) := by
  induction rs using List.reverseRecOn with
  | nil => exact follows_start hc
  | append_singleton rs r ih =>
      rw [after_concat]
      exact ih.step hc r

/-! ## The end -/

/-- A unit as it stands in the end. -/
def judged (rs : List JobResult) (f : SourceFile) (u : TestUnit) : TestUnit :=
  if u.selected then { u with failure := verdict rs (f.keyOf u) } else u

theorem foldl_setFailure {c : Corpus} (hc : c.WellFormed) (ks : KeySet) (f? : Option Failure) :
    ks.foldl (fun c k => setFailure c k f?) c =
      c.mapUnits fun f u => if ks.has (f.keyOf u) then { u with failure := f? } else u := by
  induction ks generalizing c with
  | nil => exact (Corpus.mapUnits_eq_self fun _ _ _ _ => rfl).symm
  | cons k ks ih =>
      have hset : ∀ (f : SourceFile) (u : TestUnit),
          (if (f.keyOf u).same k then { u with failure := f? } else u).declIndex = u.declIndex := by
        intro f u
        split <;> rfl
      rw [List.foldl_cons, hc.setFailure_eq, ih (hc.mapUnits hset),
        Corpus.mapUnits_mapUnits hset fun k' u =>
          if KeySet.has ks k' then { u with failure := f? } else u]
      refine Corpus.mapUnits_congr fun f _ u _ => ?_
      rw [KeySet.has, KeySet.has, List.any_cons, UnitKey.same_comm k]
      cases (f.keyOf u).same k <;> cases ks.any (·.same (f.keyOf u)) <;> rfl

/-- What was answered badly and what was not answered. -/
theorem countP_isSome_verdict (rs : List JobResult) (ks : List UnitKey) :
    ks.countP (fun k => (answer? rs k).any Option.isSome) +
        (ks.filter fun k => (answer? rs k).isNone).length =
      ks.countP fun k => (verdict rs k).isSome := by
  induction ks with
  | nil => rfl
  | cons k ks ih =>
      rw [List.countP_cons, List.filter_cons, List.countP_cons, ← ih, verdict]
      rcases answer? rs k with _ | _ | _ <;> simp <;> omega

theorem isNone_verdict (rs : List JobResult) (k : UnitKey) :
    (verdict rs k).isNone = (answer? rs k).any Option.isNone := by
  rw [verdict]
  cases answer? rs k <;> rfl

/-- Selected units have an answer already, or are set now; the others are never set. -/
theorem Follows.corpus_finish {c : Corpus} {rs : List JobResult} {t : Tally} (h : Follows c rs t)
    (hc : c.WellFormed) :
    t.pending.foldl (fun c k => setFailure c k (some .harnessError)) t.corpus =
      c.mapUnits (judged rs) := by
  rw [h.corpus, foldl_setFailure (hc.mapUnits (declIndex_heard rs)),
    Corpus.mapUnits_mapUnits (declIndex_heard rs) fun k u =>
      if t.pending.has k then { u with failure := some .harnessError } else u]
  refine Corpus.mapUnits_congr fun f hf u hu => ?_
  have hpending := h.has_pending_iff_of_unit hc hf hu (UnitKey.same_refl _)
  rw [judged, verdict]
  cases hs : u.selected with
  | false =>
      rw [if_neg fun hp => Bool.false_ne_true (hs.symm.trans (hpending.mp hp).1),
        heard_of_not_selected hs, if_neg Bool.false_ne_true]
  | true =>
      cases hanswer : answer? rs (f.keyOf u) with
      | none =>
          rw [if_pos (hpending.mpr ⟨hs, hanswer⟩), heard_of_none hanswer, if_pos rfl,
            Option.getD_none, hs]
      | some failure? =>
          rw [if_neg fun hp => absurd (hpending.mp hp).2 (by simp [hanswer]),
            heard_of_some hs hanswer, if_pos rfl, Option.getD_some, hs]

/-- The corpus and the counts at the end. -/
theorem Follows.finish {c : Corpus} {rs : List JobResult} {t : Tally} (h : Follows c rs t)
    (hc : c.WellFormed) :
    t.finish = (c.mapUnits (judged rs),
      ⟨c.selectedCount, (selectedKeys c).countP fun k => (verdict rs k).isNone,
        (selectedKeys c).countP fun k => (verdict rs k).isSome⟩) := by
  have hpassed : t.passed = (selectedKeys c).countP fun k => (verdict rs k).isNone := by
    rw [h.passed]
    exact List.countP_congr fun k _ => by rw [isNone_verdict]
  have hfailed : t.failed + t.pending.length =
      (selectedKeys c).countP fun k => (verdict rs k).isSome := by
    rw [h.failed, h.pending, countP_isSome_verdict]
  have htotal : t.passed + (t.failed + t.pending.length) = c.selectedCount := by
    rw [hpassed, hfailed, ← Corpus.length_selectedKeys,
      List.length_eq_countP_add_countP fun k => (verdict rs k).isNone]
    congr 1
    exact List.countP_congr fun k _ => by cases verdict rs k <;> simp
  rw [Tally.finish, h.corpus_finish hc, hfailed, ← htotal, ← hfailed, ← hpassed]

/-- **The first result for a test decides.**  Whatever results a tally is given, and in whatever
order, a result is rejected for the reasons of `Rejected` and for no others, and then it changes
nothing.  In the end every selected unit has what the first result with its key says, or a
harness error, and everything else in the corpus is as it was; the counts are those of the
selected units; and results that agree where they speak of one test may change places. -/
theorem first_results_decide {c : Corpus} (hc : c.Reachable) (rs : List JobResult) :
    (∀ r e, (after c rs).record r = .error e ↔ Rejected c rs r e) ∧
      (∀ r e, (after c rs).record r = .error e → after c (rs ++ [r]) = after c rs) ∧
      (after c rs).expected = c.selectedCount ∧
      (after c rs).finish = (c.mapUnits (judged rs),
        ⟨c.selectedCount, (selectedKeys c).countP fun k => (verdict rs k).isNone,
          (selectedKeys c).countP fun k => (verdict rs k).isSome⟩) ∧
      ∀ rs', rs.Perm rs' →
        (∀ r ∈ rs, ∀ r' ∈ rs, r.key.same r'.key = true →
          r.outcome.failure? = r'.outcome.failure?) →
        (after c rs').finish = (after c rs).finish := by
  have hwf := hc.wellFormed
  have hfollows := follows_after hwf rs
  refine ⟨fun r e => hfollows.record_eq_error_iff hwf, fun r e => after_concat_of_error,
    hfollows.expected, hfollows.finish hwf, fun rs' hperm hagree => ?_⟩
  have hverdict : verdict rs' = verdict rs := by
    funext k
    rw [verdict, verdict, answer?_perm hperm hagree]
  have hjudged : judged rs' = judged rs := by
    funext f u
    rw [judged, judged, hverdict]
  rw [hfollows.finish hwf, (follows_after hwf rs').finish hwf, hjudged, hverdict]

/-- A repeat, a stray and a test that is not heard of. -/
theorem first_results_decide_sample :
    Corpus.sample.Reachable ∧
      (after Corpus.sample
        [⟨⟨⟨text "lib//a.zig"⟩, 0⟩, text "one", .timedOut⟩, ⟨⟨⟨text "b.zig"⟩, 0⟩, [], .passed⟩,
          ⟨⟨⟨text "lib/a.zig"⟩, 0⟩, text "one", .passed⟩]).finish.2 = ⟨2, 0, 2⟩ := by
  refine ⟨Corpus.reachable_sample, ?_⟩
  rw [(first_results_decide Corpus.reachable_sample _).2.2.2.1]
  decide +kernel

end Tally

end SkipAudit
