/-
# A run of the pool comes to its end

`run` takes one possible action after the other, and at most `runLength` of them.  An executor
that knows all outcomes has them ready for the tasks that execute (`Answers`).  So with such an
executor some action is possible until the coordinator has ended, each of them leaves less to do,
and a run is one of the orders of the protocol: it delivers what they all deliver.
-/
import SkipAudit.Proofs.PoolHistory

namespace SkipAudit

namespace Pool

variable {s s' : State} {a : Action}

/-! ## An executor that knows all outcomes -/

section Answering

variable {ω : Type} {outcome? : Job → Option Outcome} {w w' : Answered ω}

theorem mem_executing_iff {i : Nat} :
    i ∈ executing s ↔ ∃ j, s.tasks[i]? = some ⟨j, .executing⟩ := by
  simp only [executing, List.mem_filterMap, List.mem_mapIdx, id]
  constructor
  · rintro ⟨_, ⟨k, hk, hki⟩, rfl⟩
    split at hki
    · rename_i hp
      obtain rfl := Option.some.inj hki
      refine ⟨s.tasks[k].job, ?_⟩
      rw [List.getElem?_eq_getElem hk, ← hp]
    · exact absurd hki (by simp)
  · rintro ⟨j, ht⟩
    obtain ⟨hi, hti⟩ := List.getElem?_eq_some_iff.mp ht
    exact ⟨some i, ⟨i, hi, if_pos (by rw [hti])⟩, rfl⟩

/-- The answers are there for the tasks that execute. -/
def Answers (outcome? : Job → Option Outcome) (s : State) (w : Answered ω) : Prop :=
  ∀ (i : Nat) (j : Job), s.tasks[i]? = some ⟨j, .executing⟩ →
    w.answers.lookup i = some (outcome? j)

theorem lookup_filter_ne {α : Type} {i k : Nat} (hik : k ≠ i) (answers : List (Nat × α)) :
    (answers.filter (·.1 != i)).lookup k = answers.lookup k := by
  induction answers with
  | nil => rfl
  | cons e es ih =>
      by_cases he : e.1 = i
      · have hke : (k == e.1) = false := beq_eq_false_iff_ne.mpr (he ▸ hik)
        rw [List.filter_cons_of_neg (by simp [he]), ih, List.lookup_cons, hke]
      · rw [List.filter_cons_of_pos (by simp [he]), List.lookup_cons, List.lookup_cons, ih]

/-- A task that does not begin to execute needs no answer. -/
theorem Answers.setPhase (h : Answers outcome? s w) {i : Nat} {p : Phase} (hp : p ≠ .executing)
    (hw : ∀ k, k ≠ i → w'.answers.lookup k = w.answers.lookup k) :
    Answers outcome? (s.setPhase i p) w' := by
  intro k j ht
  rw [getElem?_setPhase] at ht
  split at ht
  · obtain ⟨t, -, htj⟩ := Option.map_eq_some_iff.mp ht
    exact absurd (congrArg Task.phase htj) hp
  · rename_i hik
    rw [hw k (Ne.symm hik)]
    exact h k j ht

/-- The answers after an action that needs none. -/
theorem Answers.acted (h : Answers outcome? s w) (hs : Acted s a s')
    (ha : ∀ i o?, a ≠ .execute i o?) :
    Answers outcome? s' (worldAfter (.answering outcome?) s w a) := by
  cases hs with
  | start hco =>
      intro k j ht
      dsimp only at ht
      rw [List.getElem?_append] at ht
      split at ht
      · exact h k j ht
      · have hwaiting := List.mem_singleton.mp (List.mem_of_getElem? ht)
        exact absurd (congrArg Task.phase hwaiting) (by simp)
  | hangUp | receive | finish => exact h
  | refuse | release | bury | send => exact h.setPhase (by simp) fun _ _ => rfl
  | execute => exact absurd rfl (ha _ _)
  | @take i j ht =>
      intro k j' hk
      rw [worldAfter, ht]
      dsimp only at hk
      rw [getElem?_setPhase] at hk
      split at hk
      · rename_i hik
        subst hik
        rw [ht] at hk
        obtain rfl : j = j' := by simpa using hk
        exact List.lookup_cons_self
      · rename_i hik
        have hki : (k == i) = false := beq_eq_false_iff_ne.mpr (Ne.symm hik)
        rw [Executor.answering]
        dsimp only
        rw [List.lookup_cons, hki]
        exact h k j' hk

/-- The first task that executes has its answer ready. -/
theorem awaitResult_answering (h : Answers outcome? s w) {i : Nat} {j : Job}
    (ht : s.tasks[i]? = some ⟨j, .executing⟩) (is : List Nat) :
    awaitResult (.answering outcome?) w i is =
      (i, outcome? j, { w with answers := w.answers.filter (·.1 != i) }) := by
  have hanswer : (Executor.answering (ω := ω) outcome?).result? i w =
      some (outcome? j, { w with answers := w.answers.filter (·.1 != i) }) := by
    rw [Executor.answering]
    dsimp only
    rw [h i j ht]
    rfl
  rw [awaitResult, firstResult?, hanswer]

/-- One advance is one action of the protocol; there is none at the end only. -/
theorem advance?_answering (h : Answers outcome? s w) (hclosed : s.closed = false)
    (hpermits : 0 < s.permits) :
    (s.coordinator = .ended ∧ advance? (.answering outcome?) s w = none) ∨
      ∃ a s' w', advance? (.answering outcome?) s w = some (s', w') ∧
        a.agrees (fun j o? => o? = outcome? j) s ∧ Acted s a s' ∧ Answers outcome? s' w' := by
  cases hfound : (candidates s).findSome? fun a =>
      (act s a).map fun s' => (s', worldAfter (.answering outcome?) s w a) with
  | some next =>
      obtain ⟨a, ha, hnext⟩ := List.exists_of_findSome?_eq_some hfound
      obtain ⟨s', hs, rfl⟩ := Option.map_eq_some_iff.mp hnext
      have hother := not_execute_of_mem_candidates ha
      refine .inr ⟨a, s', _, ?_, ?_, acted_of_act hs, h.acted (acted_of_act hs) hother⟩
      · rw [advance?, hfound]
      · cases a with
        | execute i o? => exact absurd rfl (hother i o?)
        | _ => trivial
  | none =>
      have hnone : ∀ a ∈ candidates s, act s a = none := fun a ha =>
        Option.map_eq_none_iff.mp (List.findSome?_eq_none_iff.mp hfound a ha)
      cases hexecuting : executing s with
      | nil =>
          by_cases hend : s.coordinator = .ended
          · exact .inl ⟨hend, by rw [advance?, hfound, hexecuting]⟩
          · rcases exists_acted hclosed hpermits hend with ⟨i, hi⟩ | ⟨a, ha, s', hs⟩
            · exact absurd (mem_executing_iff.mpr hi) (by simp [hexecuting])
            · exact absurd (act_of_acted hs) (by simp [hnone a ha])
      | cons i is =>
          obtain ⟨j, ht⟩ := mem_executing_iff.mp (hexecuting ▸ List.mem_cons_self)
          refine .inr ⟨.execute i (outcome? j), s.setPhase i (.executed (outcome? j)),
            { w with answers := w.answers.filter (·.1 != i) }, ?_, ?_, .execute ht,
            h.setPhase (by simp) fun k hk => lookup_filter_ne hk w.answers⟩
          · rw [advance?, hfound, hexecuting]
            dsimp only
            rw [awaitResult_answering h ht]
            dsimp only
            rw [act_of_acted (.execute ht)]
            rfl
          · intro t ht'
            obtain rfl := Option.some.inj (ht.symm.trans ht')
            rfl

/-- Advancing for as long as there is something to do comes to the end. -/
theorem advanceUpTo_answering {jobs : List Job} {size : Nat} (hsize : 0 < size) (n : Nat) :
    ∀ {s : State} {w : Answered ω},
      Reachable (fun j o? => o? = outcome? j) jobs size s → Answers outcome? s w → s.work ≤ n →
      Reachable (fun j o? => o? = outcome? j) jobs size
          (advanceUpTo (.answering outcome?) n s w).1 ∧
        (advanceUpTo (.answering outcome?) n s w).1.coordinator = .ended := by
  induction n with
  | zero =>
      intro s w hreach _ hwork
      refine ⟨hreach, ?_⟩
      rw [State.work] at hwork
      rw [advanceUpTo]
      cases hco : s.coordinator with
      | ended => rfl
      | starting | receiving =>
          simp only [hco, Coordinator.work] at hwork
          omega
  | succ n ih =>
      intro s w hreach hanswers hwork
      have hpermits : 0 < s.permits := (permits_reachable hreach).symm ▸ hsize
      rw [advanceUpTo]
      rcases advance?_answering hanswers (not_closed_of_reachable hreach) hpermits with
        ⟨hend, hnone⟩ | ⟨a, s', w', hsome, ha, hs, hanswers'⟩
      · rw [hnone]
        exact ⟨hreach, hend⟩
      · rw [hsome]
        have hless := work_acted hs
        exact ih (hreach.step (.act a ha (act_of_acted hs))) hanswers' (by omega)

/-- **A run delivers what is due.**  With at least one worker, an executor that knows all
outcomes has the result of each job delivered once, except where it dies. -/
theorem run_answering (outcome? : Job → Option Outcome) {size : Nat} (hsize : 0 < size)
    (jobs : List Job) (w : Answered ω) :
    (run (.answering outcome?) size jobs w).1.Perm (resultsOf outcome? jobs) := by
  have hanswers : Answers outcome? (.initial jobs size) w := fun i j ht =>
    absurd ht (by simp [State.initial])
  have hwork : (State.initial jobs size).work ≤ runLength jobs.length := Nat.le_refl _
  obtain ⟨hreach, hend⟩ := advanceUpTo_answering hsize _ .initial hanswers hwork
  exact delivered_perm hreach hend

end Answering

end Pool

end SkipAudit
