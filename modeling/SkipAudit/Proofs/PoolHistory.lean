/-
# What a pool has done

A state does not show what has led to it.  Here the actions are kept as well (`History`), in any
order that they may happen in, with any outcomes and with any executors dying, and an invariant
ties them to the state (`Told`):

    story     what a task has done is what its phase says, each action once and in one order
    sent      the results that were sent, in the order in which they were sent, are those
              that have been delivered and those in the queue

Nothing is assumed of the outcomes, so two equal jobs may end in different ways.  It follows what
a pool never does, and what it has done when nothing more can be done (`each_job_once`).  Where
the outcomes are known, what is delivered in the end does not depend on the order of the actions
(`delivered_perm`).
-/
import Mathlib.Data.List.Induction
import Mathlib.Data.List.Nodup
import SkipAudit.Proofs.Pool

namespace SkipAudit

/-! ## The results of some jobs -/

/-- The results that are due: none for a job whose executor dies. -/
def resultsOf (outcome? : Job → Option Outcome) (jobs : List Job) : List JobResult :=
  jobs.filterMap fun j => (outcome? j).map j.result

theorem mem_resultsOf {outcome? : Job → Option Outcome} {jobs : List Job} {r : JobResult} :
    r ∈ resultsOf outcome? jobs ↔ ∃ j ∈ jobs, ∃ o, outcome? j = some o ∧ j.result o = r := by
  simp only [resultsOf, List.mem_filterMap, Option.map_eq_some_iff]

theorem length_resultsOf (outcome? : Job → Option Outcome) (jobs : List Job) :
    (resultsOf outcome? jobs).length = jobs.countP fun j => (outcome? j).isSome := by
  rw [resultsOf, List.length_filterMap_eq_countP]
  exact List.countP_congr fun j _ => by rw [Option.isSome_map]

namespace Pool

variable {may : Behaviour} {jobs : List Job} {size : Nat} {as : List Action} {s s' : State}
  {a : Action}

/-! ## Histories -/

/-- These actions, one after the other, lead to this state. -/
inductive History (may : Behaviour) (jobs : List Job) (size : Nat) : List Action → State → Prop
  | initial : History may jobs size [] (.initial jobs size)
  | act {as : List Action} {s s' : State} {a : Action} :
      History may jobs size as s → a.agrees may s → act s a = some s' →
        History may jobs size (as ++ [a]) s'

theorem reachable_iff_exists_history :
    Reachable may jobs size s ↔ ∃ as, History may jobs size as s := by
  constructor
  · intro h
    induction h with
    | initial => exact ⟨[], .initial⟩
    | step _ hstep ih =>
        obtain ⟨as, hs⟩ := ih
        cases hstep with
        | act a ha hact => exact ⟨as ++ [a], hs.act ha hact⟩
  · rintro ⟨as, h⟩
    induction h with
    | initial => exact .initial
    | act _ ha hact ih => exact ih.step (.act _ ha hact)

/-- When executing may come to anything, possible actions are a history. -/
theorem history_of_foldlM (h : as.foldlM act (.initial jobs size) = some s) :
    History (fun _ _ => True) jobs size as s := by
  induction as using List.reverseRecOn generalizing s with
  | nil => exact Option.some.inj h ▸ .initial
  | append_singleton as a ih =>
      rw [List.foldlM_append] at h
      obtain ⟨s₁, h₁, h⟩ := Option.bind_eq_some_iff.mp h
      obtain ⟨s₂, h₂, h⟩ := Option.bind_eq_some_iff.mp h
      obtain rfl := Option.some.inj h
      refine (ih h₁).act ?_ h₂
      cases a with
      | execute i o? => exact fun _ _ => trivial
      | _ => trivial

/-! ## What a task has done -/

/-- The task that acts. -/
def Action.task? : Action → Option Nat
  | .take i | .refuse i | .execute i _ | .release i | .send i => some i
  | .start | .hangUp | .receive | .finish => none

/-- What one task has done. -/
def actionsOf (i : Nat) (as : List Action) : List Action := as.filter (·.task? == some i)

/-- What a task has done when it is in a phase, or is not there yet. -/
inductive Story (i : Nat) : Option Phase → List Action → Prop
  | unborn : Story i none []
  | waiting : Story i (some .waiting) []
  | executing : Story i (some .executing) [.take i]
  | executed {o? : Option Outcome} : Story i (some (.executed o?)) [.take i, .execute i o?]
  | ready {o : Outcome} :
      Story i (some (.ready o)) [.take i, .execute i (some o), .release i]
  | sent {o : Outcome} :
      Story i (some .sent) [.take i, .execute i (some o), .release i, .send i]
  | dead : Story i (some .dead) [.take i, .execute i none, .release i]

/-- The phase of a task. -/
def State.phase? (s : State) (i : Nat) : Option Phase := s.tasks[i]?.map (·.phase)

theorem actionsOf_concat_of_eq {i : Nat} (ha : a.task? = some i) (as : List Action) :
    actionsOf i (as ++ [a]) = actionsOf i as ++ [a] := by
  rw [actionsOf, List.filter_append, List.filter_cons_of_pos (by simp [ha]), List.filter_nil,
    actionsOf]

theorem actionsOf_concat_of_ne {i : Nat} (ha : a.task? ≠ some i) (as : List Action) :
    actionsOf i (as ++ [a]) = actionsOf i as := by
  rw [actionsOf, List.filter_append, List.filter_cons_of_neg (by simpa using ha), List.filter_nil,
    List.append_nil, actionsOf]

theorem phase?_setPhase {k : Nat} {t : Task} (ht : s.tasks[k]? = some t) (p : Phase) (i : Nat) :
    (s.setPhase k p).phase? i = if k = i then some p else s.phase? i := by
  rw [State.phase?, getElem?_setPhase]
  split
  · rename_i hki
    rw [← hki, ht, Option.map_some, Option.map_some]
  · rfl

/-- A task goes on to another phase. -/
theorem story_setPhase {k : Nat} {t : Task} (ht : s.tasks[k]? = some t) (ha : a.task? = some k)
    {p : Phase} (hnext : ∀ as, Story k (some t.phase) as → Story k (some p) (as ++ [a]))
    (h : ∀ i, Story i (s.phase? i) (actionsOf i as)) (i : Nat) :
    Story i ((s.setPhase k p).phase? i) (actionsOf i (as ++ [a])) := by
  have hi := h i
  rw [phase?_setPhase ht]
  split
  · rename_i hki
    subst hki
    rw [State.phase?, ht, Option.map_some] at hi
    rw [actionsOf_concat_of_eq ha]
    exact hnext _ hi
  · rename_i hki
    rw [actionsOf_concat_of_ne fun hai => hki (Option.some.inj (ha.symm.trans hai))]
    exact hi

/-- What an action adds to the stories. -/
theorem story_acted (hclosed : s.closed = false)
    (h : ∀ i, Story i (s.phase? i) (actionsOf i as)) (hs : Acted s a s') (i : Nat) :
    Story i (s'.phase? i) (actionsOf i (as ++ [a])) := by
  cases hs with
  | start hco =>
      have hi := h i
      rw [actionsOf_concat_of_ne (by simp [Action.task?])]
      rw [State.phase?] at hi ⊢
      dsimp only
      rcases Nat.lt_trichotomy i s.tasks.length with hlt | rfl | hgt
      · rwa [List.getElem?_append_left hlt]
      · rw [List.getElem?_eq_none (Nat.le_refl _), Option.map_none] at hi
        rw [List.getElem?_concat_length, Option.map_some]
        generalize actionsOf s.tasks.length as = old at hi ⊢
        cases hi
        exact .waiting
      · rw [List.getElem?_eq_none (Nat.le_of_lt hgt)] at hi
        rwa [List.getElem?_eq_none (by rw [List.length_append, List.length_singleton]; omega)]
  | hangUp | receive | finish =>
      rw [actionsOf_concat_of_ne (by simp [Action.task?])]
      exact h i
  | take ht =>
      refine story_setPhase ht rfl (fun as hold => ?_) h i
      cases hold
      exact .executing
  | refuse _ hrefuse => exact absurd (hclosed.symm.trans hrefuse) Bool.false_ne_true
  | execute ht =>
      refine story_setPhase ht rfl (fun as hold => ?_) h i
      cases hold
      exact .executed
  | release ht =>
      refine story_setPhase ht rfl (fun as hold => ?_) h i
      cases hold
      exact .ready
  | bury ht =>
      refine story_setPhase ht rfl (fun as hold => ?_) h i
      cases hold
      exact .dead
  | send ht =>
      refine story_setPhase ht rfl (fun as hold => ?_) h i
      cases hold
      exact .sent

/-! ## What was sent -/

/-- What executing the job of a task has come to, as far as this action tells. -/
def Action.outcome? (i : Nat) : Action → Option (Option Outcome)
  | .execute k o? => if k = i then some o? else none
  | _ => none

/-- What executing the job of a task has come to, if it is over. -/
def cameTo? (as : List Action) (i : Nat) : Option (Option Outcome) :=
  as.findSome? (Action.outcome? i)

/-- The result that is due to a job, when its executor has not died: it has the key and the name
of the job, and the outcome that executing it came to. -/
def due? (jobs : List Job) (as : List Action) (i : Nat) : Option JobResult :=
  jobs[i]?.bind fun j => (cameTo? as i).join.map fun o => ⟨j.key, j.name, o⟩

/-- The task that sends its result. -/
def Action.sender? : Action → Option Nat
  | .send i => some i
  | _ => none

/-- The tasks that have sent their results, the first one first. -/
def senders (as : List Action) : List Nat := as.filterMap Action.sender?

theorem mem_senders {i : Nat} : i ∈ senders as ↔ .send i ∈ as := by
  rw [senders, List.mem_filterMap]
  constructor
  · rintro ⟨a, ha, hi⟩
    cases a <;> simp [Action.sender?] at hi
    exact hi ▸ ha
  · exact fun h => ⟨_, h, rfl⟩

/-- What a task has come to is told by its own actions. -/
theorem cameTo?_actionsOf (as : List Action) (i : Nat) :
    cameTo? (actionsOf i as) i = cameTo? as i := by
  rw [cameTo?, cameTo?, actionsOf]
  induction as with
  | nil => rfl
  | cons a as ih =>
      by_cases ha : a.task? = some i
      · rw [List.filter_cons_of_pos (by simp [ha]), List.findSome?_cons, List.findSome?_cons, ih]
      · have hnone : a.outcome? i = none := by
          cases a <;> simp [Action.outcome?, Action.task?] at ha ⊢
          exact ha
        rw [List.filter_cons_of_neg (by simp [ha]), List.findSome?_cons, hnone, ih]

theorem mem_actionsOf {i : Nat} (ha : a.task? = some i) : a ∈ actionsOf i as ↔ a ∈ as := by
  rw [actionsOf, List.mem_filter, ha]
  simp

namespace Story

variable {i : Nat} {p? : Option Phase}

/-- No task does anything twice. -/
theorem nodup {as : List Action} (h : Story i p? as) : as.Nodup := by
  cases h <;> simp

theorem count_le_one (h : Story i p? (actionsOf i as)) (ha : a.task? = some i) :
    as.count a ≤ 1 := by
  have hcount := List.nodup_iff_count_le_one.mp h.nodup a
  rwa [actionsOf, List.count_filter (by simp [ha])] at hcount

theorem not_mem_refuse (h : Story i p? (actionsOf i as)) : .refuse i ∉ as := by
  rw [← mem_actionsOf (a := .refuse i) rfl]
  generalize actionsOf i as = old at h
  cases h <;> simp

theorem mem_execute_iff (h : Story i p? (actionsOf i as)) {o? : Option Outcome} :
    .execute i o? ∈ as ↔ cameTo? as i = some o? := by
  rw [← mem_actionsOf (a := .execute i o?) rfl, ← cameTo?_actionsOf]
  generalize actionsOf i as = old at h
  cases h <;> simp [cameTo?, List.findSome?, Action.outcome?, eq_comm]

theorem cameTo?_of_ready {o : Outcome} (h : Story i (some (.ready o)) (actionsOf i as)) :
    cameTo? as i = some (some o) := by
  rw [← cameTo?_actionsOf]
  generalize actionsOf i as = old at h
  cases h
  simp [cameTo?, List.findSome?, Action.outcome?]

/-- A result that was sent is an outcome that executing came to. -/
theorem of_send (h : Story i p? (actionsOf i as)) (hsend : .send i ∈ as) :
    p? = some .sent ∧ ∃ o, cameTo? as i = some (some o) := by
  rw [← mem_actionsOf (a := .send i) rfl] at hsend
  rw [← cameTo?_actionsOf]
  generalize actionsOf i as = old at h hsend
  cases h <;> simp [cameTo?, List.findSome?, Action.outcome?] at hsend ⊢

/-- A task that can do no more has come to something, and has sent it unless it died. -/
theorem exists_of_not_live {p : Phase} (h : Story i (some p) (actionsOf i as))
    (hp : p.isLive = false) :
    ∃ o?, cameTo? as i = some o? ∧ (.send i ∈ as ↔ o?.isSome = true) := by
  rw [← mem_actionsOf (a := .send i) rfl, ← cameTo?_actionsOf]
  generalize actionsOf i as = old at h
  cases h <;> simp [cameTo?, List.findSome?, Action.outcome?, Phase.isLive] at hp ⊢

end Story

/-! ## What is true of every history -/

/-- What the actions tell about the state. -/
structure Told (jobs : List Job) (as : List Action) (s : State) : Prop where
  started : s.tasks.map (·.job) ++ s.coordinator.left = jobs
  closed : s.closed = false
  story : ∀ i, Story i (s.phase? i) (actionsOf i as)
  sent : s.delivered ++ s.queue = (senders as).filterMap (due? jobs as)
  ended : s.coordinator = .ended → s.queue = [] ∧ ∀ t ∈ s.tasks, t.phase.isLive = false

/-- What was due to a task that has sent is not changed any more. -/
theorem filterMap_due?_concat (h : ∀ i, .send i ∈ as → (cameTo? as i).isSome = true)
    (jobs : List Job) (a : Action) :
    (senders (as ++ [a])).filterMap (due? jobs (as ++ [a])) =
      (senders as).filterMap (due? jobs as) ++ (a.sender?.bind (due? jobs (as ++ [a]))).toList := by
  have hsame : ∀ i ∈ senders as, due? jobs (as ++ [a]) i = due? jobs as i := by
    intro i hi
    obtain ⟨o?, ho⟩ := Option.isSome_iff_exists.mp (h i (mem_senders.mp hi))
    rw [due?, due?, cameTo?, List.findSome?_append, ← cameTo?, ho, Option.some_or]
  rw [senders, List.filterMap_append, List.filterMap_append, ← senders,
    List.filterMap_congr hsame]
  cases ha : a.sender? with
  | none => rw [List.filterMap_cons_none ha, Option.bind_none, Option.toList_none]; rfl
  | some i =>
      rw [List.filterMap_cons_some ha, List.filterMap_nil, Option.bind_some]
      cases hdue : due? jobs (as ++ [a]) i with
      | none => rw [List.filterMap_cons_none hdue]; rfl
      | some r => rw [List.filterMap_cons_some hdue]; rfl

namespace Told

theorem initial (jobs : List Job) (size : Nat) : Told jobs [] (.initial jobs size) where
  started := rfl
  closed := rfl
  story _ := .unborn
  sent := rfl
  ended h := absurd h (by simp [State.initial])

variable (h : Told jobs as s)

include h

theorem isSome_cameTo? (i : Nat) (hsend : .send i ∈ as) : (cameTo? as i).isSome = true := by
  obtain ⟨-, o, ho⟩ := (h.story i).of_send hsend
  rw [ho, Option.isSome_some]

theorem getElem?_job {i : Nat} {t : Task} (ht : s.tasks[i]? = some t) : jobs[i]? = some t.job := by
  have hlt : i < (s.tasks.map (·.job)).length := by
    rw [List.length_map]
    exact (List.getElem?_eq_some_iff.mp ht).1
  rw [← h.started, List.getElem?_append_left hlt, List.getElem?_map, ht, Option.map_some]

/-- A task goes on to another phase, and puts into the queue what it sends thereby. -/
theorem setPhase (hs : Acted s a s') {k : Nat} {t : Task} (ht : s.tasks[k]? = some t)
    (hlive : t.phase.isLive = true) {p : Phase} {free : Nat} {queue : List JobResult}
    (heq : s' = { s.setPhase k p with free := free, queue := queue })
    (hqueue : queue = s.queue ++ (a.sender?.bind (due? jobs (as ++ [a]))).toList) :
    Told jobs (as ++ [a]) s' := by
  have hstory := story_acted h.closed h.story hs
  subst heq
  refine ⟨?_, h.closed, hstory, ?_, fun hend => ?_⟩
  · rw [← h.started, ← map_job_setPhase ht p]
    rfl
  · rw [filterMap_due?_concat h.isSome_cameTo?, ← h.sent, List.append_assoc, ← hqueue]
    rfl
  · exact absurd hlive (by simp [(h.ended hend).2 t (List.mem_of_getElem? ht)])

/-- An action of the coordinator. -/
theorem coordinate (hs : Acted s a s') (ha : a.sender? = none)
    (hstarted : s'.tasks.map (·.job) ++ s'.coordinator.left =
      s.tasks.map (·.job) ++ s.coordinator.left)
    (hclosed : s'.closed = s.closed)
    (hsent : s'.delivered ++ s'.queue = s.delivered ++ s.queue)
    (hended : s'.coordinator = .ended →
      s'.queue = [] ∧ ∀ t ∈ s'.tasks, t.phase.isLive = false) : Told jobs (as ++ [a]) s' where
  started := hstarted.trans h.started
  closed := hclosed.trans h.closed
  story := story_acted h.closed h.story hs
  sent := by
    rw [filterMap_due?_concat h.isSome_cameTo?, ha, hsent, h.sent]
    exact (List.append_nil _).symm
  ended := hended

/-- One action, whichever it is. -/
theorem act (hs : Acted s a s') : Told jobs (as ++ [a]) s' := by
  have hs' := hs
  cases hs with
  | @start j js hco =>
      refine h.coordinate hs' rfl ?_ rfl rfl fun hend => absurd hend (by simp)
      rw [hco, List.map_append, List.append_assoc]
      rfl
  | hangUp hco =>
      refine h.coordinate hs' rfl ?_ rfl rfl fun hend => absurd hend (by simp)
      rw [hco]
      rfl
  | take ht | execute ht | release ht | bury ht =>
      exact h.setPhase hs' ht rfl rfl (List.append_nil _).symm
  | refuse _ hclosed => exact absurd (h.closed.symm.trans hclosed) Bool.false_ne_true
  | @send i j o ht =>
      have hstory := h.story i
      rw [State.phase?, ht, Option.map_some] at hstory
      have hdue : due? jobs (as ++ [.send i]) i = some (j.result o) := by
        rw [due?, h.getElem?_job ht, cameTo?, List.findSome?_append, ← cameTo?,
          hstory.cameTo?_of_ready]
        rfl
      refine h.setPhase hs' ht rfl rfl ?_
      rw [Action.sender?, Option.bind_some, hdue]
      rfl
  | receive hco hq =>
      refine h.coordinate hs' rfl rfl rfl ?_ fun hend => absurd (hco.symm.trans hend) (by simp)
      rw [hq, List.append_assoc]
      rfl
  | finish hco hq hlive =>
      refine h.coordinate hs' rfl ?_ rfl rfl fun _ => ⟨hq, hlive⟩
      rw [hco]
      rfl

end Told

theorem told_history (h : History may jobs size as s) : Told jobs as s := by
  induction h with
  | initial => exact .initial jobs size
  | act _ _ hact ih => exact ih.act (acted_of_act hact)

/-- No task is ever refused a permit. -/
theorem not_closed_of_reachable (h : Reachable may jobs size s) : s.closed = false := by
  obtain ⟨as, hs⟩ := reachable_iff_exists_history.mp h
  exact (told_history hs).closed

/-- Executing a job comes to what it may come to. -/
theorem History.may_of_execute (h : History may jobs size as s) {i : Nat} {o? : Option Outcome}
    (ha : .execute i o? ∈ as) : ∃ j, jobs[i]? = some j ∧ may j o? := by
  induction h with
  | initial => exact absurd ha List.not_mem_nil
  | @act as s s' a hs hmay hact ih =>
      rcases List.mem_append.mp ha with ha | ha
      · exact ih ha
      · obtain rfl := List.mem_singleton.mp ha
        cases acted_of_act hact with
        | @execute _ j _ ht => exact ⟨j, (told_history hs).getElem?_job ht, hmay _ ht⟩

/-! ## What a pool does and does not do -/

theorem countP_executing_le (tasks : List Task) :
    tasks.countP (·.phase = .executing) ≤ Natural.total (tasks.map (·.phase.held)) := by
  induction tasks with
  | nil => exact Nat.le_refl 0
  | cons t ts ih =>
      rw [List.countP_cons, List.map_cons, Natural.total]
      have hheld : (if decide (t.phase = .executing) = true then 1 else 0) ≤ t.phase.held := by
        cases t.phase <;> simp [Phase.held]
      omega

theorem History.length_add_work_le (h : History may jobs size as s) :
    as.length + s.work ≤ runLength jobs.length := by
  induction h with
  | initial => exact Nat.le_of_eq (Nat.zero_add _)
  | act _ _ hact ih =>
      have hless := work_acted (acted_of_act hact)
      rw [List.length_append, List.length_singleton]
      omega

theorem count_senders (as : List Action) (i : Nat) : (senders as).count i = as.count (.send i) := by
  induction as with
  | nil => rfl
  | cons a as ih =>
      rw [senders] at ih ⊢
      cases a with
      | send k =>
          rw [List.filterMap_cons_some (by rfl), List.count_cons, List.count_cons, ih]
          simp
      | _ => rw [List.filterMap_cons_none (by rfl), List.count_cons_of_ne (by simp), ih]

namespace Told

variable (h : Told jobs as s)

include h

/-- A delivered result is what executing one of the jobs came to. -/
theorem exists_of_mem_delivered {r : JobResult} (hr : r ∈ s.delivered) :
    ∃ i j o, jobs[i]? = some j ∧ .execute i (some o) ∈ as ∧
      r.key = j.key ∧ r.name = j.name ∧ r.outcome = o := by
  have hmem : r ∈ (senders as).filterMap (due? jobs as) := h.sent ▸ List.mem_append_left _ hr
  obtain ⟨i, -, hdue⟩ := List.mem_filterMap.mp hmem
  obtain ⟨j, hj, hout⟩ := Option.bind_eq_some_iff.mp hdue
  obtain ⟨o, ho, rfl⟩ := Option.map_eq_some_iff.mp hout
  have hexecute := (h.story i).mem_execute_iff.mpr (Option.join_eq_some_iff.mp ho)
  exact ⟨i, j, o, hj, hexecute, rfl, rfl, rfl⟩

/-- Nothing is left to do at the end only. -/
theorem ended_of_stuck (hpermits : 0 < s.permits) (hmay : ∀ j ∈ jobs, ∃ o?, may j o?)
    (hstuck : ∀ s', ¬ Step may s s') : s.coordinator = .ended := by
  by_contra hend
  rcases exists_acted h.closed hpermits hend with ⟨i, j, ht⟩ | ⟨a, ha, s', hs⟩
  · obtain ⟨o?, ho⟩ := hmay j (List.mem_of_getElem? (h.getElem?_job ht))
    refine hstuck _ (.act (.execute i o?) (fun t ht' => ?_) (act_of_acted (.execute ht)))
    obtain rfl := Option.some.inj (ht.symm.trans ht')
    exact ho
  · refine hstuck s' (.act a ?_ (act_of_acted hs))
    cases a with
    | execute i o? => exact absurd rfl (not_execute_of_mem_candidates ha i o?)
    | _ => trivial

variable (hend : s.coordinator = .ended)

include hend

/-- In the end every job has been executed, and its result sent unless the executor died. -/
theorem exists_of_ended {i : Nat} (hi : i < jobs.length) :
    ∃ o?, cameTo? as i = some o? ∧ (.send i ∈ as ↔ o?.isSome = true) := by
  have hstarted := h.started
  rw [hend, Coordinator.left, List.append_nil] at hstarted
  have hlt : i < s.tasks.length := by rwa [← List.length_map (f := (·.job)), hstarted]
  have hstory := h.story i
  rw [State.phase?, List.getElem?_eq_getElem hlt, Option.map_some] at hstory
  exact hstory.exists_of_not_live ((h.ended hend).2 _ (List.getElem_mem hlt))

theorem mem_senders_iff {i : Nat} :
    i ∈ senders as ↔ i < jobs.length ∧ (due? jobs as i).isSome = true := by
  rw [mem_senders]
  constructor
  · intro hsend
    obtain ⟨hphase, o, ho⟩ := (h.story i).of_send hsend
    obtain ⟨t, ht, -⟩ := Option.map_eq_some_iff.mp hphase
    have hjob := h.getElem?_job ht
    refine ⟨(List.getElem?_eq_some_iff.mp hjob).1, ?_⟩
    rw [due?, hjob, ho]
    rfl
  · rintro ⟨hi, hdue⟩
    obtain ⟨o?, ho, hsend⟩ := h.exists_of_ended hend hi
    rw [due?, List.getElem?_eq_getElem hi, ho] at hdue
    refine hsend.mpr ?_
    simpa using hdue

theorem delivered_perm_due :
    s.delivered.Perm ((List.range jobs.length).filterMap (due? jobs as)) := by
  have hnodup : (senders as).Nodup := List.nodup_iff_count_le_one.mpr fun i => by
    rw [count_senders]
    exact (h.story i).count_le_one rfl
  have hsenders : (senders as).Perm
      ((List.range jobs.length).filter fun i => (due? jobs as i).isSome) := by
    refine (List.perm_ext_iff_of_nodup hnodup (List.nodup_range.filter _)).mpr fun i => ?_
    rw [h.mem_senders_iff hend, List.mem_filter, List.mem_range]
  have hall : ∀ is : List Nat, (is.filter fun i => (due? jobs as i).isSome).filterMap
      (due? jobs as) = is.filterMap (due? jobs as) := fun is => by
    rw [List.filterMap_filter]
    refine List.filterMap_congr fun i _ => ?_
    cases due? jobs as i <;> rfl
  have hsent := h.sent
  rw [(h.ended hend).1, List.append_nil] at hsent
  rw [hsent, ← hall (List.range jobs.length)]
  exact hsenders.filterMap _

end Told

/-- **Each job is executed once, and its result delivered once.**  A state can be reached exactly
when some actions lead to it.  Whichever they are, no more tasks execute at once than there are
permits, and no permit is ever lost; tasks are started for the jobs in their order, and none takes
a permit twice or is refused one; a delivered result has the key and the name of a job and the
outcome that executing it came to; and there are only so many actions.  When none is possible any
more, the coordinator has ended, every job has been executed, and what was delivered is, in some
order, one result for each job whose executor did not die. -/
theorem each_job_once (may : Behaviour) (jobs : List Job) {size : Nat} (hsize : 0 < size) :
    (∀ s, Reachable may jobs size s ↔ ∃ as, History may jobs size as s) ∧
      ∀ as s, History may jobs size as s →
        s.tasks.countP (·.phase = .executing) ≤ size ∧ s.permits = size ∧
        s.tasks.map (·.job) <+: jobs ∧
        (∀ i, as.count (.take i) ≤ 1 ∧ .refuse i ∉ as) ∧
        (∀ r ∈ s.delivered, ∃ i j o, jobs[i]? = some j ∧ .execute i (some o) ∈ as ∧
          r.key = j.key ∧ r.name = j.name ∧ r.outcome = o) ∧
        as.length ≤ runLength jobs.length ∧
        ((∀ j ∈ jobs, ∃ o?, may j o?) → (∀ s', ¬ Step may s s') →
          s.coordinator = .ended ∧ (∀ i < jobs.length, ∃ o?, .execute i o? ∈ as) ∧
          s.delivered.Perm ((List.range jobs.length).filterMap (due? jobs as))) := by
  refine ⟨fun s => reachable_iff_exists_history, fun as s h => ?_⟩
  have htold := told_history h
  have hpermits : s.permits = size := permits_reachable (reachable_iff_exists_history.mpr ⟨as, h⟩)
  refine ⟨?_, hpermits, ⟨_, htold.started⟩, fun i => ?_,
    fun r hr => htold.exists_of_mem_delivered hr, ?_, fun hmay hstuck => ?_⟩
  · have hheld := countP_executing_le s.tasks
    rw [State.permits] at hpermits
    omega
  · exact ⟨(htold.story i).count_le_one rfl, (htold.story i).not_mem_refuse⟩
  · exact Nat.le_of_add_right_le h.length_add_work_le
  · have hend := htold.ended_of_stuck (hpermits.symm ▸ hsize) hmay hstuck
    refine ⟨hend, fun i hi => ?_, htold.delivered_perm_due hend⟩
    obtain ⟨o?, ho, -⟩ := htold.exists_of_ended hend hi
    exact ⟨o?, (htold.story i).mem_execute_iff.mpr ho⟩

/-- Two equal jobs, another one and one permit; the executor of the second one dies before any
other has begun. -/
theorem each_job_once_sample :
    let j : Job := ⟨⟨⟨text "a.zig"⟩, 0⟩, text "one", [], 0⟩
    let k : Job := ⟨⟨⟨text "b.zig"⟩, 3⟩, text "two", [], 4⟩
    let as : List Action := [.start, .start, .start, .take 1, .execute 1 none, .hangUp, .release 1,
      .take 2, .execute 2 (some .timedOut), .release 2, .take 0, .execute 0 (some .passed), .send 2,
      .receive, .release 0, .send 0, .receive, .finish]
    ∃ s, History (fun _ _ => True) [j, j, k] 1 as s ∧
      (∀ s', ¬ Step (fun _ _ => True) s s') ∧ s.coordinator = .ended ∧
        s.delivered.Perm
          [⟨⟨⟨text "a.zig"⟩, 0⟩, text "one", .passed⟩,
            ⟨⟨⟨text "b.zig"⟩, 3⟩, text "two", .timedOut⟩] := by
  intro j k as
  obtain ⟨s, hs, hwork⟩ : ∃ s, as.foldlM act (.initial [j, j, k] 1) = some s ∧ s.work = 0 :=
    ⟨_, rfl, by decide⟩
  have hstuck : ∀ s', ¬ Step (fun _ _ => True) s s' := by
    rintro s' ⟨a, -, hact⟩
    have hless := work_acted (acted_of_act hact)
    omega
  have h := history_of_foldlM hs
  obtain ⟨-, -, -, -, -, -, hdone⟩ :=
    (each_job_once (fun _ _ => True) [j, j, k] Nat.one_pos).2 as s h
  obtain ⟨hend, -, hperm⟩ := hdone (fun _ _ => ⟨none, trivial⟩) hstuck
  exact ⟨s, h, hstuck, hend, hperm⟩

/-! ## Where the outcomes are known -/

/-- Looking at all places of a list is going through it. -/
theorem filterMap_range_getElem? {α β : Type} (f : α → Option β) (l : List α) :
    ((List.range l.length).filterMap fun i => l[i]?.bind f) = l.filterMap f := by
  induction l with
  | nil => rfl
  | cons a l ih =>
      rw [List.length_cons, List.range_succ_eq_map, List.filterMap_cons, List.filterMap_map,
        List.filterMap_cons, ← ih]
      rfl

/-- When the coordinator has ended, each job that came to an outcome has had its result
delivered, once, and nothing else has been. -/
theorem delivered_perm {outcome? : Job → Option Outcome}
    (h : Reachable (fun j o? => o? = outcome? j) jobs size s) (hend : s.coordinator = .ended) :
    s.delivered.Perm (resultsOf outcome? jobs) := by
  obtain ⟨as, hs⟩ := reachable_iff_exists_history.mp h
  have htold := told_history hs
  have hdue : ∀ i ∈ List.range jobs.length,
      due? jobs as i = jobs[i]?.bind fun j => (outcome? j).map j.result := by
    intro i hi
    obtain ⟨o?, ho, -⟩ := htold.exists_of_ended hend (List.mem_range.mp hi)
    obtain ⟨j, hj, rfl⟩ := hs.may_of_execute ((htold.story i).mem_execute_iff.mpr ho)
    rw [due?, hj, ho]
    rfl
  have hperm := htold.delivered_perm_due hend
  rwa [List.filterMap_congr hdue, filterMap_range_getElem?] at hperm

end Pool

end SkipAudit
