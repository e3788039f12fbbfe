/-
# One action of a pool

What the actions of the protocol do is said once (`Acted`), and then what each of them makes of
the work that is left and of the permits.

    acted_of_act     every action is one of ten, possible when it says and leading where it says
    work_acted       every action leaves less to do, and at first there is `runLength` to do
    permits_acted    permits are free or held, and none is lost
    exists_acted     while the coordinator has not ended, something can be done

The last one needs a permit: a task that waits can go on when one is free, and when none is,
some task holds one and can go on itself.
-/
import Mathlib.Data.List.Basic
import SkipAudit.Number.Natural
import SkipAudit.Run.Pool

namespace SkipAudit

namespace Pool

/-! ## The actions -/

/-- The actions that are possible in a state, with the states that they lead to. -/
inductive Acted (s : State) : Action → State → Prop
  | start {j : Job} {js : List Job} : s.coordinator = .starting (j :: js) →
      Acted s .start { s with coordinator := .starting js, tasks := s.tasks ++ [⟨j, .waiting⟩] }
  | hangUp : s.coordinator = .starting [] → Acted s .hangUp { s with coordinator := .receiving }
  | take {i : Nat} {j : Job} : s.tasks[i]? = some ⟨j, .waiting⟩ → s.closed = false → 0 < s.free →
      Acted s (.take i) { s.setPhase i .executing with free := s.free - 1 }
  | refuse {i : Nat} {j : Job} : s.tasks[i]? = some ⟨j, .waiting⟩ → s.closed = true →
      Acted s (.refuse i) (s.setPhase i (.ready refusedOutcome))
  | execute {i : Nat} {j : Job} {o? : Option Outcome} : s.tasks[i]? = some ⟨j, .executing⟩ →
      Acted s (.execute i o?) (s.setPhase i (.executed o?))
  | release {i : Nat} {j : Job} {o : Outcome} : s.tasks[i]? = some ⟨j, .executed (some o)⟩ →
      Acted s (.release i) { s.setPhase i (.ready o) with free := s.free + 1 }
  | bury {i : Nat} {j : Job} : s.tasks[i]? = some ⟨j, .executed none⟩ →
      Acted s (.release i) { s.setPhase i .dead with free := s.free + 1 }
  | send {i : Nat} {j : Job} {o : Outcome} : s.tasks[i]? = some ⟨j, .ready o⟩ →
      Acted s (.send i) { s.setPhase i .sent with queue := s.queue ++ [j.result o] }
  | receive {r : JobResult} {rest : List JobResult} : s.coordinator = .receiving →
      s.queue = r :: rest →
      Acted s .receive { s with queue := rest, delivered := s.delivered ++ [r] }
  | finish : s.coordinator = .receiving → s.queue = [] →
      (∀ t ∈ s.tasks, t.phase.isLive = false) → Acted s .finish { s with coordinator := .ended }

theorem atTask_eq_some_iff {s s' : State} {i : Nat} {f : Job → Phase → Option State} :
    s.atTask i f = some s' ↔ ∃ j p, s.tasks[i]? = some ⟨j, p⟩ ∧ f j p = some s' := by
  rw [State.atTask]
  constructor
  · intro h
    split at h
    · rename_i t ht
      exact ⟨t.job, t.phase, ht, h⟩
    · exact absurd h (by simp)
  · rintro ⟨j, p, ht, h⟩
    rw [ht]
    exact h

/-- An action is possible as the protocol says, and leads where it says. -/
theorem acted_of_act {s s' : State} {a : Action} (h : act s a = some s') : Acted s a s' := by
  cases a with
  | start =>
      rw [act] at h
      split at h
      · rename_i hco
        exact Option.some.inj h ▸ .start hco
      · exact absurd h (by simp)
  | hangUp =>
      rw [act] at h
      split at h
      · rename_i hco
        exact Option.some.inj h ▸ .hangUp hco
      · exact absurd h (by simp)
  | take i =>
      rw [act, atTask_eq_some_iff] at h
      obtain ⟨j, p, ht, h⟩ := h
      split at h
      · rename_i hp
        obtain ⟨rfl, hclosed, hfree⟩ := hp
        exact Option.some.inj h ▸ .take ht hclosed hfree
      · exact absurd h (by simp)
  | refuse i =>
      rw [act, atTask_eq_some_iff] at h
      obtain ⟨j, p, ht, h⟩ := h
      split at h
      · rename_i hp
        obtain ⟨rfl, hclosed⟩ := hp
        exact Option.some.inj h ▸ .refuse ht hclosed
      · exact absurd h (by simp)
  | execute i o? =>
      rw [act, atTask_eq_some_iff] at h
      obtain ⟨j, p, ht, h⟩ := h
      split at h
      · rename_i hp
        subst hp
        exact Option.some.inj h ▸ .execute ht
      · exact absurd h (by simp)
  | release i =>
      rw [act, atTask_eq_some_iff] at h
      obtain ⟨j, p, ht, h⟩ := h
      split at h
      · exact Option.some.inj h ▸ .release ht
      · exact Option.some.inj h ▸ .bury ht
      · exact absurd h (by simp)
  | send i =>
      rw [act, atTask_eq_some_iff] at h
      obtain ⟨j, p, ht, h⟩ := h
      split at h
      · exact Option.some.inj h ▸ .send ht
      · exact absurd h (by simp)
  | receive =>
      rw [act] at h
      split at h
      · rename_i hco hq
        exact Option.some.inj h ▸ .receive hco hq
      · exact absurd h (by simp)
  | finish =>
      rw [act] at h
      split at h
      · rename_i hdone
        refine Option.some.inj h ▸ .finish hdone.1 hdone.2.1 fun t ht => ?_
        exact (Bool.not_eq_true' _).mp (List.all_eq_true.mp hdone.2.2 t ht)
      · exact absurd h (by simp)

theorem act_of_acted {s s' : State} {a : Action} (h : Acted s a s') : act s a = some s' := by
  cases h with
  | start hco => rw [act, hco]
  | hangUp hco => rw [act, hco]
  | take ht hclosed hfree =>
      rw [act, atTask_eq_some_iff]
      exact ⟨_, _, ht, if_pos ⟨rfl, hclosed, hfree⟩⟩
  | refuse ht hclosed =>
      rw [act, atTask_eq_some_iff]
      exact ⟨_, _, ht, if_pos ⟨rfl, hclosed⟩⟩
  | execute ht =>
      rw [act, atTask_eq_some_iff]
      exact ⟨_, _, ht, if_pos rfl⟩
  | release ht | bury ht | send ht =>
      rw [act, atTask_eq_some_iff]
      exact ⟨_, _, ht, rfl⟩
  | receive hco hq => rw [act, hco, hq]
  | finish hco hq hlive =>
      have hall : s.tasks.all (!·.phase.isLive) = true := List.all_eq_true.mpr fun t ht =>
        (Bool.not_eq_true' _).mpr (hlive t ht)
      rw [act, if_pos ⟨hco, hq, hall⟩]

/-- The task with a number, among the tasks before and behind it. -/
theorem setPhase_tasks {s : State} {i : Nat} {t : Task} (ht : s.tasks[i]? = some t) (p : Phase) :
    ∃ before rest, s.tasks = before ++ t :: rest ∧
      (s.setPhase i p).tasks = before ++ ⟨t.job, p⟩ :: rest := by
  obtain ⟨hi, rfl⟩ := List.getElem?_eq_some_iff.mp ht
  refine ⟨s.tasks.take i, s.tasks.drop (i + 1), ?_, ?_⟩
  · rw [List.getElem_cons_drop, List.take_append_drop]
  · rw [State.setPhase, List.modify_eq_take_cons_drop hi]

theorem getElem?_setPhase (s : State) (i k : Nat) (p : Phase) :
    (s.setPhase i p).tasks[k]? =
      if i = k then s.tasks[k]?.map ({ · with phase := p }) else s.tasks[k]? := by
  rw [State.setPhase, List.getElem?_modify]
  split
  · rfl
  · exact Option.map_id'

/-- A task keeps its job. -/
theorem map_job_setPhase {s : State} {i : Nat} {t : Task} (ht : s.tasks[i]? = some t) (p : Phase) :
    (s.setPhase i p).tasks.map (·.job) = s.tasks.map (·.job) := by
  obtain ⟨before, rest, hold, hnew⟩ := setPhase_tasks ht p
  rw [hnew, hold, List.map_append, List.map_append, List.map_cons, List.map_cons]

/-- The jobs whose tasks have not been started. -/
def Coordinator.left : Coordinator → List Job
  | .starting js => js
  | .receiving | .ended => []

variable {s s' : State} {a : Action}

/-! ## What is left to do -/

/-- The actions that a task and its result have ahead of them. -/
def Phase.left : Phase → Nat
  | .waiting => 5
  | .executing => 4
  | .executed _ => 3
  | .ready _ => 2
  | .sent | .dead => 0

/-- The actions that the coordinator has ahead of it, and those of the tasks it will start. -/
def Coordinator.work : Coordinator → Nat
  | .starting js => 6 * js.length + 2
  | .receiving => 1
  | .ended => 0

/-- All actions that are left. -/
def State.work (s : State) : Nat :=
  s.coordinator.work + Natural.total (s.tasks.map (·.phase.left)) + s.queue.length

/-- The permits that a task in this phase holds. -/
def Phase.held : Phase → Nat
  | .executing | .executed _ => 1
  | .waiting | .ready _ | .sent | .dead => 0

/-- All permits, those that are free and those that are held. -/
def State.permits (s : State) : Nat := s.free + Natural.total (s.tasks.map (·.phase.held))

theorem exists_pos_of_total_pos {ns : List Nat} (h : 0 < Natural.total ns) :
    ∃ n ∈ ns, 0 < n := by
  induction ns with
  | nil => exact absurd h (Nat.lt_irrefl 0)
  | cons n ns ih =>
      rcases Nat.eq_zero_or_pos n with rfl | hn
      · rw [Natural.total, Nat.zero_add] at h
        obtain ⟨m, hm, hpos⟩ := ih h
        exact ⟨m, List.mem_cons_of_mem _ hm, hpos⟩
      · exact ⟨n, List.mem_cons_self, hn⟩

/-- A total over the tasks, when one of them goes on. -/
theorem total_setPhase {i : Nat} {j : Job} {p : Phase} (ht : s.tasks[i]? = some ⟨j, p⟩) (q : Phase)
    (weight : Phase → Nat) :
    Natural.total ((s.setPhase i q).tasks.map (weight ·.phase)) + weight p =
      Natural.total (s.tasks.map (weight ·.phase)) + weight q := by
  obtain ⟨before, rest, hold, hnew⟩ := setPhase_tasks ht q
  rw [hnew, hold, List.map_append, List.map_append, List.map_cons, List.map_cons,
    Natural.total_append, Natural.total_append, Natural.total, Natural.total]
  dsimp only
  omega

theorem work_setPhase {i : Nat} {j : Job} {p : Phase} (ht : s.tasks[i]? = some ⟨j, p⟩)
    (q : Phase) : (s.setPhase i q).work + p.left = s.work + q.left := by
  have htotal := total_setPhase ht q Phase.left
  have hcoordinator : (s.setPhase i q).coordinator = s.coordinator := rfl
  have hqueue : (s.setPhase i q).queue = s.queue := rfl
  rw [State.work, State.work, hcoordinator, hqueue]
  omega

theorem work_setPhase_lt {i : Nat} {j : Job} {p q : Phase} (ht : s.tasks[i]? = some ⟨j, p⟩)
    (hq : q.left < p.left) : (s.setPhase i q).work < s.work := by
  have hwork := work_setPhase ht q
  omega

/-- An action leaves less to do. -/
theorem work_acted (h : Acted s a s') : s'.work < s.work := by
  cases h with
  | start hco =>
      simp only [State.work, hco, Coordinator.work, List.map_append, List.map_singleton,
        Natural.total_append, Natural.total, Phase.left, List.length_cons]
      omega
  | hangUp hco =>
      simp only [State.work, hco, Coordinator.work, List.length_nil]
      omega
  | take ht | refuse ht | execute ht | release ht | bury ht =>
      exact work_setPhase_lt ht (by simp [Phase.left])
  | @send i j o ht =>
      -- The result is in the queue now, and is to be received from there.
      have hwork := work_setPhase ht .sent
      have hqueue : State.work { s.setPhase i .sent with queue := s.queue ++ [j.result o] } =
          (s.setPhase i .sent).work + 1 := by
        rw [State.work, State.work, List.length_append, List.length_singleton]
        rfl
      simp only [Phase.left] at hwork
      omega
  | receive hco hq =>
      simp only [State.work, hq, List.length_cons]
      omega
  | finish hco hq =>
      simp only [State.work, hco, hq, Coordinator.work, List.length_nil]
      omega

/-! ## Permits -/

theorem permits_setPhase {i : Nat} {j : Job} {p : Phase} (ht : s.tasks[i]? = some ⟨j, p⟩)
    (q : Phase) (free : Nat) :
    State.permits { s.setPhase i q with free := free } + s.free + p.held =
      s.permits + free + q.held := by
  have htotal := total_setPhase ht q Phase.held
  rw [State.permits, State.permits]
  dsimp only
  omega

/-- No permit is lost, whatever becomes of its holder. -/
theorem permits_acted (h : Acted s a s') : s'.permits = s.permits := by
  cases h with
  | start hco =>
      simp only [State.permits, List.map_append, List.map_singleton, Natural.total_append,
        Natural.total, Phase.held, Nat.add_zero]
  | hangUp | receive | finish => rfl
  | take ht _ hfree =>
      have hpermits := permits_setPhase ht .executing (s.free - 1)
      simp only [Phase.held] at hpermits
      dsimp only
      omega
  | refuse ht =>
      have hpermits := permits_setPhase ht (.ready refusedOutcome) s.free
      exact Nat.add_right_cancel hpermits
  | @execute i j o? ht =>
      have hpermits := permits_setPhase ht (.executed o?) s.free
      exact Nat.add_right_cancel (Nat.add_right_cancel hpermits)
  | @release i j o ht =>
      have hpermits := permits_setPhase ht (.ready o) (s.free + 1)
      simp only [Phase.held] at hpermits
      dsimp only
      omega
  | bury ht =>
      have hpermits := permits_setPhase ht .dead (s.free + 1)
      simp only [Phase.held] at hpermits
      dsimp only
      omega
  | send ht =>
      have hpermits := permits_setPhase ht .sent s.free
      exact Nat.add_right_cancel hpermits

theorem permits_reachable {may : Behaviour} {jobs : List Job} {size : Nat}
    (h : Reachable may jobs size s) : s.permits = size := by
  induction h with
  | initial => exact Nat.add_zero size
  | step _ hstep ih =>
      cases hstep with
      | act a _ hs => exact (permits_acted (acted_of_act hs)).trans ih

/-! ## Something can be done -/

theorem mem_candidates_of_next {i : Nat} {t : Task} (ht : s.tasks[i]? = some t) {a : Action}
    (ha : t.phase.nextAction? i = some a) : a ∈ candidates s := by
  obtain ⟨hi, rfl⟩ := List.getElem?_eq_some_iff.mp ht
  refine List.mem_append_left _ (List.mem_append_right _ ?_)
  exact List.mem_filterMap.mpr ⟨some a, List.mem_mapIdx.mpr ⟨i, hi, ha⟩, rfl⟩

theorem not_execute_of_mem_candidates {a : Action} (ha : a ∈ candidates s) (i : Nat)
    (o? : Option Outcome) : a ≠ .execute i o? := by
  rintro rfl
  rcases List.mem_append.mp ha with ha | ha
  · rcases List.mem_append.mp ha with ha | ha
    · simp at ha
    · obtain ⟨_, hmem, rfl⟩ := List.mem_filterMap.mp ha
      obtain ⟨k, hk, hnext⟩ := List.mem_mapIdx.mp hmem
      cases hp : s.tasks[k].phase <;> simp [hp, Phase.nextAction?] at hnext
  · simp at ha

/-- A task that holds a permit. -/
theorem exists_held (h : 0 < Natural.total (s.tasks.map (·.phase.held))) :
    ∃ (i : Nat) (j : Job),
      s.tasks[i]? = some ⟨j, .executing⟩ ∨ ∃ o?, s.tasks[i]? = some ⟨j, .executed o?⟩ := by
  obtain ⟨n, hn, hpos⟩ := exists_pos_of_total_pos h
  obtain ⟨⟨j, p⟩, hmem, rfl⟩ := List.mem_map.mp hn
  obtain ⟨i, ht⟩ := List.mem_iff_getElem?.mp hmem
  cases p with
  | executing => exact ⟨i, j, .inl ht⟩
  | executed o? => exact ⟨i, j, .inr ⟨o?, ht⟩⟩
  | waiting | ready | sent | dead => exact absurd hpos (Nat.lt_irrefl 0)

/-- While the coordinator has not ended, a task executes or some other action is possible. -/
theorem exists_acted (hclosed : s.closed = false) (hpermits : 0 < s.permits)
    (hend : s.coordinator ≠ .ended) :
    (∃ (i : Nat) (j : Job), s.tasks[i]? = some ⟨j, .executing⟩) ∨
      ∃ a ∈ candidates s, ∃ s', Acted s a s' := by
  by_cases hexecuting : ∃ (i : Nat) (j : Job), s.tasks[i]? = some ⟨j, .executing⟩
  · exact .inl hexecuting
  right
  by_cases hexecuted : ∃ (i : Nat) (j : Job) (o? : Option Outcome),
      s.tasks[i]? = some ⟨j, .executed o?⟩
  · obtain ⟨i, j, o?, ht⟩ := hexecuted
    refine ⟨.release i, mem_candidates_of_next ht rfl, ?_⟩
    cases o? with
    | some o => exact ⟨_, .release ht⟩
    | none => exact ⟨_, .bury ht⟩
  have hfree : 0 < s.free := by
    by_contra hnone
    have hheld : 0 < Natural.total (s.tasks.map (·.phase.held)) := by
      rw [State.permits] at hpermits
      omega
    obtain ⟨i, j, ht | ⟨o?, ht⟩⟩ := exists_held hheld
    · exact hexecuting ⟨i, j, ht⟩
    · exact hexecuted ⟨i, j, o?, ht⟩
  cases hco : s.coordinator with
  | ended => exact absurd hco hend
  | starting js =>
      cases js with
      | nil => exact ⟨.hangUp, by simp [candidates], _, .hangUp hco⟩
      | cons j js => exact ⟨.start, by simp [candidates], _, .start hco⟩
  | receiving =>
      by_cases hlive : ∀ t ∈ s.tasks, t.phase.isLive = false
      · cases hq : s.queue with
        | nil => exact ⟨.finish, by simp [candidates], _, .finish hco hq hlive⟩
        | cons r rest => exact ⟨.receive, by simp [candidates], _, .receive hco hq⟩
      · push Not at hlive
        obtain ⟨⟨j, p⟩, hmem, hp⟩ := hlive
        obtain ⟨i, ht⟩ := List.mem_iff_getElem?.mp hmem
        cases p with
        | waiting => exact ⟨.take i, mem_candidates_of_next ht rfl, _, .take ht hclosed hfree⟩
        | executing => exact absurd ⟨i, j, ht⟩ hexecuting
        | executed o? => exact absurd ⟨i, j, o?, ht⟩ hexecuted
        | ready o => exact ⟨.send i, mem_candidates_of_next ht rfl, _, .send ht⟩
        | sent | dead => exact absurd rfl hp

end Pool

end SkipAudit
