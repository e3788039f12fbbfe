/-
# A whole run

Each selected unit has a job, and the executor of a job comes to an outcome or dies.  The pool
delivers one result for each job whose executor did not die, in whatever order.  None of these
results is rejected: their keys are those of selected units, and no two are the same.  So every
result is numbered, and what is put down for a unit is what its own job came to
(`answer?_arrivals`).

What is then done to the disk is told as a list of calls, each with its answer (`Disk.Calls`).
The disk is any disk: it may refuse any write for any reason, and leave whatever it likes behind.
The text of a call is that of the lines of the file, settled as its units ended.

    recordAll_arrivals        the completions are the arrivals, numbered from one
    writeAllBack_calls        one write for each file, and formatting behind those that succeed
    updateWith_arrivals       both together, for any delivery
    updateCorpus_answering    both together, for the delivery of the pool
-/
import SkipAudit.Run.Update
import SkipAudit.Proofs.PoolRun
import SkipAudit.Proofs.Tally

namespace SkipAudit

open Tally

/-! ## Jobs and units -/

/-- The job of a unit. -/
def SourceFile.jobOf (f : SourceFile) (u : TestUnit) : Job :=
  ⟨f.keyOf u, u.name, f.lines, u.skipIndex⟩

namespace Corpus

theorem mem_jobs {c : Corpus} {j : Job} :
    j ∈ c.jobs ↔ ∃ f ∈ c.files, ∃ u ∈ f.units, u.selected = true ∧ f.jobOf u = j := by
  simp only [jobs, SourceFile.jobs, List.mem_flatMap, List.mem_map, List.mem_filter, and_assoc,
    SourceFile.jobOf]

theorem map_key_jobs (c : Corpus) : c.jobs.map (·.key) = selectedKeys c := by
  rw [jobs, selectedKeys, List.map_flatMap]
  congr 1
  funext f
  rw [SourceFile.jobs, List.map_map]
  rfl

theorem WellFormed.pairwise_jobs {c : Corpus} (h : c.WellFormed) :
    c.jobs.Pairwise fun i j => i.key.same j.key = false := by
  have hkeys := h.pairwise_selectedKeys
  rwa [← map_key_jobs, List.pairwise_map] at hkeys

theorem WellFormed.eq_of_same_job {c : Corpus} (h : c.WellFormed) {i j : Job} (hi : i ∈ c.jobs)
    (hj : j ∈ c.jobs) (hij : i.key.same j.key = true) : i = j := by
  obtain ⟨f, hf, u, hu, -, rfl⟩ := mem_jobs.mp hi
  obtain ⟨g, hg, v, hv, -, rfl⟩ := mem_jobs.mp hj
  obtain ⟨rfl, rfl⟩ := h.eq_of_same_key hf hg hu hv hij
  rfl

end Corpus

/-! ## What the results say -/

/-- What is put down for a test whose job came to an outcome, or to none. -/
def failureAfter : Option Outcome → Option Failure
  | some .passed => none
  | some (.failed _ _ f) => some f
  | some .timedOut => some .timedOut
  | some (.harnessFailed _) | none => some .harnessError

theorem failureAfter_some (o : Outcome) : failureAfter (some o) = o.failure? := by
  cases o <;> rfl

theorem failureAfter_eq_none_iff {o? : Option Outcome} :
    failureAfter o? = none ↔ o? = some .passed := by
  rcases o? with _ | _ | _ | _ | _ <;> simp [failureAfter]

section Arrivals

variable {c : Corpus} (hc : c.WellFormed) {outcome? : Job → Option Outcome}
  {arrivals : List JobResult} (hperm : arrivals.Perm (resultsOf outcome? c.jobs))

include hc hperm

theorem pairwise_arrivals : arrivals.Pairwise fun a b => a.key.same b.key = false := by
  have hsymm : ∀ {a b : JobResult}, a.key.same b.key = false → b.key.same a.key = false :=
    fun h => (UnitKey.same_comm _ _).trans h
  rw [hperm.pairwise_iff hsymm, resultsOf, List.pairwise_filterMap]
  refine hc.pairwise_jobs.imp ?_
  intro i j hij a ha b hb
  obtain ⟨o, -, rfl⟩ := Option.map_eq_some_iff.mp ha
  obtain ⟨p, -, rfl⟩ := Option.map_eq_some_iff.mp hb
  exact hij

/-- The first result with the key of a job is what this job came to. -/
theorem answer?_arrivals {j : Job} (hj : j ∈ c.jobs) :
    answer? arrivals j.key = (outcome? j).map Outcome.failure? := by
  have hown : ∀ r ∈ arrivals, r.key.same j.key = true →
      ∃ o, outcome? j = some o ∧ j.result o = r := by
    intro r hr hrj
    obtain ⟨i, hi, o, ho, rfl⟩ := mem_resultsOf.mp (hperm.mem_iff.mp hr)
    obtain rfl := hc.eq_of_same_job hi hj hrj
    exact ⟨o, ho, rfl⟩
  rw [answer?]
  cases hfind : arrivals.find? (·.key.same j.key) with
  | some r =>
      have hrj := List.find?_some hfind
      obtain ⟨o, ho, rfl⟩ := hown r (List.mem_of_find?_eq_some hfind) hrj
      rw [ho]
      rfl
  | none =>
      cases ho : outcome? j with
      | none => rfl
      | some o =>
          have hmem : j.result o ∈ arrivals :=
            hperm.mem_iff.mpr (mem_resultsOf.mpr ⟨j, hj, o, ho, rfl⟩)
          exact absurd (UnitKey.same_refl j.key) (List.find?_eq_none.mp hfind _ hmem)

theorem verdict_arrivals {j : Job} (hj : j ∈ c.jobs) :
    verdict arrivals j.key = failureAfter (outcome? j) := by
  rw [verdict, answer?_arrivals hc hperm hj]
  cases outcome? j with
  | none => rfl
  | some o => exact (failureAfter_some o).symm

/-- A unit has what its own job came to. -/
theorem judged_arrivals {f : SourceFile} (hf : f ∈ c.files) {u : TestUnit} (hu : u ∈ f.units) :
    judged arrivals f u =
      if u.selected then { u with failure := failureAfter (outcome? (f.jobOf u)) } else u := by
  rw [judged]
  split
  · rename_i hs
    rw [← verdict_arrivals hc hperm (Corpus.mem_jobs.mpr ⟨f, hf, u, hu, hs, rfl⟩)]
    rfl
  · rfl

end Arrivals

/-! ## Recording them one by one -/

theorem fst_recordAll (total : Nat) (t : Tally) (rs : List JobResult) :
    (recordAll total t rs).1 = rs.foldl recordOrDiscard t := by
  induction rs generalizing t with
  | nil => rfl
  | cons r rs ih =>
      rw [recordAll, List.foldl_cons, recordOrDiscard]
      cases t.record r with
      | error e => exact ih t
      | ok t' => exact ih t'

theorem completed_accept (t : Tally) (r : JobResult) :
    (t.accept r).completed = t.completed + 1 := by
  rw [completed, completed, accept]
  dsimp only
  split <;> omega

/-- Results for different selected tests are all accepted, and numbered in their order. -/
theorem snd_recordAll {c : Corpus} (hc : c.WellFormed) (total : Nat) {rest : List JobResult} :
    ∀ {rs : List JobResult} {t : Tally}, Follows c rs t → t.completed = rs.length →
      (rs ++ rest).Pairwise (fun a b => a.key.same b.key = false) →
      (∀ r ∈ rest, ∃ k ∈ selectedKeys c, k.same r.key = true) →
      (recordAll total t rest).2 =
        rest.mapIdx fun i r => ⟨rs.length + i + 1, total, r.name, r.outcome.failure?⟩ := by
  induction rest with
  | nil => exact fun _ _ _ _ => rfl
  | cons r rest ih =>
      intro rs t h hcount hpair hkeys
      obtain ⟨k, hk, hsame⟩ := hkeys r List.mem_cons_self
      obtain ⟨f, hf, u, hu, hs, rfl⟩ := Corpus.mem_selectedKeys.mp hk
      have hnone : answer? rs r.key = none := by
        rw [← Option.not_isSome_iff_eq_none, isSome_answer?_iff]
        rintro ⟨r', hr', hrr'⟩
        exact absurd ((List.pairwise_append.mp hpair).2.2 r' hr' r List.mem_cons_self)
          (by simp [hrr'])
      have hrecord : t.record r = .ok (t.accept r) := by
        rw [h.record_of_unit hc hf hu hsame, if_pos ⟨hs, hnone⟩]
      have hpending := (h.has_pending_iff_of_unit hc hf hu hsame).mpr ⟨hs, hnone⟩
      have hcount' : (t.accept r).completed = (rs ++ [r]).length := by
        rw [completed_accept, hcount, List.length_append, List.length_singleton]
      rw [List.append_cons] at hpair
      have hrest := ih (h.accept hc hpending) hcount' hpair fun r' hr' =>
        hkeys r' (List.mem_cons_of_mem _ hr')
      rw [recordAll, hrecord, List.mapIdx_cons]
      dsimp only
      rw [hrest, hcount', List.length_append, List.length_singleton]
      congr 1
      congr 1
      funext i r'
      rw [Nat.add_right_comm _ 1, Nat.add_assoc _ i]

section Arrivals

variable {c : Corpus} (hc : c.WellFormed) {outcome? : Job → Option Outcome}
  {arrivals : List JobResult} (hperm : arrivals.Perm (resultsOf outcome? c.jobs))

include hc hperm

theorem recordAll_arrivals (total : Nat) :
    (recordAll total (start c) arrivals).2 =
      arrivals.mapIdx fun i r => ⟨i + 1, total, r.name, failureAfter (some r.outcome)⟩ := by
  have hkeys : ∀ r ∈ arrivals, ∃ k ∈ selectedKeys c, k.same r.key = true := by
    intro r hr
    obtain ⟨j, hj, o, -, rfl⟩ := mem_resultsOf.mp (hperm.mem_iff.mp hr)
    refine ⟨j.key, ?_, UnitKey.same_refl _⟩
    rw [← Corpus.map_key_jobs]
    exact List.mem_map_of_mem hj
  have hstart : (start c).completed = ([] : List JobResult).length := rfl
  rw [snd_recordAll hc total (follows_start hc) hstart (pairwise_arrivals hc hperm) hkeys]
  simp only [List.length_nil, Nat.zero_add, failureAfter_some]

end Arrivals

/-- The file in the end: units that were run have what their jobs came to. -/
def SourceFile.ended (outcome? : Job → Option Outcome) (f : SourceFile) : SourceFile :=
  f.mapUnits fun u =>
    if u.selected then { u with failure := failureAfter (outcome? (f.jobOf u)) } else u

/-- Only the jobs of a file have a part in how it ends. -/
theorem SourceFile.ended_congr {outcome? outcome?' : Job → Option Outcome} {f : SourceFile}
    (h : ∀ j ∈ f.jobs, outcome?' j = outcome? j) : f.ended outcome?' = f.ended outcome? := by
  rw [ended, ended, mapUnits, mapUnits]
  congr 1
  refine List.map_congr_left fun u hu => ?_
  split
  · rename_i hs
    rw [h (f.jobOf u) (List.mem_map_of_mem (List.mem_filter.mpr ⟨hu, hs⟩))]
  · rfl

/-- What a run should record, its results arriving in this order. -/
def Recorded.due (outcome? : Job → Option Outcome) (c : Corpus) (arrivals : List JobResult) :
    Recorded where
  total := c.selectedCount
  completions := arrivals.mapIdx fun i r =>
    ⟨i + 1, c.selectedCount, r.name, failureAfter (some r.outcome)⟩
  summary :=
    { total := c.selectedCount
      passed := c.jobs.countP fun j => outcome? j = some .passed
      failed := c.jobs.countP fun j => outcome? j ≠ some .passed }
  corpus := { c with files := c.files.map (·.ended outcome?) }

theorem Recorded.index_due (outcome? : Job → Option Outcome) (c : Corpus)
    (arrivals : List JobResult) :
    (Recorded.due outcome? c arrivals).completions.map (·.index) =
      List.range' 1 arrivals.length := by
  rw [due]
  refine List.ext_getElem (by simp) fun i h₁ h₂ => ?_
  rw [List.getElem_map, List.getElem_mapIdx, List.getElem_range', Nat.one_mul, Nat.add_comm]

/-- What is recorded of a run, however its results were delivered. -/
theorem reconcile_arrivals {c : Corpus} (hc : c.WellFormed) {outcome? : Job → Option Outcome}
    {arrivals : List JobResult} (hperm : arrivals.Perm (resultsOf outcome? c.jobs)) :
    reconcile c arrivals = .due outcome? c arrivals := by
  have hfollows := follows_after hc arrivals
  have hexpected : (start c).expected = c.selectedCount := (follows_start hc).expected
  have hcorpus : c.mapUnits (judged arrivals) =
      { c with files := c.files.map (·.ended outcome?) } :=
    Corpus.mapUnits_congr fun f hf u hu => judged_arrivals hc hperm hf hu
  have hcount : ∀ P : Option Failure → Bool,
      (selectedKeys c).countP (fun k => P (verdict arrivals k)) =
        c.jobs.countP fun j => P (failureAfter (outcome? j)) := by
    intro P
    rw [← Corpus.map_key_jobs, List.countP_map]
    exact List.countP_congr fun j hj => by
      rw [Function.comp_apply, verdict_arrivals hc hperm hj]
  have hpassed : c.jobs.countP (fun j => (failureAfter (outcome? j)).isNone) =
      c.jobs.countP fun j => outcome? j = some .passed := List.countP_congr fun j _ => by
    rw [Option.isNone_iff_eq_none, failureAfter_eq_none_iff, decide_eq_true_eq]
  have hfailed : c.jobs.countP (fun j => (failureAfter (outcome? j)).isSome) =
      c.jobs.countP fun j => outcome? j ≠ some .passed := List.countP_congr fun j _ => by
    rw [Option.isSome_iff_ne_none, Ne, failureAfter_eq_none_iff, decide_eq_true_eq]
  rw [reconcile, Recorded.due]
  dsimp only
  rw [recordAll_arrivals hc hperm, fst_recordAll, hexpected, ← after, hfollows.finish hc, hcorpus,
    hcount Option.isNone, hcount Option.isSome, hpassed, hfailed]

/-! ## Writing back -/

/-- A call of a disk, with its answer. -/
inductive DiskCall where
  | wrote (p : Path) (t : Text)
  | refused (p : Path) (t : Text)
  | formatted (p : Path)
deriving DecidableEq, Repr

variable {ω : Type}

/-- Calls of a disk one after the other, from one world to another.  Those behind a refusal go
on from whatever it left. -/
inductive Disk.Calls (disk : Disk ω) : ω → List DiskCall → ω → Prop
  | nil {w : ω} : Calls disk w [] w
  | wrote {w w₁ w₂ : ω} {p : Path} {t : Text} {calls : List DiskCall} :
      disk.write p t w = (.ok (), w₁) → Calls disk w₁ calls w₂ →
        Calls disk w (.wrote p t :: calls) w₂
  | refused {w w₁ w₂ : ω} {p : Path} {t : Text} {e : FileError} {calls : List DiskCall} :
      disk.write p t w = (.error e, w₁) → Calls disk w₁ calls w₂ →
        Calls disk w (.refused p t :: calls) w₂
  | formatted {w w₂ : ω} {p : Path} {calls : List DiskCall} :
      Calls disk (disk.format p w) calls w₂ → Calls disk w (.formatted p :: calls) w₂

/-- The calls for one file: its lines are settled as its units ended and written, and formatting
comes behind a write that succeeds. -/
def SourceFile.calls (f : SourceFile) (ok : Bool) : List DiskCall :=
  let written := (settle f.units f.lines).flatten
  if ok then [.wrote f.path written, .formatted f.path] else [.refused f.path written]

/-- Every file is written once, in turn, whatever became of the files before it. -/
theorem writeAllBack_calls (disk : Disk ω) (fs : List SourceFile) (w : ω) :
    ∃ oks : List Bool, oks.length = fs.length ∧
      disk.Calls w (List.zipWith SourceFile.calls fs oks).flatten (writeAllBack disk fs w).1 ∧
      (writeAllBack disk fs w).2 = oks.count false := by
  induction fs generalizing w with
  | nil => exact ⟨[], rfl, .nil, rfl⟩
  | cons f fs ih =>
      rcases hwrite : disk.write f.path f.settled w with ⟨_ | ⟨⟩, w₁⟩
      case error e =>
        obtain ⟨oks, hlen, hcalls, hcount⟩ := ih w₁
        refine ⟨false :: oks, congrArg (· + 1) hlen, ?_, ?_⟩
        · rw [writeAllBack, writeFileBack, hwrite]
          exact .refused hwrite hcalls
        · rw [writeAllBack, writeFileBack, hwrite, List.count_cons_self, ← hcount]
      case ok =>
        obtain ⟨oks, hlen, hcalls, hcount⟩ := ih (disk.format f.path w₁)
        refine ⟨true :: oks, congrArg (· + 1) hlen, ?_, ?_⟩
        · rw [writeAllBack, writeFileBack, hwrite]
          exact .wrote hwrite (.formatted hcalls)
        · rw [writeAllBack, writeFileBack, hwrite]
          exact hcount

/-- What is written in a run, whatever is recorded. -/
theorem updateWith_calls (disk : Disk ω) {c : Corpus} {arrivals : List JobResult} (w : ω)
    {fs : List SourceFile} (hfiles : (reconcile c arrivals).corpus.files = fs) :
    ∃ oks : List Bool, oks.length = fs.length ∧
      disk.Calls w (List.zipWith SourceFile.calls fs oks).flatten
        (updateWith disk c arrivals w).world ∧
      (updateWith disk c arrivals w).writeFailures = oks.count false := by
  subst hfiles
  exact writeAllBack_calls disk (reconcile c arrivals).corpus.files w

/-- **A whole run.**  In whatever order the results of the jobs arrive, and whichever files the
disk refuses, the completions are numbered from one without a gap, the counts are those of the
jobs, and every file is written in turn with what its own jobs came to. -/
theorem updateWith_arrivals {c : Corpus} (hc : c.Reachable) (outcome? : Job → Option Outcome)
    {arrivals : List JobResult} (hperm : arrivals.Perm (resultsOf outcome? c.jobs))
    (disk : Disk ω) (w : ω) :
    let run := updateWith disk c arrivals w
    run.recorded = .due outcome? c arrivals ∧
      run.recorded.completions.map (·.index) =
        List.range' 1 (c.jobs.countP fun j => (outcome? j).isSome) ∧
      (∃ oks : List Bool, oks.length = c.files.length ∧
        disk.Calls w
          (List.zipWith SourceFile.calls (c.files.map (·.ended outcome?)) oks).flatten run.world ∧
        run.writeFailures = oks.count false) ∧
      ∀ f ∈ c.files, ∀ outcome?' : Job → Option Outcome,
        (∀ j ∈ f.jobs, outcome?' j = outcome? j) →
          (settle (f.ended outcome?').units f.lines).flatten =
            (settle (f.ended outcome?).units f.lines).flatten := by
  intro run
  have hrecorded : run.recorded = .due outcome? c arrivals := reconcile_arrivals hc.wellFormed hperm
  have hlength : arrivals.length = c.jobs.countP fun j => (outcome? j).isSome :=
    hperm.length_eq.trans (length_resultsOf outcome? c.jobs)
  refine ⟨hrecorded, ?_, ?_, fun f _ outcome?' h => ?_⟩
  · rw [hrecorded, ← hlength, Recorded.index_due]
  · obtain ⟨oks, hlen, hcalls, hcount⟩ :=
      updateWith_calls disk w (congrArg (·.corpus.files) hrecorded)
    exact ⟨oks, hlen.trans (List.length_map _), hcalls, hcount⟩
  · rw [SourceFile.ended_congr h]

/-- The results of the two files arrive the wrong way round, and the disk, which puts down every
call, refuses the file whose test timed out.  The other file loses its skip line. -/
theorem updateWith_arrivals_sample :
    let outcome? : Job → Option Outcome := fun j =>
      some (if j.key.path = ⟨text "lib/a.zig"⟩ then .passed else .timedOut)
    let arrivals := (resultsOf outcome? Corpus.sample.jobs).reverse
    let disk : Disk (List DiskCall) :=
      { write := fun p t w =>
          if p = ⟨text "lib/c.zig"⟩ then (.error .permission, .refused p t :: w)
          else (.ok (), .wrote p t :: w)
        format := fun p w => .formatted p :: w }
    let run := updateWith disk Corpus.sample arrivals []
    Corpus.sample.Reachable ∧ arrivals.Perm (resultsOf outcome? Corpus.sample.jobs) ∧
      run.recorded.completions =
        [⟨1, 2, text "one", some .timedOut⟩, ⟨2, 2, text "one", none⟩] ∧
      run.recorded.summary = ⟨2, 1, 1⟩ ∧
      run.writeFailures = 1 ∧
      run.world.reverse =
        [.wrote ⟨text "lib/a.zig"⟩ (text "test \"one\" \x7b\n\x7d\ntest \"two\" \x7b\n\x7d\n"),
          .formatted ⟨text "lib/a.zig"⟩, .refused ⟨text "lib/c.zig"⟩ Corpus.sampleText] := by
  intro outcome? arrivals disk run
  have hperm : arrivals.Perm (resultsOf outcome? Corpus.sample.jobs) := List.reverse_perm _
  obtain ⟨hrecorded, -⟩ := updateWith_arrivals Corpus.reachable_sample outcome? hperm disk []
  refine ⟨Corpus.reachable_sample, hperm, ?_, ?_, ?_⟩
  · rw [hrecorded]
    decide +kernel
  · rw [hrecorded]
    decide +kernel
  · decide +kernel

/-- The pool delivers so, when it has a worker and its executor knows all outcomes. -/
theorem updateCorpus_answering {c : Corpus} (hc : c.Reachable) (outcome? : Job → Option Outcome)
    {workers : Nat} (hworkers : 0 < workers) (disk : Disk ω) (w : Answered ω) :
    let delivery := Pool.run (.answering outcome?) workers c.jobs w
    let run := updateCorpus (.answering outcome?) workers disk.answering c w
    run.recorded = .due outcome? c delivery.1 ∧
      ∃ oks : List Bool, oks.length = c.files.length ∧
        disk.answering.Calls delivery.2
          (List.zipWith SourceFile.calls (c.files.map (·.ended outcome?)) oks).flatten run.world ∧
        run.writeFailures = oks.count false := by
  intro delivery run
  have hperm : delivery.1.Perm (resultsOf outcome? c.jobs) :=
    Pool.run_answering outcome? hworkers c.jobs w
  have hrecorded : run.recorded = .due outcome? c delivery.1 :=
    reconcile_arrivals hc.wellFormed hperm
  obtain ⟨oks, hlen, hcalls, hcount⟩ :=
    updateWith_calls disk.answering delivery.2 (congrArg (·.corpus.files) hrecorded)
  exact ⟨hrecorded, oks, hlen.trans (List.length_map _), hcalls, hcount⟩

end SkipAudit
