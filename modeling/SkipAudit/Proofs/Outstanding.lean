/-
# The report of outstanding tests

Nothing is run for the report: it counts the selected units of each file.  A run makes jobs of
them, and a tally waits for their keys.  Of a corpus that can come about all of these say the same
(`Accounted`):

    apart       no two jobs have one key
    pending     the keys of the jobs are what a tally waits for
    report      the total is the number of jobs
    counts      the number of a row is the number of jobs with its path, and not zero
    listed      every job has a row
    ascending   the rows ascend by number and then by path, without ties

The jobs of one file are found among all jobs by its path, since no other file has that path
(`Indexed.filter_jobs`).  For the same reason no two rows have one rank, and the report does not
depend on the order of the files (`Indexed.outstanding_eq_of_perm`).
-/
import SkipAudit.Run.Report
import SkipAudit.Proofs.Loading
import SkipAudit.Proofs.PathOrder
import SkipAudit.Proofs.Update

namespace SkipAudit

theorem Natural.total_perm {ms ns : List Nat} (h : ms.Perm ns) : total ms = total ns := by
  induction h with
  | nil => rfl
  | cons n _ ih => rw [total, total, ih]
  | swap m n ns => exact Nat.add_left_comm n m (total ns)
  | trans _ _ ih ih' => exact ih.trans ih'

namespace Corpus

/-! ## Jobs -/

theorem length_jobs (c : Corpus) : c.jobs.length = c.selectedCount := by
  rw [← length_selectedKeys, ← map_key_jobs, List.length_map]

theorem path_of_mem_jobs {f : SourceFile} {j : Job} (hj : j ∈ f.jobs) : j.key.path = f.path := by
  obtain ⟨u, -, rfl⟩ := List.mem_map.mp hj
  rfl

theorem length_jobs_file (f : SourceFile) : f.jobs.length = f.selectedCount := by
  rw [SourceFile.jobs, List.length_map, ← List.countP_eq_length_filter]
  rfl

theorem start_pending {c : Corpus} (h : c.WellFormed) :
    (Tally.start c).pending = c.jobs.map (·.key) := by
  rw [map_key_jobs]
  exact KeySet.ofKeys_eq h.pairwise_selectedKeys

theorem filter_jobs_of_other {p : Path} {gs : List SourceFile}
    (hgs : ∀ g ∈ gs, g.path.components ≠ p.components) :
    (gs.flatMap SourceFile.jobs).filter (·.key.path.same p) = [] := by
  refine List.filter_eq_nil_iff.mpr fun j hj hsame => ?_
  obtain ⟨g, hg, hjg⟩ := List.mem_flatMap.mp hj
  rw [path_of_mem_jobs hjg] at hsame
  exact hgs g hg (Path.same_iff.mp hsame)

/-- The jobs of a file are those with its path. -/
theorem Indexed.filter_jobs {c : Corpus} (h : c.Indexed) {f : SourceFile} (hf : f ∈ c.files) :
    c.jobs.filter (·.key.path.same f.path) = f.jobs := by
  obtain ⟨before, after, hfiles⟩ := List.append_of_mem hf
  have hapart : c.files.Pairwise fun g g' => g.path.components ≠ g'.path.components :=
    List.pairwise_map.mp h.nodup
  rw [hfiles] at hapart
  obtain ⟨-, hafter, hbefore⟩ := List.pairwise_append.mp hapart
  have hown : f.jobs.filter (·.key.path.same f.path) = f.jobs := by
    refine List.filter_eq_self.mpr fun j hj => ?_
    rw [path_of_mem_jobs hj]
    exact Path.same_iff.mpr rfl
  have hnone := filter_jobs_of_other fun g hg => hbefore g hg f List.mem_cons_self
  have hnone' := filter_jobs_of_other fun g hg => (List.rel_of_pairwise_cons hafter hg).symm
  rw [jobs, hfiles, List.flatMap_append, List.flatMap_cons, List.filter_append, List.filter_append,
    hnone, hown, hnone', List.nil_append, List.append_nil]

/-! ## Rows -/

/-- The rows of the report, in the order of the files. -/
def rows (fs : List SourceFile) : List (Path × Nat) :=
  (fs.map fun f => (f.path, f.selectedCount)).filter (0 < ·.2)

theorem outstanding_perm (c : Corpus) : c.outstanding.Perm (rows c.files) :=
  List.mergeSort_perm _ _

theorem mem_outstanding {c : Corpus} {row : Path × Nat} :
    row ∈ c.outstanding ↔ ∃ f ∈ c.files, (f.path, f.selectedCount) = row ∧ 0 < row.2 := by
  rw [(outstanding_perm c).mem_iff, rows, List.mem_filter, List.mem_map, decide_eq_true_iff]
  constructor
  · rintro ⟨⟨f, hf, hrow⟩, hpos⟩
    exact ⟨f, hf, hrow, hpos⟩
  · rintro ⟨f, hf, hrow, hpos⟩
    exact ⟨⟨f, hf, hrow⟩, hpos⟩

/-- Files that are left out add nothing to the total. -/
theorem total_rows (fs : List SourceFile) :
    Natural.total ((rows fs).map (·.2)) = Natural.total (fs.map SourceFile.selectedCount) := by
  induction fs with
  | nil => rfl
  | cons f fs ih =>
      rw [rows, List.map_cons, List.filter_cons, List.map_cons, Natural.total, ← ih]
      split
      · rfl
      · rename_i hzero
        have hcount : f.selectedCount = 0 := by simpa using hzero
        rw [hcount, Nat.zero_add]
        rfl

theorem total_outstanding (c : Corpus) :
    Natural.total (c.outstanding.map (·.2)) = c.jobs.length := by
  rw [length_jobs, selectedCount, ← total_rows]
  exact Natural.total_perm ((outstanding_perm c).map _)

theorem Indexed.pairwise_rows {c : Corpus} (h : c.Indexed) :
    (rows c.files).Pairwise fun a b => rowRank a ≠ rowRank b := by
  refine (List.pairwise_map.mpr ?_).filter _
  refine (List.pairwise_map.mp h.nodup).imp ?_
  intro f g hfg hrank
  have hpath : f.path.rank = g.path.rank := congrArg (fun r => (ofLex r).2) hrank
  exact hfg (Path.same_iff.mp (Path.rank_eq_iff.mp hpath))

theorem Indexed.pairwise_outstanding {c : Corpus} (h : c.Indexed) :
    c.outstanding.Pairwise fun a b => a.2 < b.2 ∨ a.2 = b.2 ∧ a.1.Before b.1 := by
  have hlt := pairwise_lt_mergeSort reportLe_iff h.pairwise_rows
  exact hlt.imp rowRank_lt_iff.mp

/-- The same files in another order have the same report. -/
theorem Indexed.outstanding_eq_of_perm {c c' : Corpus} (h : c.Indexed)
    (hperm : c.files.Perm c'.files) : c.outstanding = c'.outstanding :=
  mergeSort_eq_of_perm reportLe_iff h.pairwise_rows ((hperm.map _).filter _)

/-! ## The report and the run -/

/-- The report of a corpus agrees with what a run executes. -/
structure Accounted (c : Corpus) : Prop where
  /-- No two jobs have one key. -/
  apart : c.jobs.Pairwise fun i j => i.key.same j.key = false
  /-- A tally waits for the keys of the jobs. -/
  pending : (Tally.start c).pending = c.jobs.map (·.key)
  /-- It expects as many results as there are jobs. -/
  expected : (Tally.start c).expected = c.jobs.length
  /-- As many units are selected. -/
  selected : c.selectedCount = c.jobs.length
  /-- The report has a line for each row, and the number of jobs as its total. -/
  report : Report.outstandingText c.outstanding =
    c.outstanding.flatMap
        (fun row => Text.ofNat row.2 ++ text " " ++ row.1.shown ++ text "\n") ++
      text "total: " ++ Text.ofNat c.jobs.length
  /-- The number of a row is the number of the jobs with its path. -/
  counts : ∀ row ∈ c.outstanding,
    0 < row.2 ∧ row.2 = c.jobs.countP fun j => j.key.path.same row.1
  /-- Every job has a row. -/
  listed : ∀ j ∈ c.jobs, ∃ n, (j.key.path, n) ∈ c.outstanding
  /-- Rows ascend by number, then by path. -/
  ascending : c.outstanding.Pairwise fun a b => a.2 < b.2 ∨ a.2 = b.2 ∧ a.1.Before b.1

theorem WellFormed.accounted {c : Corpus} (h : c.WellFormed) : Accounted c := by
  refine ⟨h.pairwise_jobs, start_pending h, ?_, (length_jobs c).symm, ?_, ?_, ?_,
    h.toIndexed.pairwise_outstanding⟩
  · rw [(Tally.follows_start h).expected, length_jobs]
  · rw [Report.outstandingText, total_outstanding]
  · intro row hrow
    obtain ⟨f, hf, rfl, hpos⟩ := mem_outstanding.mp hrow
    refine ⟨hpos, ?_⟩
    rw [List.countP_eq_length_filter, h.toIndexed.filter_jobs hf, length_jobs_file]
  · intro j hj
    obtain ⟨f, hf, hjf⟩ := List.mem_flatMap.mp hj
    rw [path_of_mem_jobs hjf]
    refine ⟨f.selectedCount, mem_outstanding.mpr ⟨f, hf, rfl, ?_⟩⟩
    rw [← length_jobs_file]
    exact List.length_pos_of_mem hjf

/-- **The report agrees with what a run executes.**  It does so for every corpus that can come
about, and it does not depend on the order of the files. -/
theorem report_accounts :
    (∀ c : Corpus, c.Reachable → Accounted c) ∧
    (∀ c c' : Corpus, c.Reachable → c.files.Perm c'.files → c'.outstanding = c.outstanding) ∧
    ∀ fs fs' : List SourceFile, (fs.Pairwise fun f g => f.path.same g.path = false) →
      fs.Perm fs' → (ofFiles fs').outstanding = (ofFiles fs).outstanding := by
  refine ⟨?_, ?_, ?_⟩
  · intro c hc
    exact hc.wellFormed.accounted
  · intro c c' hc hperm
    exact (hc.wellFormed.toIndexed.outstanding_eq_of_perm hperm).symm
  · intro fs fs' hfs hperm
    have hfs' : fs'.Pairwise fun f g => f.path.same g.path = false :=
      (hperm.pairwise_iff fun h => (Path.same_comm _ _).trans h).mp hfs
    have hfiles : (ofFiles fs).files.Perm (ofFiles fs').files := by
      rw [files_ofFiles hfs, files_ofFiles hfs']
      exact hperm
    exact ((indexed_ofFiles fs).outstanding_eq_of_perm hfiles).symm

/-- Two files with an outstanding test each, forwards and backwards. -/
theorem report_accounts_sample :
    (Tally.start sample).expected = 2 ∧
      (∃ lines, Report.outstandingText sample.outstanding = lines ++ text "total: 2") ∧
      (∀ row ∈ sample.outstanding, 0 < row.2) ∧
      (Corpus.mk sample.files.reverse []).outstanding = sample.outstanding ∧
      (ofFiles sample.files.reverse).outstanding = (ofFiles sample.files).outstanding := by
  obtain ⟨haccounted, hperm, hpush⟩ := report_accounts
  have h := haccounted sample reachable_sample
  have hjobs : sample.jobs.length = 2 := by decide +kernel
  have hreport := h.report
  rw [hjobs, List.append_assoc] at hreport
  have hreverse := (List.reverse_perm sample.files).symm
  exact ⟨h.expected.trans hjobs, ⟨_, hreport⟩, fun row hrow => (h.counts row hrow).1,
    hperm _ _ reachable_sample hreverse, hpush _ _ (by decide +kernel) hreverse⟩

end Corpus

end SkipAudit
