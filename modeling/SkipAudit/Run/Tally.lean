/-
Putting results where they belong.

Results come back in any order, may be missing, and could be strays or repeats.  A tally
holds the corpus and the keys of the tests that are still to be heard of.  A result is recorded
once, in the unit it names; what is missing at the end counts as a harness error, so that the
test keeps its skip line.
-/
import SkipAudit.Corpus.Basic

namespace SkipAudit

/-- A set of tests, by key. -/
abbrev KeySet := List UnitKey

namespace KeySet

/-- The key is in the set, in some spelling. -/
def has (s : KeySet) (k : UnitKey) : Bool := s.any (·.same k)

/-- The set with a key. -/
def insert (s : KeySet) (k : UnitKey) : KeySet := if has s k then s else s ++ [k]

/-- The set without a key. -/
def erase (s : KeySet) (k : UnitKey) : KeySet := s.filter (!·.same k)

/-- The set of some keys. -/
def ofKeys (ks : List UnitKey) : KeySet := ks.foldl insert []

end KeySet

/-- A result that belongs to no test that is waited for. -/
inductive RecordError where
  | unknownFile (path : Path)
  | unknownUnit (key : UnitKey)
  /-- The test was not selected, or its result is here already. -/
  | unexpected (key : UnitKey)
deriving DecidableEq, Repr

/-- The wording of a rejected result; lines are counted from one. -/
def RecordError.message : RecordError → Text
  | .unknownFile p => text "result for file not in corpus: " ++ p.shown
  | .unknownUnit k =>
      text "no test declared on line " ++ Text.ofNat (k.declIndex + 1) ++ text " of " ++
        k.path.shown
  | .unexpected k =>
      text "unexpected result for line " ++ Text.ofNat (k.declIndex + 1) ++ text " of " ++
        k.path.shown

/-- The counts of a finished run. -/
structure Summary where
  total : Nat
  passed : Nat
  failed : Nat
deriving DecidableEq, Repr

/-- A run that is going on. -/
structure Tally where
  corpus : Corpus
  /-- The tests whose results are still to come. -/
  pending : KeySet
  /-- How many results there will be. -/
  expected : Nat
  passed : Nat
  failed : Nat
deriving DecidableEq, Repr

namespace Tally

/-- The keys of the selected units of a corpus, file by file. -/
def selectedKeys (c : Corpus) : List UnitKey :=
  c.files.flatMap fun f => (f.units.filter (·.selected)).map f.keyOf

/-- Wait for one result for every selected unit. -/
def start (c : Corpus) : Tally :=
  let pending := KeySet.ofKeys (selectedKeys c)
  ⟨c, pending, pending.length, 0, 0⟩

/-- How many results have been recorded. -/
def completed (t : Tally) : Nat := t.passed + t.failed

/-- The corpus with a failure, or none, set on one unit. -/
def setFailure (c : Corpus) (k : UnitKey) (f? : Option Failure) : Corpus :=
  c.modifyFile k.path (·.modifyUnit k.declIndex ({ · with failure := f? }))

/-- Record a result, or tell why it belongs nowhere. -/
def record (t : Tally) (r : JobResult) : Except RecordError Tally :=
  match t.corpus.file? r.key.path with
  | none => .error (.unknownFile r.key.path)
  | some f =>
      if !f.hasUnit r.key.declIndex then .error (.unknownUnit r.key)
      else if !t.pending.has r.key then .error (.unexpected r.key)
      else
        let failure? := r.outcome.failure?
        .ok { t with
          corpus := setFailure t.corpus r.key failure?
          pending := t.pending.erase r.key
          passed := if failure?.isNone then t.passed + 1 else t.passed
          failed := if failure?.isNone then t.failed else t.failed + 1 }

/-- Record a result, or leave everything as it is. -/
def recordOrDiscard (t : Tally) (r : JobResult) : Tally :=
  match t.record r with
  | .ok t' => t'
  | .error _ => t

/-- End the run: tests not heard of are harness errors. -/
def finish (t : Tally) : Corpus × Summary :=
  let failed := t.failed + t.pending.length
  (t.pending.foldl (fun c k => setFailure c k (some .harnessError)) t.corpus,
   ⟨t.passed + failed, t.passed, failed⟩)

end Tally

end SkipAudit
