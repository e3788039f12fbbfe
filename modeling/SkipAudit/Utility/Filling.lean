/-
The program that fills the lines of paragraphs anew.

Where a paragraph is broken into lines is chosen so that the cost of all lines together is least:
the cost of a line grows with the square of what it lacks to the wished width, and is changed by
what stands at its ends.
-/
import SkipAudit.Utility.Copying

namespace SkipAudit.Utility

namespace Filling

/-- A word of a paragraph. -/
structure Word where
  letters : Octets
  /-- How many blanks follow it. -/
  space : Nat
  /-- It begins with a bracket or a quotation mark. -/
  opens : Bool
  /-- It ends like a sentence. -/
  hasPeriod : Bool
  /-- It ends in a mark. -/
  hasMark : Bool
  /-- It ends a sentence. -/
  isFinal : Bool
deriving Inhabited

/-- How the second and the later lines of a paragraph are indented. -/
inductive Manner where
  | plain
  /-- Each line is filled for itself. -/
  | split
  /-- As the second line is. -/
  | crown
  /-- As the second line is, which differs from the first one. -/
  | tagged
deriving DecidableEq

/-- The settings. -/
structure Settings where
  manner : Manner
  isUniform : Bool
  /-- Lines are shorter than this. -/
  width : Nat
  goal : Nat
  prefixLead : Nat
  mark : Octets
  markWidth : Nat

/-- Where reading and writing stand. -/
structure State where
  rest : Octets
  /-- The column of what is left of the line. -/
  column : Nat
  /-- Where the mark of the line stands. -/
  markIndent : Nat
  usesTabs : Bool
  otherIndent : Nat
  /-- What is written, the last part first. -/
  out : List Octets

/-! ## Reading -/

/-- Skip blanks. -/
def skipBlanks (column : Nat) (usesTabs : Bool) : Octets → Nat × Bool × Octets
  | ' ' :: t => skipBlanks (column + 1) usesTabs t
  | '\t' :: t => skipBlanks ((column / 8 + 1) * 8) true t
  | t => (column, usesTabs, t)

/-- Skip blanks at the place that is reached. -/
def State.pastBlanks (s : State) : State :=
  let (column, usesTabs, rest) := skipBlanks s.column s.usesTabs s.rest
  { s with column, usesTabs, rest }

/-- Skip a mark as far as it stands there; whether all of it does is told. -/
def skipMark : Octets → Octets → Nat × Bool × Octets
  | [], t => (0, true, t)
  | m :: ms, c :: t =>
      if m = c then
        let (n, all, rest) := skipMark ms t
        (n + 1, all, rest)
      else (0, false, c :: t)
  | _ :: _, [] => (0, false, [])

/-- Read what stands in front of a line. -/
def Settings.begin (k : Settings) (s : State) : State :=
  let s := { s with column := 0 }.pastBlanks
  if k.mark = [] then { s with markIndent := min k.prefixLead s.column }
  else
    let (n, all, rest) := skipMark k.mark s.rest
    let t := { s with markIndent := s.column, column := s.column + n, rest }
    if all then t.pastBlanks else t

/-- The line goes on where a paragraph may. -/
def isEnd (t : Octets) : Bool := t = [] || t.head? = some '\n'

/-- The line belongs to the paragraph that is marked at some column. -/
def Settings.isSame (k : Settings) (markIndent : Nat) (s : State) : Bool :=
  s.markIndent = markIndent && markIndent + k.markWidth ≤ s.column && !isEnd s.rest

/-- A word with what its letters tell. -/
def wordOf (letters : Octets) : Word :=
  let back := letters.reverse
  let last := back.headD ' '
  let core := match back.dropWhile fun c => ")]'\"".contains c with
    | [] => letters.headD ' '
    | c :: _ => c
  ⟨letters, 0, (letters.head?.map fun c => "(['\x60\"".contains c).getD false, ".?!".contains core,
    32 < last.toNat && last.toNat < 127 && !last.isAlphanum, false⟩

/-- A character that ends a word. -/
def isGap (c : Char) : Bool := c = ' ' || ('\t' ≤ c && c ≤ '\r')

/-- Read the words of a line, and what stands in front of the next line; the number bounds how
many words there are. -/
def Settings.lineWords (k : Settings) : Nat → State → List Word × State
  | 0, s => ([], s)
  | n + 1, s =>
      let letters := (s.rest.headD ' ') :: (s.rest.drop 1).takeWhile (!isGap ·)
      let w := wordOf letters
      let start := s.column + letters.length
      let s := { s with column := start, rest := s.rest.drop letters.length }.pastBlanks
      let space := s.column - start
      let stops := isEnd s.rest
      let isFinal := s.rest = [] || (w.hasPeriod && (s.rest.head? = some '\n' || 1 < space))
      let space := if stops || k.isUniform then (if isFinal then 2 else 1) else space
      let w := { w with space, isFinal }
      if stops then ([w], k.begin { s with rest := s.rest.drop 1 })
      else
        let (ws, s) := k.lineWords n s
        (w :: ws, s)

/-- Read lines as long as they stand at a column; the number bounds how many. -/
def Settings.moreLines (k : Settings) (markIndent : Nat) : Nat → State → List Word × State
  | 0, s => ([], s)
  | n + 1, s =>
      if k.isSame markIndent s && s.column = s.otherIndent then
        let (ws, s) := k.lineWords s.rest.length s
        let (more, s) := k.moreLines markIndent n s
        (ws ++ more, s)
      else ([], s)

/-! ## Costs -/

/-- The square of a number. -/
def square (n : Int) : Int := n * n

/-- The cost of a line so much shorter or longer than another. -/
def ragged (n : Int) : Int := square (n * 10) / 2

/-- The cost of a line that begins with a word, by the two words in front of it. -/
def baseCost (before? beforeThat? : Option Word) (w : Word) : Int :=
  let fromBefore : Int := match before? with
    | none => 0
    | some b =>
        if b.hasPeriod then (if b.isFinal then -square 50 else square 600)
        else if b.hasMark then -square 40
        else match beforeThat? with
          | some a => if a.isFinal then square 200 / ((b.letters.length : Int) + 2) else 0
          | none => 0
  let fromOwn : Int :=
    if w.opens then -square 40
    else if w.isFinal then square 150 / ((w.letters.length : Int) + 2)
    else 0
  square 70 + fromBefore + fromOwn

/-- The best way to go on from a word: the word behind the line, how long the line is, and the
cost of all from here. -/
structure Plan where
  next : Nat
  length : Nat
  cost : Int
deriving Inhabited

/-- The best line from a word on.  `i` is the word behind what has been put on it, `length` how
long that is; the number bounds how many words may follow. -/
def bestLine (k : Settings) (words : Array Word) (plans : Nat → Plan) :
    Nat → Nat → Nat → Option Plan → Option Plan
  | 0, _, _, best? => best?
  | n + 1, i, length, best? =>
      let isEnd := words.size ≤ i
      let missing : Int := (k.goal : Int) - length
      let lineCost : Int :=
        if isEnd then 0
        else
          square (missing * 10) +
            (if (plans i).next < words.size then ragged ((length : Int) - (plans i).length) else 0)
      let cost := lineCost + (if isEnd then 0 else (plans i).cost)
      let best? := match best? with
        | some b => if cost < b.cost then some ⟨i, length, cost⟩ else some b
        | none => some ⟨i, length, cost⟩
      if isEnd then best?
      else
        let length := length + (words[i - 1]!).space + (words[i]!).letters.length
        if length < k.width then bestLine k words plans n (i + 1) length best? else best?

/-- The plans for all words from the last one to the first; `done` are those that are known. -/
def plansFrom (k : Settings) (words : Array Word) (first other : Nat) :
    Nat → List Plan → List Plan
  | 0, done => done
  | start + 1, done =>
      let table := done.toArray
      let plans (i : Nat) : Plan := (table[i - (start + 1)]?).getD ⟨words.size, 0, 0⟩
      let w := words[start]!
      let indent := if start = 0 then first else other
      let best := (bestLine k words plans (words.size + 1) (start + 1)
        (indent + w.letters.length) none).getD ⟨start + 1, 0, 0⟩
      let before? := if 1 ≤ start then words[start - 1]? else none
      let beforeThat? := if 2 ≤ start then words[start - 2]? else none
      plansFrom k words first other start
        ({ best with cost := best.cost + baseCost before? beforeThat? w } :: done)

/-! ## Writing -/

/-- So many blanks from a column on, with tabs among them. -/
def blanks (usesTabs : Bool) (column space : Nat) : Octets :=
  let target := column + space
  let tabTarget := target / 8 * 8
  if usesTabs && column + 1 < tabTarget then
    List.replicate ((tabTarget - column + 7) / 8) '\t' ++ List.replicate (target - tabTarget) ' '
  else List.replicate space ' '

/-- The words of a line, behind a column. -/
def wordsText (usesTabs : Bool) (column : Nat) : List Word → Octets
  | [] => []
  | [w] => w.letters
  | w :: ws =>
      let column := column + w.letters.length
      w.letters ++ blanks usesTabs column w.space ++ wordsText usesTabs (column + w.space) ws

/-- A line of a paragraph. -/
def lineText (k : Settings) (usesTabs : Bool) (markIndent indent : Nat) (ws : List Word) : Octets :=
  let column := markIndent + k.mark.length
  blanks usesTabs 0 markIndent ++ k.mark ++ blanks usesTabs column (indent - column) ++
    wordsText usesTabs (max column indent) ws ++ ['\n']

/-- The lines of a paragraph from a word on; the number bounds how many. -/
def paragraphLines (k : Settings) (usesTabs : Bool) (markIndent first other : Nat)
    (words : Array Word) (plans : Array Plan) : Nat → Nat → List Octets
  | 0, _ => []
  | n + 1, i =>
      if words.size ≤ i then []
      else
        let next := max (i + 1) (plans[i]!).next
        lineText k usesTabs markIndent (if i = 0 then first else other)
            ((words.toList.take next).drop i) ::
          paragraphLines k usesTabs markIndent first other words plans n next

/-- Write what is left of a line that belongs to no paragraph. -/
def copiedLine (k : Settings) (s : State) : Octets × Octets :=
  let content := s.rest.takeWhile (· ≠ '\n')
  let stops := isEnd s.rest
  let front : Octets :=
    if s.markIndent < s.column || !stops then
      let lead := blanks s.usesTabs 0 s.markIndent
      let mark := k.mark.take (s.column - s.markIndent)
      lead ++ mark ++ (if stops then [] else
        blanks s.usesTabs (s.markIndent + mark.length) (s.column - s.markIndent - mark.length)) ++
        (if s.rest = [] && s.markIndent + k.mark.length ≤ s.column then ['\n'] else [])
    else []
  (front ++ content, s.rest.drop content.length)

/-- The indentation of the lines behind the first one. -/
def otherIndentFor (k : Settings) (isSame : Bool) (first : Nat) (s : State) : Nat :=
  match k.manner with
  | .split | .plain => first
  | .crown => if isSame then s.column else first
  | .tagged =>
      if isSame && s.column ≠ first then s.column
      else if s.otherIndent = first then (if first = 0 then 3 else 0)
      else s.otherIndent

/-- Fill one paragraph after the other; the number bounds how many lines there are. -/
def paragraphs (k : Settings) : Nat → State → List Octets
  | 0, s => s.out
  | n + 1, s =>
      if isEnd s.rest || s.markIndent < k.prefixLead ||
          s.column < s.markIndent + k.markWidth then
        let (t, rest) := copiedLine k s
        match rest with
        | [] => t :: s.out
        | _ :: rest =>
            paragraphs k n (k.begin { s with rest, out := ['\n'] :: t :: s.out })
      else
        let markIndent := s.markIndent
        let first := s.column
        let (ws, s) := k.lineWords s.rest.length s
        let isSame := k.isSame markIndent s
        let s := { s with otherIndent := otherIndentFor k isSame first s }
        let size := s.rest.length + 1
        let (more, s) := match k.manner with
          | .split => ([], s)
          | .plain => k.moreLines markIndent size s
          | .crown | .tagged =>
              if isSame && (k.manner = Manner.crown || s.column ≠ first) then
                let (ws, s) := k.lineWords s.rest.length s
                let (more, s) := k.moreLines markIndent size s
                (ws ++ more, s)
              else ([], s)
        let all := ws ++ more
        let all := all.dropLast ++
          (all.getLast?.map fun w => { w with hasPeriod := true, isFinal := true }).toList
        let words := all.toArray
        let plans := (plansFrom k words first s.otherIndent words.size []).toArray
        let lines := paragraphLines k s.usesTabs markIndent first s.otherIndent words plans
          words.size 0
        paragraphs k n { s with out := lines.reverse ++ s.out }

/-- Fill the paragraphs of a text. -/
def filled (k : Settings) (t : Octets) : Octets :=
  let s := k.begin ⟨t, 0, 0, false, 0, []⟩
  (paragraphs k (t.length + 2) s).reverse.flatten

/-- The widest line. -/
def widest : Nat := 2500

end Filling

open Filling in
/-- Fill the lines of paragraphs anew. -/
def fmt : Utility := fun c => do
  let (old?, args) := match c.args with
    | ('-' :: d :: ds) :: args =>
        if d.isDigit then (some (d :: ds), args) else (none, c.args)
    | args => (none, args)
  withOptions 1 "0123456789cstuw:p:g:"
    [("crown-margin", 'c', .none), ("prefix", 'p', .needed), ("split-only", 's', .none),
     ("tagged-paragraph", 't', .none), ("uniform-spacing", 'u', .none), ("width", 'w', .needed),
     ("goal", 'g', .needed)] { c with args } fun p => do
    match p.options.find? (·.1.isDigit) with
    | some (d, _) =>
        c.misuse 1 (text "invalid option -- " ++ d :: text (
          "; -WIDTH is recognized only when it " ++
          "is the first\noption; use -w N instead"))
    | none => pure ()
    let width? := (p.value? 'w').or old?
    let width ← match width? with
      | some t => countOr 1 c "invalid width" "" 0 widest t
      | none => pure 75
    let (goal, width) ← match p.value? 'g' with
      | some t => do
          let goal ← countOr 1 c "invalid width" "" 0 width t
          pure (goal, if width?.isSome then width else goal + 10)
      | none => pure (width * 187 / 200, width)
    let spelled := (p.value? 'p').getD []
    let lead := (spelled.takeWhile (· = ' ')).length
    let full := spelled.drop lead
    let mark := (full.reverse.dropWhile (· = ' ')).reverse
    let manner : Manner := if p.has 's' then .split else if p.has 'c' then .crown
      else if p.has 't' then .tagged else .plain
    let k : Settings := ⟨manner, p.has 'u', width, goal, lead, mark, full.length⟩
    (inputsOr p.rest).foldlM (fun status file => do
      match ← openInput file with
      | .error e =>
          c.warn (text "cannot open " ++ c.quoted file ++ text " for reading: " ++ e.reason)
          return 1
      | .ok fd =>
          let found ← Action.readAll fd
          closeInput fd
          match found with
          | .ok t =>
              say c (filled k t)
              return status
          | .error e =>
              c.warn (if file = ['-'] then text "read error: " ++ e.reason
                else text "error reading " ++ c.quoted file ++ text ": " ++ e.reason)
              return 1) 0

end SkipAudit.Utility
