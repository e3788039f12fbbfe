/-
The expansion of words.

Segments are expanded from left to right, with all that their commands do.  Where a word may
become several fields, the result is cut at the separators and matched with the names of files;
elsewhere it is one text.
-/
import SkipAudit.Shell.Arithmetic
import SkipAudit.Shell.Field
import SkipAudit.Shell.Run

namespace SkipAudit.Shell

/-- In which surroundings a word is expanded. -/
structure Surroundings where
  /-- It may become several fields. -/
  splits : Bool
  /-- A tilde at the beginning stands for a home directory. -/
  tilde : Bool
  /-- So does one behind the equals sign and behind colons. -/
  assigns : Bool
  /-- It is the word of a parameter, so its own text is cut as well. -/
  isInner : Bool
  /-- It stands between quotation marks. -/
  quoted : Bool
deriving DecidableEq, Repr

namespace Surroundings

def argument : Surroundings := ⟨true, true, false, false, false⟩
def text : Surroundings := ⟨false, true, false, false, false⟩
def assignment : Surroundings := ⟨false, false, true, false, false⟩
def document : Surroundings := ⟨false, false, false, false, true⟩

end Surroundings

/-- The value of a parameter. -/
inductive ParameterValue where
  | scalar (t : Octets)
  | list (ts : List Octets)
deriving DecidableEq, Repr

namespace Expansion

open Run

/-! ## Tildes -/

/-- The home directory that a name between a tilde and a slash stands for. -/
def home? (home? : Option Octets) (user : Octets) : Option Octets :=
  if user = [] then home?.filter (· ≠ [])
  else if user = SkipAudit.text "root" then some (SkipAudit.text "/root")
  else none

/-- Cut a text at its tildes: pieces that are home directories, and pieces of the text itself.
`mayStart`: a tilde may stand here; `assigns`: also behind the first equals sign and behind
colons; `isFollowed`: the text is not the whole rest of the word. -/
def tildes (h? : Option Octets) (assigns isFollowed : Bool) :
    Nat → Bool → Bool → Octets → List (Bool × Octets)
  | 0, _, _, t => [(false, t)]
  | _ + 1, _, _, [] => []
  | n + 1, mayStart, sawEquals, c :: t =>
      let user := t.takeWhile fun d => d != '/' && (!assigns || d != ':')
      let rest := t.drop user.length
      let dir? := if c = '~' && mayStart && (rest ≠ [] || !isFollowed) then home? h? user else none
      match dir? with
      | some dir => (true, dir) :: tildes h? assigns isFollowed n false sawEquals rest
      | none =>
          let opens := assigns && ((c = '=' && !sawEquals) || c = ':')
          let later := tildes h? assigns isFollowed n opens (sawEquals || c = '=') t
          match later with
          | (false, u) :: later => (false, c :: u) :: later
          | later => (false, [c]) :: later

/-! ## Parameters -/

/-- The text between joined arguments. -/
def joint : Run Octets := do
  match (← get).get? Session.separatorsName with
  | none => return [' ']
  | some t => return t.take 1

/-- The value of a parameter, if it has one. -/
def valueOf (name : Octets) : Run (Option ParameterValue) := do
  let s ← get
  let scalar := fun (t : Octets) => some (ParameterValue.scalar t)
  match name with
  | ['@'] | ['*'] => return some (.list s.arguments)
  | ['#'] => return scalar (Text.ofNat s.arguments.length)
  | ['?'] => return scalar (Text.ofNat s.status)
  | ['$'] => return scalar (Text.ofNat s.pid)
  | ['!'] => return s.lastJob.map fun n => .scalar (Text.ofNat n)
  | ['-'] => return scalar s.optionLetters
  | _ =>
      match Text.toNat? name with
      | some 0 => return scalar s.name
      | some n => return (s.arguments[n - 1]?).map .scalar
      | none => return (s.get? name).map .scalar

/-- The text of a value. -/
def textOfValue : ParameterValue → Run Octets
  | .scalar t => return t
  | .list ts => do return (List.intersperse (← joint) ts).flatten

/-- The chunks that a value makes. -/
def chunksOf (m : Surroundings) (isAll quoted : Bool) (v : ParameterValue) :
    Run (List Chunk) := do
  match v with
  | .scalar t => return [if quoted then .fixed t true else .split [t]]
  | .list ts =>
      if m.splits && !quoted then return [.split ts]
      else if m.splits && isAll then return [.separate ts]
      else
        let t ← textOfValue v
        return [if quoted then .fixed t true else .split [t]]

/-- Complain of a parameter that has no value. -/
def failUnset {α : Type} (name : Octets) : Run α := fail (name ++ text ": parameter not set")

/-- The value is missing. -/
def isMissing (orEmpty : Bool) (v? : Option ParameterValue) : Run Bool := do
  match v? with
  | none => return true
  | some v => return orEmpty && (← textOfValue v) = []

/-! ## Arithmetic -/

/-- The variables of expressions are those of the shell. -/
def arithmeticVariables (source : Octets) : Arithmetic.Variables Run where
  value name := do
    let t := ((← get).get? name).getD []
    match Signed64.ofValue? t with
    | some n => return n
    | none => fail (text "Illegal number: " ++ t)
  assign name n := Run.assign name (Text.ofInt n)
  cannotDivide divisor := do
    if divisor ≠ 0 then
      let _ ← act (Action.dieOf Signal.ofArithmetic)
    fail (text "arithmetic expression: division by zero: \"" ++ source ++ text "\"")

/-- The value of an arithmetic expression. -/
def arithmetic (source : Octets) : Run Int := do
  match Arithmetic.read source with
  | .ok e => e.eval (arithmeticVariables source)
  | .error message =>
      fail (text "arithmetic expression: " ++ text message ++ text ": \"" ++ source ++ ['"'])

/-! ## Commands -/

/-- What a command writes, without the newlines at its end. -/
def output (e : Evaluator) : Option Command → Run Octets
  | none => return []
  | some c => do
      let (source, sink) ← openPipe
      let pid ← fork e do
        let _ ← ask (.close source)
        if sink ≠ 1 then
          let _ ← ask (.duplicate sink 1)
          let _ ← ask (.close sink)
        e.command .last c
      let _ ← ask (.close sink)
      let found ← act (Action.readAll source)
      let _ ← ask (.close source)
      let status ← waitForAll [pid]
      modify ({ · with outputStatus := status })
      let t := (found.toOption.getD []).filter (·.toNat ≠ 0)
      return (t.reverse.dropWhile (· == '\n')).reverse

/-! ## Words -/

/-- Expanding words inside of words. -/
abbrev Expander := Surroundings → Word → Run (List Chunk)

/-- Expand a parameter. -/
def parameter (inner : Expander) (m : Surroundings) (quoted : Bool) (name : Octets) (use : Use) :
    Run (List Chunk) := do
  let v? ← valueOf name
  let isAll := name = ['@']
  let strict := (← get).has 'u'
  let ofWord (w : Word) :=
    inner { m with tilde := true, assigns := false, isInner := true, quoted } w
  match use with
  | .value =>
      match v? with
      | some v => chunksOf m isAll quoted v
      | none => if strict then failUnset name else chunksOf m isAll quoted (.scalar [])
  | .length =>
      match v? with
      | some v => chunksOf m isAll quoted (.scalar (Text.ofNat (← textOfValue v).length))
      | none => if strict then failUnset name else chunksOf m isAll quoted (.scalar ['0'])
  | .fallback .instead orEmpty w =>
      if ← isMissing orEmpty v? then ofWord w else chunksOf m isAll quoted (v?.getD (.scalar []))
  | .fallback .ifPresent orEmpty w =>
      if ← isMissing orEmpty v? then return [] else ofWord w
  | .fallback .assigned orEmpty w =>
      if ← isMissing orEmpty v? then
        let chunks ← inner { Surroundings.text with quoted } w
        let t := textOf (← joint) chunks
        if isName name then Run.assign name t else fail (name ++ text ": bad variable name")
        chunksOf m isAll quoted (.scalar t)
      else chunksOf m isAll quoted (v?.getD (.scalar []))
  | .fallback .demanded orEmpty w =>
      if ← isMissing orEmpty v? then
        if w.isEmpty then
          fail (name ++ text ": parameter not set" ++ (if orEmpty then text " or null" else []))
        else
          let chunks ← inner { Surroundings.text with quoted } w
          fail (name ++ text ": " ++ textOf (← joint) chunks)
      else chunksOf m isAll quoted (v?.getD (.scalar []))
  | .trimmed side longest w =>
      match v? with
      | none => if strict then failUnset name else chunksOf m isAll quoted (.scalar [])
      | some v =>
          let t ← textOfValue v
          let chunks ← inner Surroundings.text w
          let p := patternOf (← joint) chunks
          let t := match side with
            | .front => p.dropFront longest t
            | .back => p.dropBack longest t
          chunksOf m isAll quoted (.scalar t)
  | .invalid => fail (text "Bad substitution")

/-- A word on the way. -/
structure State where
  chunks : List Chunk
  inQuotes : Bool
  mayStart : Bool
  sawEquals : Bool
  rest : Word

/-- Expand plain characters. -/
def plain (m : Surroundings) (s : State) (t : Octets) (rest : Word) : Run State := do
  let isTilde := t.contains '~' && (s.mayStart || m.assigns)
  let h? := (← get).get? Session.homeName
  let pieces := if isTilde then
      tildes h? m.assigns (!rest.isEmpty) (t.length + 1) s.mayStart s.sawEquals t
    else [(false, t)]
  let chunks := pieces.map fun (isHome, u) =>
    if isHome then Chunk.fixed u true
    else if m.isInner && !m.quoted then .split [u]
    else .fixed u false
  let opens := m.assigns && (t.getLast? = some ':' ||
    (t.getLast? = some '=' && !s.sawEquals && !t.dropLast.contains '='))
  return { s with
    chunks := chunks.reverse ++ s.chunks, mayStart := opens
    sawEquals := s.sawEquals || t.contains '=', rest }

/-- Expand the next segment. -/
def segment (e : Evaluator) (inner : Expander) (m : Surroundings) (s : State) :
    Run (State ⊕ List Chunk) := do
  let quoted := s.inQuotes || m.quoted
  let goOn (chunks : List Chunk) (rest : Word) : Run (State ⊕ List Chunk) := do
    return .inl { s with chunks := chunks.reverse ++ s.chunks, mayStart := false, rest }
  match s.rest with
  | [] => return .inr s.chunks.reverse
  | .mark :: .parameter ['@'] .value :: .mark :: rest =>
      if s.inQuotes then
        return .inl { s with
          chunks := .mark :: s.chunks, inQuotes := false, mayStart := false
          rest := .parameter ['@'] .value :: .mark :: rest }
      else goOn (← parameter inner m true ['@'] .value) rest
  | .mark :: rest =>
      return .inl { s with
        chunks := .mark :: s.chunks, inQuotes := !s.inQuotes, mayStart := false, rest }
  | .chars t escaped :: rest =>
      if escaped || s.inQuotes then goOn [.fixed t true] rest
      else return .inl (← plain m s t rest)
  | .parameter name use :: rest => goOn (← parameter inner m quoted name use) rest
  | .output body :: rest =>
      let t ← output e body
      goOn [if quoted then .fixed t true else .split [t]] rest
  | .arithmetic w :: rest =>
      let source := textOf (← joint) (← inner Surroundings.document w)
      let t := Text.ofInt (← arithmetic source)
      goOn [if quoted then .fixed t true else .split [t]] rest

/-- Expand a word; the number bounds how deeply words may stand in words. -/
def chunks (e : Evaluator) : Nat → Expander
  | 0, _, _ => throw .ends
  | n + 1, m, w =>
      iterate (segment e (chunks e n) m) Action.rounds ⟨[], false, m.tilde, false, w⟩

/-- How deeply words may stand in words. -/
def depthLimit : Nat := 100000

/-! ## What words become -/

/-- The fields that a word becomes. -/
def fields (e : Evaluator) (w : Word) : Run (List Octets) := do
  match w with
  | [.chars t false] =>
      if !t.any ("~*?[".contains ·) then return [t]
  | _ => pure ()
  let found ← chunks e depthLimit .argument w
  let s ← get
  let patterns := fieldsOf s.separators found
  if s.has 'f' || !patterns.any Pattern.isMeta then return patterns.map Pattern.spelling
  else
    let fs ← ask .look
    return patterns.flatMap fun p =>
      if Pattern.isMeta p then
        match p.paths fs with
        | [] => [p.spelling]
        | ps => ps
      else [p.spelling]

/-- The fields that words become. -/
def allFields (e : Evaluator) (ws : List Word) : Run (List Octets) := do
  return (← ws.mapM (fields e)).flatten

/-- The text that a word becomes in some surroundings. -/
def textIn (e : Evaluator) (m : Surroundings) (w : Word) : Run Octets := do
  match w with
  | [.chars t false] => if !t.contains '~' then return t
  | _ => pure ()
  let found ← chunks e depthLimit m w
  return textOf (← joint) found

/-- The pattern that a word becomes. -/
def pattern (e : Evaluator) (w : Word) : Run Pattern := do
  let found ← chunks e depthLimit .text w
  return patternOf (← joint) found

end Expansion

end SkipAudit.Shell
