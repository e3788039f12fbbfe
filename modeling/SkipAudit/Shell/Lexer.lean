/-
Words and tokens.

A word is read character by character into a row of glyphs, in which expansions are bracketed,
and the row is then taken together to segments.  What a character means depends on what is
open around it: quotation marks, parameters in braces, arithmetic.
-/
import SkipAudit.Shell.Reader

namespace SkipAudit.Shell

/-! ## Glyphs -/

/-- What is taken of a parameter, its word apart. -/
inductive UseKind where
  | value
  | length
  | fallback (kind : Fallback) (orEmpty : Bool)
  | trimmed (side : Side) (longest : Bool)
  | invalid
deriving DecidableEq, Repr

/-- The use with a word. -/
def UseKind.withWord : UseKind → Word → Use
  | .value, _ => .value
  | .length, _ => .length
  | .fallback k e, w => .fallback k e w
  | .trimmed s l, w => .trimmed s l w
  | .invalid, _ => .invalid

/-- A piece of a word that is being read. -/
inductive Glyph where
  | char (c : Char) (escaped : Bool)
  | mark
  | value (name : Octets)
  | openParameter (name : Octets) (kind : UseKind)
  | closeParameter
  | output (body : Option Command)
  | openArithmetic
  | closeArithmetic

namespace Glyph

/-- Put a character in front of a word. -/
def consChar (c : Char) (escaped : Bool) : Word → Word
  | .chars t e :: rest => if e = escaped then .chars (c :: t) e :: rest
      else .chars [c] escaped :: .chars t e :: rest
  | w => .chars [c] escaped :: w

/-- Take glyphs together up to the bracket that closes, with what comes behind it; the number
bounds the depth and the length. -/
def gather : Nat → List Glyph → Word × List Glyph
  | 0, gs => ([], gs)
  | _ + 1, [] => ([], [])
  | n + 1, .char c e :: gs =>
      let (w, rest) := gather n gs
      (consChar c e w, rest)
  | n + 1, .mark :: gs =>
      let (w, rest) := gather n gs
      (.mark :: w, rest)
  | n + 1, .value name :: gs =>
      let (w, rest) := gather n gs
      (.parameter name .value :: w, rest)
  | n + 1, .openParameter name kind :: gs =>
      let (inner, gs) := gather n gs
      let (w, rest) := gather n gs
      (.parameter name (kind.withWord inner) :: w, rest)
  | n + 1, .output body :: gs =>
      let (w, rest) := gather n gs
      (.output body :: w, rest)
  | n + 1, .openArithmetic :: gs =>
      let (inner, gs) := gather n gs
      let (w, rest) := gather n gs
      (.arithmetic inner :: w, rest)
  | _ + 1, .closeParameter :: gs => ([], gs)
  | _ + 1, .closeArithmetic :: gs => ([], gs)

/-- The word that glyphs make. -/
def toWord (gs : List Glyph) : Word := (gather (gs.length + 1) gs).1

end Glyph

/-! ## What is open around a character -/

/-- The kind of text that a character stands in. -/
inductive Mode where
  | base
  | double
  | single
  | arithmetic
deriving DecidableEq, Repr

/-- One level of what is open. -/
structure Level where
  mode : Mode
  /-- Double quotation marks are open inside the braces. -/
  innerDouble : Bool
  /-- The level was begun for the braces of a parameter. -/
  isParameter : Bool
  isDouble : Bool
  /-- How many braces are open, and how many of them between quotation marks. -/
  braces : Nat
  quotedBraces : Nat
  parens : Nat
deriving DecidableEq, Repr

/-- The level at the beginning of a text. -/
def Level.outer (m : Mode) : Level :=
  ⟨m, false, false, decide (m = .double), 0, 0, 0⟩

/-- A word on the way: the glyphs so far, the newest first, and what is open. -/
structure Draft where
  glyphs : List Glyph
  level : Level
  outer : List Level
  isQuoted : Bool

namespace Draft

/-- Add a glyph. -/
def push (d : Draft) (g : Glyph) : Draft := { d with glyphs := g :: d.glyphs }

/-- Add a character, which is escaped between quotation marks. -/
def pushChar (d : Draft) (c : Char) : Draft :=
  d.push (.char c (d.level.mode == .double || d.level.mode == .single))

/-- Begin a level. -/
def enter (d : Draft) (l : Level) : Draft := { d with level := l, outer := d.level :: d.outer }

/-- End a level. -/
def leave (d : Draft) : Draft :=
  match d.outer with
  | l :: ls => { d with level := l, outer := ls }
  | [] => d

end Draft

/-- A document that is being read: its mark, and whether tabs in front of lines count. -/
structure DocumentEnd where
  endMark : Octets
  stripsTabs : Bool
deriving DecidableEq, Repr

/-- What commands a reader can be asked for. -/
inductive Goal where
  /-- A list; `isLine`: it ends with the line.  `mayBeEmpty`: it may have no command. -/
  | list (isLine mayBeEmpty : Bool)
  | command
  /-- The parenthesis behind a list, with the documents that were announced in it. -/
  | closing
deriving DecidableEq, Repr

/-- Reads commands. -/
abbrev CommandReader := Goal → Parse (Option Command)

namespace Lexer

open Parse

/-- Characters that are parameters. -/
def isSpecialParameter (c : Char) : Bool := "@*#?-$!0123456789".contains c

/-- Characters that end a word. -/
def endsWord (c : Char) : Bool := " \t\n<>();&|".contains c

/-! ## Substitutions -/

/-- Read characters as long as they belong to a name, and what comes behind them. -/
def restOfName (accepts : Char → Bool) (first : Option Char) : Parse (Octets × Option Char) :=
  iterate (fun (t, c?) => do
    match c? with
    | some c =>
        if accepts c then return .inl (c :: t, ← nextJoined) else return .inr (t.reverse, c?)
    | none => return .inr (t.reverse, none)) rounds ([], first)

/-- The name of a parameter and how it is used, as far as it is known by the first characters
behind the dollar sign. -/
structure Opened where
  name : Octets
  kind : UseKind
  /-- There is more to come up to a closing brace. -/
  isOpen : Bool

/-- What the character behind the name of a parameter in braces says. -/
def useAfterName (c? : Option Char) : Parse (UseKind × Bool) := do
  let (c?, orEmpty) ← if c? = some ':' then do pure (← nextJoined, true) else pure (c?, false)
  match c? with
  | some '}' => if orEmpty then return (.invalid, true) else return (.value, false)
  | some '-' => return (.fallback .instead orEmpty, true)
  | some '+' => return (.fallback .ifPresent orEmpty, true)
  | some '?' => return (.fallback .demanded orEmpty, true)
  | some '=' => return (.fallback .assigned orEmpty, true)
  | some '%' =>
      if orEmpty then return (.invalid, true)
      else return (.trimmed .back (← nextIs '%'), true)
  | some '#' =>
      if orEmpty then return (.invalid, true)
      else return (.trimmed .front (← nextIs '#'), true)
  | _ => return (.invalid, true)

/-- Read the name and the use of a parameter in braces. -/
def openedInBraces : Parse Opened := do
  let named (isLength : Bool) (name : Octets) (c? : Option Char) : Parse Opened := do
    if isLength then
      putBackChar c?
      return ⟨name, .length, true⟩
    else
      let (kind, isOpen) ← useAfterName c?
      return ⟨name, kind, isOpen⟩
  let wordName (isLength : Bool) (c : Char) : Parse Opened := do
    let accepts := if isNameStart c then isNameChar else Char.isDigit
    let (name, c?) ← restOfName accepts (some c)
    named isLength name c?
  match ← nextJoined with
  | none => return ⟨[], .invalid, true⟩
  | some '}' =>
      putBack ['}']
      return ⟨[], .invalid, true⟩
  | some c =>
      if isNameStart c || c.isDigit then wordName false c
      else if c = '#' then
        match ← nextJoined with
        | none => named false ['#'] none
        | some d =>
            if isNameStart d || d.isDigit then wordName true d
            else
              let e? ← nextJoined
              if d = '}' || e? ≠ some '}' then
                putBackChar e?
                named false ['#'] (some d)
              else if isSpecialParameter d then named true [d] e?
              else
                putBackChar e?
                return ⟨[], .invalid, true⟩
      else
        let d? ← nextJoined
        if isSpecialParameter c then named false [c] d?
        else
          putBackChar d?
          return ⟨[], .invalid, true⟩

/-- Read the text between backquotes; a backslash takes its meaning from some characters. -/
def backquoted (isDouble : Bool) : Parse Octets :=
  iterate (fun (t : Octets) => do
    match ← nextJoined with
    | some '\x60' => return .inr t.reverse
    | some '\\' =>
        match ← next with
        | none => fail (text "EOF in backquote substitution")
        | some c =>
            if c = '\\' || c = '\x60' || c = '$' || (isDouble && c = '"') then
              return .inl (c :: t)
            else return .inl (c :: '\\' :: t)
    | none => fail (text "EOF in backquote substitution")
    | some '\n' =>
        countLine
        return .inl ('\n' :: t)
    | some c => return .inl (c :: t)) rounds []

/-- Read the commands of a text of its own, which is not broken off. -/
def inText (commands : CommandReader) (t : Octets) : Parse (Option Command) := do
  let r ← get
  set { r with frames := [⟨t, none⟩], line := 1, isComplete := true, announced := [] }
  let c ← commands (.list false true)
  modify fun r' =>
    { r with nextDocument := r'.nextDocument, found := r'.found, isHeld := false }
  return c

/-- Forget what has been announced, and bring it back afterwards. -/
def withoutAnnounced {α : Type} (p : Parse α) : Parse α := do
  let announced := (← get).announced
  modify ({ · with announced := [] })
  let a ← p
  modify ({ · with announced })
  return a

/-! ## Words -/

/-- What a dollar sign begins. -/
def dollar (commands : CommandReader) (d : Draft) : Parse Draft := do
  let c? ← nextJoined
  let plain : Parse Draft := do
    putBackChar c?
    return d.push (.char '$' false)
  if (← get).expected.endMark then plain
  else match c? with
    | none => plain
    | some '(' =>
        if ← nextIs '(' then
          return (d.push .openArithmetic).enter { Level.outer .arithmetic with isDouble := true }
        else
          let body ← withoutAnnounced (do
            let body ← commands (.list false true)
            let _ ← commands .closing
            return body)
          return d.push (.output body)
    | some '{' =>
        let o ← openedInBraces
        if o.isOpen = false then return d.push (.value o.name)
        else
          let trims := match o.kind with
            | .trimmed .. => true
            | _ => false
          let mode := if trims then .base
            else if d.level.mode = .arithmetic then .double
            else d.level.mode
          let d := d.push (.openParameter o.name o.kind)
          let d :=
            if mode ≠ d.level.mode || d.level.innerDouble then
              d.enter { Level.outer mode with
                isParameter := true, isDouble := decide (mode ≠ .base) }
            else d
          return { d with level := { d.level with
            braces := d.level.braces + 1
            quotedBraces := d.level.quotedBraces + (if d.level.isDouble then 1 else 0) } }
    | some c =>
        if isNameStart c then
          let (name, c?) ← restOfName isNameChar (some c)
          putBackChar c?
          return d.push (.value name)
        else if isSpecialParameter c then return d.push (.value [c])
        else plain

/-- A backslash: what follows is escaped, or between double quotation marks the backslash may
stand for itself. -/
def backslash (isDocument : Bool) (d : Draft) : Parse Draft := do
  match ← next with
  | none => return d.push (.char '\\' true)
  | some c =>
      let l := d.level
      let keeps := l.isDouble && c ≠ '\\' && c ≠ '\x60' && c ≠ '$' &&
        (c ≠ '"' || (isDocument && l.braces = 0)) && (c ≠ '}' || l.braces = 0)
      let d := if keeps then d.push (.char '\\' true) else d
      return { d.push (.char c true) with isQuoted := true }

/-- Double quotation marks are turned on or off. -/
def toggleDouble (isDocument : Bool) (d : Draft) : Draft :=
  let l := d.level
  let d := if l.braces = 0 then d
    else { d with level := { l with innerDouble := !l.innerDouble } }
  if isDocument then d else d.push .mark

/-- A quotation mark that may close. -/
def closeQuotes (isDocument : Bool) (c : Char) (d : Draft) : Draft :=
  let l := d.level
  if isDocument && l.braces = 0 then d.pushChar c
  else
    let d := if l.quotedBraces = 0 then
        { d with level := { l with mode := .base, isDouble := false } }
      else d
    let d := { d with isQuoted := true }
    if c = '"' then toggleDouble isDocument d else if isDocument then d else d.push .mark

/-- A closing brace. -/
def closeBrace (d : Draft) : Draft :=
  let l := d.level
  if l.innerDouble || l.braces = 0 then d.pushChar '}'
  else
    let d := { d with level := { l with braces := l.braces - 1 } }
    let d :=
      if l.braces = 1 && l.isParameter then d.leave
      else { d with level := { d.level with quotedBraces := l.quotedBraces - 1 } }
    d.push .closeParameter

/-- A closing parenthesis in arithmetic. -/
def closeParen (d : Draft) : Parse Draft := do
  let l := d.level
  if l.parens ≠ 0 then
    return { d with level := { l with parens := l.parens - 1 } }.pushChar ')'
  else if ← nextIs ')' then return d.leave.push .closeArithmetic
  else return d.pushChar ')'

/-- What the next character means. -/
inductive Meaning where
  | goesOn (d : Draft)
  /-- The line is over, and the word goes on. -/
  | newLine (d : Draft)
  /-- The word is over in front of the character. -/
  | stops

/-- Read one character of a word that is not between quotation marks. -/
def inBase (commands : CommandReader) (isDocument : Bool) (d : Draft)
    (c : Char) : Parse Meaning := do
  match c with
  | '\\' => return .goesOn (← backslash isDocument d)
  | '\'' =>
      let d := { d with level := { d.level with mode := .single } }
      return .goesOn (if isDocument then d else d.push .mark)
  | '"' =>
      let d := { d with level := { d.level with mode := .double, isDouble := true } }
      return .goesOn (toggleDouble isDocument d)
  | '$' => return .goesOn (← dollar commands d)
  | '}' => return .goesOn (closeBrace d)
  | _ =>
      if endsWord c && d.level.braces = 0 then return .stops
      else if c = '\n' then return .newLine (d.pushChar c)
      else return .goesOn (d.pushChar c)

/-- Read one character of a word between double quotation marks. -/
def inDouble (commands : CommandReader) (isDocument : Bool) (d : Draft)
    (c : Char) : Parse Meaning := do
  match c with
  | '\\' => return .goesOn (← backslash isDocument d)
  | '"' => return .goesOn (closeQuotes isDocument c d)
  | '$' => return .goesOn (← dollar commands d)
  | '}' => return .goesOn (closeBrace d)
  | '\n' => return .newLine (d.pushChar c)
  | _ => return .goesOn (d.pushChar c)

/-- Read one character of a word between single quotation marks. -/
def inSingle (isDocument : Bool) (d : Draft) (c : Char) : Parse Meaning := do
  match c with
  | '\'' => return .goesOn (closeQuotes isDocument c d)
  | '\n' => return .newLine (d.pushChar c)
  | _ => return .goesOn (d.pushChar c)

/-- Read one character of an arithmetic expression. -/
def inArithmetic (commands : CommandReader) (isDocument : Bool)
    (d : Draft) (c : Char) : Parse Meaning := do
  match c with
  | '\\' => return .goesOn (← backslash isDocument d)
  | '$' => return .goesOn (← dollar commands d)
  | '}' => return .goesOn (closeBrace d)
  | '(' =>
      let level := { d.level with parens := d.level.parens + 1 }
      return .goesOn ({ d with level }.pushChar c)
  | ')' => return .goesOn (← closeParen d)
  | '\n' => return .newLine (d.pushChar c)
  | _ => return .goesOn (d.pushChar c)

/-- Read one character of a word. -/
def meaning (commands : CommandReader) (isDocument : Bool) (d : Draft)
    (c : Char) : Parse Meaning := do
  if c = '\x60' && d.level.mode ≠ .single then
    if (← get).expected.endMark then return .goesOn (d.pushChar c)
    else
      let body ← inText commands (← backquoted d.level.isDouble)
      return .goesOn (d.push (.output body))
  else match d.level.mode with
    | .base => inBase commands isDocument d c
    | .double => inDouble commands isDocument d c
    | .single => inSingle isDocument d c
    | .arithmetic => inArithmetic commands isDocument d c

/-- The next character of a word; lines are not joined between single quotation marks. -/
def nextOf (d : Draft) : Parse (Option Char) := if d.level.mode = .single then next else nextJoined

/-- Compare what comes with the mark of a document; on a difference everything is put back
but the first character. -/
def matchMark (c? : Option Char) (endMark : Octets) : Parse (Option Char) :=
  iterate (fun (c'?, wanted, read) => do
    match wanted, c'? with
    | w :: ws, some c =>
        if c = w then return .inl (← next, ws, c :: read)
        else
          putBack ((c :: read).reverse.drop 1)
          return .inr c?
    | [], none | [], some '\n' =>
        countLine
        return .inr none
    | _, _ =>
        putBack ((c'?.toList ++ read).reverse.drop 1)
        return .inr c?) rounds (c?, endMark, [])

/-- At the beginning of a line of a document: nothing if the line is the mark of its end, and
otherwise the first character of the line. -/
def atLineStart (document? : Option DocumentEnd) (c? : Option Char) : Parse (Option Char) := do
  match document? with
  | none => return c?
  | some e =>
      let c? ← if e.stripsTabs then
          iterate (fun c? => do
            if c? = some '\t' then return .inl (← next) else return .inr c?) rounds c?
        else pure c?
      matchMark c? e.endMark

/-- Read a word from its first character on, or a document: the word, and the character that
ends it. -/
def draftFrom (commands : CommandReader) (mode : Mode)
    (document? : Option DocumentEnd) (first : Option Char) : Parse (Draft × Option Char) := do
  let first ← atLineStart document? first
  iterate (fun (d, c?) => do
    match c? with
    | none => return .inr (d, none)
    | some c =>
        match ← meaning commands document?.isSome d c with
        | .goesOn d => return .inl (d, ← nextOf d)
        | .newLine d =>
            countLine
            return .inl (d, ← atLineStart document? (← nextOf d))
        | .stops => return .inr (d, c?)) rounds
    ((⟨[], .outer mode, [], false⟩ : Draft), first)

/-- See that nothing is left open at the end of a word. -/
def checkClosed (isDocument : Bool) (d : Draft) : Parse Unit := do
  if d.level.mode = .arithmetic then fail (text "Missing '))'")
  else if d.level.mode ≠ .base && !isDocument then fail (text "Unterminated quoted string")
  else if d.level.braces ≠ 0 then fail (text "Missing '\x7d'")

/-! ## Documents -/

/-- Read a document that was announced. -/
def readDocument (commands : CommandReader) (a : Announced) :
    Parse Unit := do
  let c? ← if a.expands then nextJoined else next
  let (d, _) ← draftFrom commands (if a.expands then .double else .single)
    (some ⟨a.endMark, a.stripsTabs⟩) c?
  checkClosed true d
  let word := Glyph.toWord d.glyphs.reverse
  modify fun r => { r with found := (a.number, word) :: r.found }

/-- Read the documents that were announced, at the end of the line. -/
def readDocuments (commands : CommandReader) : Parse Unit := do
  let announced := (← get).announced
  modify ({ · with announced := [] })
  for a in announced do readDocument commands a

/-! ## Tokens -/

/-- Remember a token. -/
def token (t : Token) : Parse Token := do
  modify ({ · with last := t })
  return t

/-- The arrow that begins with a character. -/
def arrowFrom (c : Char) : Parse Arrow := do
  if c = '>' then
    if ← nextIs '>' then return .file .appended
    else if ← nextIs '|' then return .file .clobbering
    else if ← nextIs '&' then return .copy
    else return .file .output
  else if ← nextIs '<' then return .document (← nextIs '-')
  else if ← nextIs '&' then return .copy
  else if ← nextIs '>' then return .file .both
  else return .file .input

/-- The descriptor in front of an arrow. -/
def descriptorOf (c : Char) : List Glyph → Option Nat
  | [] => some (if c = '>' then 1 else 0)
  | [.char d false] => Text.digit? d
  | _ => none

/-- Read a word, or a redirection. -/
def wordToken (commands : CommandReader) (c : Char) : Parse Token := do
  let (d, end?) ← draftFrom commands .base none (some c)
  checkClosed false d
  let redirection? := do
    let e ← end?
    if (e = '>' || e = '<') && !d.isQuoted then return (e, ← descriptorOf e d.glyphs) else none
  match redirection? with
  | some (e, fd) =>
      let arrow ← arrowFrom e
      modify ({ · with arrow := (fd, arrow) })
      token .redirection
  | none =>
      putBackChar end?
      modify ({ · with word := Glyph.toWord d.glyphs.reverse, isQuoted := d.isQuoted })
      token .word

/-- Pass over a comment. -/
def skipComment : Parse Unit :=
  iterate (fun () => do
    match ← next with
    | some '\n' =>
        putBack ['\n']
        return .inr ()
    | some _ => return .inl ()
    | none => return .inr ()) rounds ()

/-- The next token as it stands. -/
def rawToken (commands : CommandReader) : Parse Token := do
  if (← get).isHeld then
    modify ({ · with isHeld := false })
    return (← get).last
  else
    iterate (fun () => do
      match ← nextJoined with
      | none => return .inr (← token .ended)
      | some ' ' | some '\t' => return .inl ()
      | some '#' =>
          skipComment
          return .inl ()
      | some '\n' =>
          countLine
          return .inr (← token .newline)
      | some '&' => return .inr (← token (if ← nextIs '&' then .andThen else .ampersand))
      | some '|' => return .inr (← token (if ← nextIs '|' then .orElse else .pipe))
      | some ';' => return .inr (← token (if ← nextIs ';' then .caseEnd else .semicolon))
      | some '(' => return .inr (← token .leftParen)
      | some ')' => return .inr (← token .rightParen)
      | some c => return .inr (← wordToken commands c)) rounds ()

/-- Pass over newlines, with the documents that begin behind them. -/
def skipNewlines (commands : CommandReader) (t : Token) : Parse Token :=
  iterate (fun t => do
    if t = .newline then
      readDocuments commands
      return .inl (← rawToken commands)
    else return .inr t) rounds t

/-- What a word token is: a reserved word, the name of an alias, whose text is then read
instead, or a word. -/
def classify (e : Expected) : Parse (Option Token) := do
  let r ← get
  match Word.plain? r.word with
  | none => return some .word
  | some t =>
      match if e.reserved then Reserved.ofText? t else none with
      | some k => return some (← token (.reserved k))
      | none =>
          match if e.aliases then r.aliases.lookup t else none with
          | none => return some .word
          | some value =>
              if ← isInUse t then return some .word
              else
                modify fun r => { r with frames := ⟨value, some t⟩ :: r.frames }
                return none

end Lexer

open Lexer Parse in
/-- Read the next token, in the light of what is expected. -/
def readTokenWith (commands : CommandReader) : Parse Token := do
  let expected := (← get).expected
  iterate (fun e => do
    let t ← rawToken commands
    let t ← if e.newlines then skipNewlines commands t else pure t
    let e := e.or (← get).expected
    modify ({ · with expected := .nothing })
    if t ≠ .word || (← get).isQuoted then return .inr t
    else match ← classify e with
      | some t => return .inr t
      | none => return .inl e) rounds expected

end SkipAudit.Shell
