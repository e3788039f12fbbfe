/-
Programs that put words or lines into another order: into one that goes along with given pairs,
and into any order at all.
-/
import SkipAudit.Utility.Deeds
import SkipAudit.Utility.Parts

namespace SkipAudit.Utility

namespace Arranging

/-! ## Along with pairs -/

/-- A word among those that are ordered. -/
structure Node where
  word : Octets
  /-- How many pairs that still count have it behind another word. -/
  waits : Nat
  isShown : Bool
  /-- The words that stand behind it in pairs, the newest one first. -/
  followers : List Octets

/-- The words of a text. -/
def wordsIn (t : Octets) : List Octets :=
  let isGap (c : Char) : Bool := c = ' ' || c = '\t' || c = '\n'
  (t.foldr (fun c (ws : List Octets) =>
    if isGap c then
      match ws with
      | [] :: _ => ws
      | ws => [] :: ws
    else match ws with
      | w :: ws => (c :: w) :: ws
      | [] => [[c]]) []).filter (· ≠ [])

/-- The pairs that words make, unless one is left over. -/
def pairsOf? : List Octets → Option (List (Octets × Octets))
  | [] => some []
  | [_] => none
  | a :: b :: rest => (pairsOf? rest).map ((a, b) :: ·)

/-- The words of pairs, sorted, each with what follows it. -/
def nodesOf (pairs : List (Octets × Octets)) : List Node :=
  let words := (pairs.flatMap fun (a, b) => [a, b]).mergeSort fun a b =>
    compareOfLessAndEq a b != Ordering.gt
  let words := words.foldr (fun w ws => if ws.head? = some w then ws else w :: ws) []
  words.map fun w =>
    ⟨w, pairs.countP fun (a, b) => b == w && a != b, false,
      (pairs.filterMap fun (a, b) => if a = w && a ≠ b then some b else none).reverse⟩

/-- Change the node of a word. -/
def atWord (w : Octets) (f : Node → Node) (nodes : List Node) : List Node :=
  nodes.map fun n => if n.word = w then f n else n

/-- Take one pair away for each follower; those that wait no more come out, in order. -/
def release : List Octets → List Node → List Octets × List Node
  | [], nodes => ([], nodes)
  | f :: fs, nodes =>
      let nodes := atWord f (fun n => { n with waits := n.waits - 1 }) nodes
      let isFree := nodes.any fun n => n.word == f && n.waits == 0
      let (others, nodes) := release fs nodes
      (if isFree then f :: others else others, nodes)

/-- Show the words of a queue and those that they set free; the number bounds how many. -/
def showAll : Nat → List Octets → List Node → List Octets × List Node
  | 0, _, nodes | _, [], nodes => ([], nodes)
  | n + 1, w :: queue, nodes =>
      let followers := (nodes.find? (·.word == w)).map (·.followers) |>.getD []
      let (freed, nodes) := release followers (atWord w ({ · with isShown := true }) nodes)
      let (shown, nodes) := showAll n (queue ++ freed) nodes
      (w :: shown, nodes)

/-- Without the first of some words that is this one. -/
def withoutFirst (w : Octets) : List Octets → List Octets
  | [] => []
  | v :: vs => if v = w then vs else v :: withoutFirst w vs

/-- Walk backward through the nodes that wait, in order: `chain` are the words so far, the last
one first.  A word that is in the chain already closes a loop, unless the chain began with it. -/
def walkBack : List Node → List Octets → List Octets × Option Octets
  | [], chain => (chain, none)
  | n :: ns, chain =>
      if n.waits = 0 then walkBack ns chain
      else match chain with
        | [] => walkBack ns [n.word]
        | first :: rest =>
            if n.followers.contains first then
              if (first :: rest).dropLast.contains n.word then (first :: rest, some n.word)
              else walkBack ns (n.word :: first :: rest)
            else walkBack ns chain

/-- Find a loop: its words in order, the last of which is followed by the first; the number
bounds how often all nodes are walked through. -/
def findLoop (nodes : List Node) : Nat → List Octets → List Octets
  | 0, _ => []
  | n + 1, chain =>
      match walkBack nodes chain with
      | (chain, some closing) => chain.takeWhile (· ≠ closing) ++ [closing]
      | (chain, none) => findLoop nodes n chain

/-- Take away the pair that closes a loop. -/
def broken (loop : List Octets) (nodes : List Node) : List Node :=
  match loop.head?, loop.getLast? with
  | some first, some last =>
      atWord first (fun n => { n with waits := n.waits - 1 })
        (atWord last (fun n => { n with followers := withoutFirst first n.followers }) nodes)
  | _, _ => nodes

/-- All words in order, with the complaints about loops; the number bounds the rounds. -/
def arrange (c : Call) (file : Octets) : Nat → List Node → List (Stream × Octets)
  | 0, _ => []
  | n + 1, nodes =>
      let free := (nodes.filter fun x => x.waits == 0 && !x.isShown).map (·.word)
      let (shown, nodes) := showAll nodes.length free nodes
      let out := shown.map fun w => (Stream.output, w ++ ['\n'])
      if nodes.all (·.isShown) then out
      else
        let loop := findLoop nodes (nodes.length + 2) []
        let told := (c.complaint (c.shown file ++ text ": input contains a loop:")) ::
          loop.map c.complaint
        out ++ told.map (Stream.errors, ·) ++ arrange c file n (broken loop nodes)

end Arranging

open Arranging in
/-- Put words into an order that goes along with the pairs that are read. -/
def tsort : Utility := fun c =>
  withOptions 1 "" [] c fun p => do
    match p.rest[1]? with
    | some x => c.misuse 1 (extraOperand c x)
    | none => pure ()
    let file := p.rest.headD ['-']
    match ← readInput file with
    | .error e =>
        c.die 1 (c.shown file ++ text (if e = .isDirectory then ": read error: " else ": ") ++
          e.reason)
    | .ok t =>
        match pairsOf? (wordsIn t) with
        | none => c.die 1 (c.shown file ++ text ": input contains an odd number of tokens")
        | some pairs =>
            let writes := arrange c file (pairs.length + 1) (nodesOf pairs)
            deliver c ⟨if writes.any (·.1 == Stream.errors) then 1 else 0, writes⟩

/-! ## In any order -/

/-- The whole numbers between two, or why there are none. -/
def rangeOf (t : Octets) : Except CountFault (Nat × Nat) :=
  let (low, rest) := t.span (· ≠ '-')
  match count "" low, rest with
  | .error .tooLarge, _ => .error .tooLarge
  | .error _, _ | _, [] => .error .invalid
  | .ok low, _ :: high =>
      match count "" high with
      | .error e => .error e
      | .ok high => if high + 1 < low then .error .invalid else .ok (low, high + 1 - low)

/-- Write lines over and over, up to some number of them. -/
def sayAgain (put : Octets → Action Unit) (lines : List Octets) (size : Nat) :
    Option Nat → Action Unit
  | some n =>
      Action.repeatUntil () (fun left => do
        if left = 0 then return .inr ()
        else
          put (lines.take left).flatten
          return .inl (left - size)) Action.rounds n
  | none =>
      Action.repeatUntil () (fun () => do
        put lines.flatten
        return .inl ()) Action.rounds ()

/-- Show lines in any order; that in which they come is one. -/
def shuf : Utility := fun c =>
  withOptions 1 "ei:n:o:rz"
    [("echo", 'e', .none), ("input-range", 'i', .needed), ("head-count", 'n', .needed),
     ("output", 'o', .needed), ("random-source", 'ρ', .needed), ("repeat", 'r', .none),
     ("zero-terminated", 'z', .none)] c fun p => do
    let single (letter : Char) (what : String) : Action Unit := do
      match p.values letter with
      | x :: xs => if xs.any (· ≠ x) then c.die 1 (text what)
      | [] => pure ()
    if 1 < (p.values 'i').length then c.die 1 (text "multiple -i options specified")
    let range? ← match p.value? 'i' with
      | none => pure none
      | some t =>
          match rangeOf t with
          | .ok r => pure (some r)
          | .error e => c.die 1 (text "invalid input range: " ++ c.quote t ++ countReason e)
    let limit? ← (p.values 'n').foldlM (fun (least? : Option Nat) t => do
      match count "" t with
      | .ok n => return some (min n (least?.getD n))
      | .error .tooLarge => return least?
      | .error _ => c.die 1 (text "invalid line count: " ++ c.quote t)) none
    single 'o' "multiple output files specified"
    single 'ρ' "multiple random sources specified"
    if p.has 'e' && range?.isSome then c.misuse 1 (text "cannot combine -e and -i options")
    let mayHave := if range?.isSome then 0 else 1
    if !(p.has 'e' && range?.isNone) then
      match p.rest[mayHave]? with
      | some x => c.misuse 1 (extraOperand c x)
      | none => pure ()
    let lineEnd := if p.has 'z' then Octets.nul else '\n'
    let lines ← if limit? = some 0 then pure []
      else if p.has 'e' then pure p.rest
      else match range? with
        | some (low, size) =>
            let size := min size (limit?.getD size)
            pure ((List.range size).map fun i => Text.ofNat (low + i))
        | none => do
            let file := p.rest.headD ['-']
            match ← openInput file with
            | .error e => c.die 1 (because c file e)
            | .ok fd =>
                match ← Action.readAll fd with
                | .error e => c.die 1 (text "read error: " ++ e.reason)
                | .ok t => pure ((linesEnding lineEnd t).map (Text.dropFinal lineEnd))
    match p.value? 'ρ' with
    | some source =>
        match ← Action.openFile source .reading with
        | .ok _ => pure ()
        | .error e => c.die 1 (because c source e)
    | none => pure ()
    let out ← match p.value? 'o' with
      | none => pure 1
      | some target =>
          match ← Action.openFile target .writing with
          | .ok fd => pure fd
          | .error e => c.die 1 (because c target e)
    let put (t : Octets) : Action Unit :=
      if out = 1 then say c t
      else do
        match ← Action.write out t with
        | .ok () => return
        | .error e => c.die 1 (text "write error: " ++ e.reason)
    let ended := lines.map (· ++ [lineEnd])
    if p.has 'r' then
      if limit? = some 0 then return 0
      else if lines = [] then c.die 1 (text "no lines to repeat")
      else
        sayAgain put ended lines.length limit?
        return 0
    else
      put (match limit? with
        | some n => (ended.take n).flatten
        | none => ended.flatten)
      return 0

end SkipAudit.Utility
