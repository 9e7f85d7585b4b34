import PrismaNest.Yaml.Token.Plain
import PrismaNest.Yaml.Token.Property

/-! The tokens of a text.

Block collections have no brackets; they start and end by indentation. A key is not
marked as such where it starts: when a colon shows that it was one, the tokens that
announce it are put in front of it. A key must stand on one line and end within 1024
characters.
-/

set_option autoImplicit false

namespace PrismaNest.Yaml

structure Cursor where
  rest : List Char
  index : Nat
  line : Nat
  column : Nat

namespace Cursor

def step (cursor : Cursor) : Cursor :=
  match cursor.rest with
  | [] => cursor
  | c :: rest =>
    if isBreak c then ⟨rest, cursor.index + 1, cursor.line + 1, 0⟩
    else ⟨rest, cursor.index + 1, cursor.line, cursor.column + if c = '\uFEFF' then 0 else 1⟩

def skip (cursor : Cursor) : Nat → Cursor
  | 0 => cursor
  | count + 1 => cursor.step.skip count

def goTo (cursor : Cursor) (rest : List Char) : Cursor :=
  cursor.skip (cursor.rest.length - rest.length)

end Cursor

/-- A place where a key may have started, and how many tokens come before it. -/
structure PossibleKey where
  tokens : Nat
  required : Bool
  index : Nat
  line : Nat
  column : Nat

structure Lexer where
  cursor : Cursor
  tokens : List Token
  /-- How many brackets are open. -/
  depth : Nat
  /-- The column of the innermost block, and of the blocks around it. -/
  indent : Int
  outer : List Int
  /-- Whether a key may start here. -/
  keyAllowed : Bool
  /-- The keys that may have started, by the depth of brackets. -/
  keys : List (Nat × PossibleKey)

def gapLength (comment : Bool) : List Char → Nat
  | [] => 0
  | c :: rest =>
    if isBreak c then gapLength false rest + 1
    else if comment then gapLength true rest + 1
    else if c = ' ' then gapLength false rest + 1
    else if c = '#' then gapLength true rest + 1
    else 0

namespace Lexer

def start (text : List Char) : Lexer where
  cursor := if text.head? == some '\uFEFF' then ⟨text.drop 1, 1, 0, 0⟩ else ⟨text, 0, 0, 0⟩
  tokens := []
  depth := 0
  indent := -1
  outer := []
  keyAllowed := true
  keys := []

def inFlow (lexer : Lexer) : Bool :=
  lexer.depth ≠ 0

def add (token : Token) (lexer : Lexer) : Lexer :=
  { lexer with tokens := lexer.tokens ++ [token] }

/-- Adds a token that ends where the rest of the text starts. -/
def addUpTo (token : Token) (rest : List Char) (lexer : Lexer) : Lexer :=
  { lexer.add token with cursor := lexer.cursor.goTo rest }

def insert (position : Nat) (tokens : List Token) (lexer : Lexer) : Lexer :=
  { lexer with tokens := lexer.tokens.take position ++ tokens ++ lexer.tokens.drop position }

def allowKey (allowed : Bool) (lexer : Lexer) : Lexer :=
  { lexer with keyAllowed := allowed }

def skipGaps (lexer : Lexer) : Lexer :=
  let count := gapLength false lexer.cursor.rest
  let crossed := (lexer.cursor.rest.take count).any isBreak
  { lexer with
    cursor := lexer.cursor.skip count
    keyAllowed := lexer.keyAllowed || (crossed && !lexer.inFlow) }

def isStale (lexer : Lexer) (key : PossibleKey) : Bool :=
  key.line != lexer.cursor.line || 1024 < lexer.cursor.index - key.index

/-- Forgets the possible keys that have become too long. A required one must not be forgotten. -/
def forgetStale (lexer : Lexer) : Read Lexer :=
  if lexer.keys.any fun entry => lexer.isStale entry.2 && entry.2.required then malformed
  else .ok { lexer with keys := lexer.keys.filter fun entry => !lexer.isStale entry.2 }

def forgetKey (lexer : Lexer) : Read Lexer :=
  match lexer.keys.lookup lexer.depth with
  | none => .ok lexer
  | some key =>
    if key.required then malformed
    else .ok { lexer with keys := lexer.keys.filter (·.1 ≠ lexer.depth) }

def noteKey (lexer : Lexer) : Read Lexer :=
  if !lexer.keyAllowed then .ok lexer
  else do
    let lexer ← lexer.forgetKey
    let { cursor, depth, .. } := lexer
    let key : PossibleKey :=
      { tokens := lexer.tokens.length
        required := !lexer.inFlow && lexer.indent = cursor.column
        index := cursor.index
        line := cursor.line
        column := cursor.column }
    return { lexer with keys := (depth, key) :: lexer.keys }

def unwindFrom (column indent : Int) : List Int → Nat × Int × List Int
  | [] => (0, indent, [])
  | next :: rest =>
    if column < indent then
      let (count, last, left) := unwindFrom column next rest
      (count + 1, last, left)
    else (0, indent, next :: rest)

def unwind (column : Int) (lexer : Lexer) : Lexer :=
  if lexer.inFlow then lexer
  else
    let (count, indent, outer) := unwindFrom column lexer.indent lexer.outer
    { lexer with tokens := lexer.tokens ++ List.replicate count .blockEnd, indent, outer }

def deepen (column : Int) (lexer : Lexer) : Option Lexer :=
  if lexer.indent < column then
    some { lexer with indent := column, outer := lexer.indent :: lexer.outer }
  else none

/-- A token at the start of a line that ends all blocks. -/
def takeLineToken (token : Token) (rest : List Char) (lexer : Lexer) : Read Lexer := do
  let lexer ← (lexer.unwind (-1)).forgetKey
  return (lexer.allowKey false).addUpTo token rest

def openBracket (token : Token) (rest : List Char) (lexer : Lexer) : Read Lexer := do
  let lexer ← lexer.noteKey
  return { (lexer.allowKey true).addUpTo token rest with depth := lexer.depth + 1 }

def closeBracket (token : Token) (rest : List Char) (lexer : Lexer) : Read Lexer := do
  let lexer ← lexer.forgetKey
  match lexer.depth with
  | 0 => malformed
  | depth + 1 => return { (lexer.allowKey false).addUpTo token rest with depth }

def takeFlowEntry (rest : List Char) (lexer : Lexer) : Read Lexer := do
  let lexer ← (lexer.allowKey true).forgetKey
  return lexer.addUpTo .flowEntry rest

/-- Starts a block here if this line is indented further than the innermost one. -/
def startBlock (token : Token) (lexer : Lexer) : Lexer :=
  match lexer.deepen lexer.cursor.column with
  | some deeper => deeper.add token
  | none => lexer

def takeBlockEntry (rest : List Char) (lexer : Lexer) : Read Lexer := do
  if !lexer.inFlow && !lexer.keyAllowed then malformed
  else
    let started := if lexer.inFlow then lexer else lexer.startBlock .blockSequenceStart
    let lexer ← (started.allowKey true).forgetKey
    return lexer.addUpTo .blockEntry rest

def takeKey (rest : List Char) (lexer : Lexer) : Read Lexer := do
  if !lexer.inFlow && !lexer.keyAllowed then malformed
  else
    let started := if lexer.inFlow then lexer else lexer.startBlock .blockMappingStart
    let lexer ← (started.allowKey (!lexer.inFlow)).forgetKey
    return lexer.addUpTo .key rest

/-- A colon after a key that was noted, or after one that was marked. -/
def takeValue (rest : List Char) (lexer : Lexer) : Read Lexer := do
  match lexer.keys.lookup lexer.depth with
  | some key =>
    let kept := { lexer with keys := lexer.keys.filter (·.1 ≠ lexer.depth) }
    let announced :=
      match if lexer.inFlow then none else kept.deepen key.column with
      | some deeper => deeper.insert key.tokens [.blockMappingStart, .key]
      | none => kept.insert key.tokens [.key]
    return (announced.allowKey false).addUpTo .value rest
  | none =>
    if !lexer.inFlow && !lexer.keyAllowed then malformed
    else
      let started := if lexer.inFlow then lexer else lexer.startBlock .blockMappingStart
      let lexer ← (started.allowKey (!lexer.inFlow)).forgetKey
      return lexer.addUpTo .value rest

/-- A token that may be a key, or start one. -/
def takeKeyLike (taken : Taken) (lexer : Lexer) : Read Lexer := do
  let lexer ← lexer.noteKey
  let (token, rest) ← taken
  return (lexer.allowKey false).addUpTo token rest

def takeQuoted (quotation : Quotation) (lexer : Lexer) : Read Lexer :=
  lexer.takeKeyLike (quotation.map fun (chars, rest) => (.scalar (String.ofList chars) false, rest))

def takePlainScalar (lexer : Lexer) : Read Lexer := do
  let lexer ← lexer.noteKey
  let scalar := takePlain lexer.inFlow (lexer.indent + 1) [] false lexer.cursor.rest
  return (lexer.allowKey scalar.crossed).addUpTo (.scalar (String.ofList scalar.text) true) scalar.rest

def takeBlockScalar (fold : Bool) (rest : List Char) (lexer : Lexer) : Read Lexer := do
  let lexer ← (lexer.allowKey true).forgetKey
  let (text, after) ← blockScalar fold lexer.indent rest
  return lexer.addUpTo (.scalar (String.ofList text) false) after

def startsPlain (flow : Bool) (c : Char) (rest : List Char) : Bool :=
  !(isGap c || isBreak c || "-?:,[]\x7b\x7d#&*!|>\x27\"%@\x60".toList.contains c)
    || (!atGap rest && (c = '-' || (!flow && (c = '?' || c = ':'))))

def takeToken (c : Char) (rest : List Char) (lexer : Lexer) : Read Lexer :=
  let lineStart := lexer.cursor.column = 0
  let flow := lexer.inFlow
  if c = '%' && lineStart then do
    let lexer ← (lexer.unwind (-1)).forgetKey
    let (token, after) ← takeDirective rest
    return (lexer.allowKey false).addUpTo token after
  else if c = '-' && lineStart && atMark '-' (c :: rest) then
    lexer.takeLineToken .documentStart (rest.drop 2)
  else if c = '.' && lineStart && atMark '.' (c :: rest) then
    lexer.takeLineToken .documentEnd (rest.drop 2)
  else if c = '[' then lexer.openBracket .flowSequenceStart rest
  else if c = '{' then lexer.openBracket .flowMappingStart rest
  else if c = ']' then lexer.closeBracket .flowSequenceEnd rest
  else if c = '}' then lexer.closeBracket .flowMappingEnd rest
  else if c = ',' then lexer.takeFlowEntry rest
  else if c = '-' && atGap rest then lexer.takeBlockEntry rest
  else if c = '?' && (flow || atGap rest) then lexer.takeKey rest
  else if c = ':' && (flow || atGap rest) then lexer.takeValue rest
  else if c = '*' then lexer.takeKeyLike (takeName .alias rest)
  else if c = '&' then lexer.takeKeyLike (takeName .anchor rest)
  else if c = '!' then lexer.takeKeyLike (takeTag rest)
  else if c = '|' && !flow then lexer.takeBlockScalar false rest
  else if c = '>' && !flow then lexer.takeBlockScalar true rest
  else if c = '\x27' then lexer.takeQuoted (singleQuoted rest)
  else if c = '"' then lexer.takeQuoted (doubleQuoted rest)
  else if startsPlain flow c rest then lexer.takePlainScalar
  else malformed

/-- The tokens in front of all places where a key may have started. Whether a token announces a
key has to be known before any token from there on counts. -/
def settledTokens (lexer : Lexer) : List Token :=
  let pending := lexer.keys.filter fun entry => !lexer.isStale entry.2
  let count := pending.foldl (fun least entry => min least entry.2.tokens) lexer.tokens.length
  lexer.tokens.take count

def broken (lexer : Lexer) (fault : Fault) : List Token :=
  lexer.settledTokens ++ [.unreadable fault]

/-- Reads to the end of the text. Every token takes at least one character. -/
def finish (lexer : Lexer) : List Token :=
  match lexer.skipGaps.forgetStale with
  | .error fault => lexer.broken fault
  | .ok ready =>
    let settled := ready.unwind ready.cursor.column
    match settled.cursor.rest with
    | [] =>
      match (settled.unwind (-1)).forgetKey with
      | .error fault => lexer.broken fault
      | .ok last => (last.add .streamEnd).tokens
    | c :: rest =>
      match settled.takeToken c rest with
      | .error fault => lexer.broken fault
      | .ok next =>
        if next.cursor.rest.length < lexer.cursor.rest.length then next.finish
        else lexer.broken .malformed
termination_by lexer.cursor.rest.length

end Lexer

def tokens (text : List Char) : List Token :=
  (Lexer.start text).finish

end PrismaNest.Yaml
