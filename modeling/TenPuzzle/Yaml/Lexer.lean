import TenPuzzle.Yaml.Block
import TenPuzzle.Yaml.Plain
import TenPuzzle.Yaml.Property
import TenPuzzle.Yaml.Quoted

/-!
From characters to tokens. Only the colon behind a key shows that it was one, so each token that may
start a key is remembered, one for every level of flow collections, and the mark of the key is put
in front of it when the colon comes.
-/

namespace TenPuzzle.Yaml

structure Position where
  offset : Nat
  line : Nat
  column : Nat
  deriving DecidableEq, Repr

def Position.next (position : Position) (character : Char) : Position :=
  if isBreak character then ⟨position.offset + 1, position.line + 1, 0⟩
  else if character = '\uFEFF' then { position with offset := position.offset + 1 }
  else { position with offset := position.offset + 1, column := position.column + 1 }

/-- A token that may turn out to start a key. -/
structure KeyStart where
  index : Nat
  required : Bool
  position : Position
  deriving DecidableEq, Repr

structure Lexer where
  text : List Char
  position : Position
  tokens : List Token
  columns : List Nat
  keyAllowed : Bool
  keyStart : Option KeyStart
  outer : List (Option KeyStart)
  deriving DecidableEq, Repr

namespace Lexer

def start (text : List Char) : Lexer where
  text := text
  position := ⟨0, 0, 0⟩
  tokens := []
  columns := []
  keyAllowed := true
  keyStart := none
  outer := []

def inFlow (lexer : Lexer) : Bool :=
  !lexer.outer.isEmpty

def leastColumn (lexer : Lexer) : Nat :=
  match lexer.columns with
  | [] => 0
  | column :: _ => column + 1

def moveTo (lexer : Lexer) (rest : List Char) : Lexer :=
  let passed := lexer.text.take (lexer.text.length - rest.length)
  { lexer with text := rest, position := passed.foldl Position.next lexer.position }

def emit (lexer : Lexer) (token : Token) : Lexer :=
  { lexer with tokens := token :: lexer.tokens }

def insert (lexer : Lexer) (index : Nat) (token : Token) : Lexer :=
  { lexer with tokens := lexer.tokens.insertIdx (lexer.tokens.length - index) token }

def allowKey (lexer : Lexer) (allowed : Bool) : Lexer :=
  { lexer with keyAllowed := allowed }

def closeBlocks (lexer : Lexer) : Lexer :=
  if lexer.inFlow then lexer
  else { lexer with
    tokens := List.replicate lexer.columns.length .blockEnd ++ lexer.tokens
    columns := [] }

def closeBlocksBeyond (lexer : Lexer) (column : Nat) : Lexer :=
  if lexer.inFlow then lexer
  else
    let closed := lexer.columns.takeWhile (column < ·)
    { lexer with
      tokens := List.replicate closed.length .blockEnd ++ lexer.tokens
      columns := lexer.columns.dropWhile (column < ·) }

/-- Opens a block collection unless one is open at the column; its token goes to the index. -/
def openBlock (lexer : Lexer) (column index : Nat) (token : Token) : Lexer :=
  if lexer.inFlow || column < lexer.leastColumn then lexer
  else { lexer.insert index token with columns := column :: lexer.columns }

def forgetKey (lexer : Lexer) : Except Fault Lexer :=
  if lexer.keyStart.any KeyStart.required then .error .malformed
  else .ok { lexer with keyStart := none }

def rememberKey (lexer : Lexer) : Except Fault Lexer := do
  if !lexer.keyAllowed then .ok lexer
  else
    let required := !lexer.inFlow && lexer.columns.head? = some lexer.position.column
    let cleared ← lexer.forgetKey
    .ok { cleared with
      keyStart := some ⟨lexer.tokens.length, required, lexer.position⟩ }

/-- A key ends on its own line and within 1024 characters. -/
def isStale (lexer : Lexer) (key : KeyStart) : Bool :=
  key.position.line ≠ lexer.position.line || key.position.offset + 1024 < lexer.position.offset

def dropStale (lexer : Lexer) : Except Fault Lexer :=
  let stale := fun (key : Option KeyStart) => key.any lexer.isStale
  let refused := fun (key : Option KeyStart) => key.any fun k => k.required && lexer.isStale k
  let renew := fun (key : Option KeyStart) => if stale key then none else key
  if refused lexer.keyStart || lexer.outer.any refused then .error .malformed
  else .ok { lexer with keyStart := renew lexer.keyStart, outer := lexer.outer.map renew }

def skipBlanks (inComment ended : Bool) : List Char → Bool × List Char
  | [] => (ended, [])
  | character :: rest =>
    if isBreak character then skipBlanks false true rest
    else if inComment || character = ' ' then skipBlanks inComment ended rest
    else if character = '#' then skipBlanks true ended rest
    else (ended, character :: rest)

def toToken (lexer : Lexer) : Except Fault Lexer := do
  let (ended, rest) := skipBlanks false false lexer.text
  let moved := lexer.moveTo rest
  let fresh ← { moved with keyAllowed := moved.keyAllowed || (ended && !moved.inFlow) }.dropStale
  .ok (fresh.closeBlocksBeyond fresh.position.column)

def takeKeyPart (lexer : Lexer) (token : Token) (rest : List Char) : Except Fault Lexer := do
  .ok (((← lexer.rememberKey).emit token).allowKey false |>.moveTo rest)

def takeFlowStart (lexer : Lexer) (token : Token) (rest : List Char) : Except Fault Lexer := do
  let inner ← lexer.takeKeyPart token rest
  .ok { inner with keyAllowed := true, keyStart := none, outer := inner.keyStart :: inner.outer }

def takeFlowEnd (lexer : Lexer) (token : Token) (rest : List Char) : Except Fault Lexer :=
  match lexer.outer with
  | [] => .error .malformed
  | key :: outer =>
    let closed := { lexer with keyAllowed := false, keyStart := key, outer := outer }
    .ok ((closed.emit token).moveTo rest)

def takeMargin (lexer : Lexer) (token : Token) (rest : List Char) : Except Fault Lexer := do
  .ok (((← lexer.closeBlocks.forgetKey).emit token).allowKey false |>.moveTo rest)

def takeComma (lexer : Lexer) (rest : List Char) : Except Fault Lexer := do
  .ok (((← lexer.forgetKey).emit .comma).allowKey true |>.moveTo rest)

def startBlock (lexer : Lexer) (token : Token) : Except Fault Lexer :=
  if !lexer.inFlow && !lexer.keyAllowed then .error .malformed
  else .ok (lexer.openBlock lexer.position.column lexer.tokens.length token)

def takeDash (lexer : Lexer) (rest : List Char) : Except Fault Lexer := do
  let opened ← lexer.startBlock .blockSequence
  .ok (((← opened.forgetKey).emit .dash).allowKey true |>.moveTo rest)

def takeKeyMark (lexer : Lexer) (rest : List Char) : Except Fault Lexer := do
  let opened ← lexer.startBlock .blockMapping
  .ok (((← opened.forgetKey).emit .key).allowKey (!lexer.inFlow) |>.moveTo rest)

def takeColon (lexer : Lexer) (rest : List Char) : Except Fault Lexer := do
  match lexer.keyStart with
  | some key =>
    let marked := { lexer.insert key.index .key with keyStart := none }
    let opened := marked.openBlock key.position.column key.index .blockMapping
    .ok ((opened.emit .value).allowKey false |>.moveTo rest)
  | none =>
    let opened ← lexer.startBlock .blockMapping
    .ok ((opened.emit .value).allowKey (!lexer.inFlow) |>.moveTo rest)

def takeBlockScalar (lexer : Lexer) (folded : Bool) (rest : List Char) : Except Fault Lexer := do
  let (text, after) ← readBlock folded lexer.leastColumn rest
  .ok (((← lexer.forgetKey).emit (.scalar text false)).allowKey true |>.moveTo after)

def takePlain (lexer : Lexer) : Except Fault Lexer := do
  let plain := readPlain lexer.inFlow lexer.leastColumn lexer.text
  .ok ((← lexer.takeKeyPart (.scalar plain.text true) plain.rest).allowKey plain.broken)

def takeToken (lexer : Lexer) (character : Char) (rest : List Char) : Except Fault Lexer := do
  let atMargin := lexer.position.column = 0
  if character = '%' ∧ atMargin then
    let (directive, after) ← readDirective rest
    lexer.takeMargin (.directive directive) after
  else if atMargin ∧ atDocumentMark lexer.text then
    lexer.takeMargin (if character = '-' then .documentStart else .documentEnd) (rest.drop 2)
  else if character = '[' then lexer.takeFlowStart .sequenceStart rest
  else if character = ']' then lexer.takeFlowEnd .sequenceEnd rest
  else if character = '\x7b' then lexer.takeFlowStart .mappingStart rest
  else if character = '\x7d' then lexer.takeFlowEnd .mappingEnd rest
  else if character = ',' then lexer.takeComma rest
  else if character = '-' ∧ atGap rest then lexer.takeDash rest
  else if character = '?' ∧ (lexer.inFlow ∨ atGap rest) then lexer.takeKeyMark rest
  else if character = ':' ∧ (lexer.inFlow ∨ atGap rest) then lexer.takeColon rest
  else if character = '*' then
    let (name, after) ← readAnchor rest
    lexer.takeKeyPart (.alias name) after
  else if character = '&' then
    let (name, after) ← readAnchor rest
    lexer.takeKeyPart (.anchor name) after
  else if character = '!' then
    let (tag, after) ← readTag rest
    lexer.takeKeyPart (.tag tag) after
  else if (character = '|' ∨ character = '>') ∧ !lexer.inFlow then
    lexer.takeBlockScalar (character = '>') rest
  else if character = '\x27' ∨ character = '\x22' then
    let (text, after) ← readQuoted character rest
    lexer.takeKeyPart (.scalar text false) after
  else if startsPlain lexer.inFlow lexer.text then lexer.takePlain
  else .error .malformed

def step (lexer : Lexer) : Except Fault (List Token ⊕ Lexer) := do
  let ready ← lexer.toToken
  match ready.text with
  | [] => .ok (.inl (← ready.closeBlocks.forgetKey).tokens.reverse)
  | character :: rest => .ok (.inr (← ready.takeToken character rest))

/-- The tokens before the first one that may still turn out to start a key. -/
def settled (lexer : Lexer) : List Token :=
  let keys := (lexer.keyStart :: lexer.outer).filterMap fun key =>
    key.filter fun start => !lexer.isStale start
  lexer.tokens.reverse.take (keys.foldl (fun least key => min least key.index) lexer.tokens.length)

def run : Nat → Lexer → List Token
  | 0, lexer => lexer.settled ++ [.broken .malformed]
  | fuel + 1, lexer =>
    match lexer.step with
    | .error fault => lexer.settled ++ [.broken fault]
    | .ok (.inl tokens) => tokens
    | .ok (.inr later) => run fuel later

end Lexer

def isAllowed (character : Char) : Bool :=
  let code := character.toNat
  character = '\t' || character = '\n' || character = '\r' || (0x20 ≤ code && code ≤ 0x7E) ||
    code = 0x85 || (0xA0 ≤ code && code ≤ 0xFFFD) || 0x10000 ≤ code

def dropByteOrderMark : List Char → List Char
  | '\uFEFF' :: rest => rest
  | text => text

def tokens (text : List Char) : List Token :=
  if text.all isAllowed then
    let unified := dropByteOrderMark (unifyBreaks text)
    Lexer.run (unified.length + 1) (.start unified)
  else [.broken .malformed]

end TenPuzzle.Yaml
