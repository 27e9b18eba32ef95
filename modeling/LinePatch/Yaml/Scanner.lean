import LinePatch.Yaml.Scalar

/-!
# The scanner

Tokens are scanned on demand. Before a token is handed out, the scanner makes sure it
cannot still turn out to be a simple key: while the nearest place that may start a
simple key is the next token to hand out, more tokens are scanned, until a `:` makes
it a key (a key token, and a block mapping start when the key opens a deeper block,
are then put in front of it) or the place goes stale.
-/

namespace LinePatch.Yaml

variable [Text.Surrogates]

def toNextToken : ScanM Unit := do
  let s ← get
  if s.index = 0 && s.look 0 = '\uFEFF' then forward
  let rec go : Nat → ScanM Unit
    | 0 => pure ()
    | fuel + 1 => do
      skipWhile (· = ' ')
      if (← peek) = '#' then skipWhile fun c => !isBreakOrEnd c
      if (← lineBreak) != "" then
        if (← get).flowLevel = 0 then modify fun s => { s with allowSimpleKey := true }
        go fuel
  go ((← get).left + 1)

def oneCharToken (kind : TokenKind) : ScanM Unit := do
  let start ← here
  forward
  emit { kind := kind, start := start, stop := ← here }

def fetchStreamEnd : ScanM Unit := do
  unwindIndent (-1)
  removeSimpleKey
  modify fun s => { s with allowSimpleKey := false, simpleKeys := [] }
  let m ← here
  emit { kind := .streamEnd, start := m, stop := m }
  modify fun s => { s with done := true }

def fetchDirective : ScanM Unit := do
  unwindIndent (-1)
  removeSimpleKey
  modify fun s => { s with allowSimpleKey := false }
  emit (← directiveToken)

def fetchDocumentIndicator (kind : TokenKind) : ScanM Unit := do
  unwindIndent (-1)
  removeSimpleKey
  modify fun s => { s with allowSimpleKey := false }
  let start ← here
  forward 3
  emit { kind := kind, start := start, stop := ← here }

def fetchFlowStart (kind : TokenKind) : ScanM Unit := do
  saveSimpleKey
  modify fun s => { s with flowLevel := s.flowLevel + 1, allowSimpleKey := true }
  oneCharToken kind

def fetchFlowEnd (kind : TokenKind) : ScanM Unit := do
  removeSimpleKey
  modify fun s => { s with flowLevel := s.flowLevel - 1, allowSimpleKey := false }
  oneCharToken kind

def fetchFlowEntry : ScanM Unit := do
  modify fun s => { s with allowSimpleKey := true }
  removeSimpleKey
  oneCharToken .flowEntry

def fetchBlockEntry : ScanM Unit := do
  let s ← get
  if s.flowLevel = 0 then
    if !s.allowSimpleKey then fail none none "sequence entries are not allowed here"
    if ← addIndent s.column then
      let m ← here
      emit { kind := .blockSequenceStart, start := m, stop := m }
  modify fun s => { s with allowSimpleKey := true }
  removeSimpleKey
  oneCharToken .blockEntry

def fetchKey : ScanM Unit := do
  let s ← get
  if s.flowLevel = 0 then
    if !s.allowSimpleKey then fail none none "mapping keys are not allowed here"
    if ← addIndent s.column then
      let m ← here
      emit { kind := .blockMappingStart, start := m, stop := m }
  modify fun s => { s with allowSimpleKey := s.flowLevel = 0 }
  removeSimpleKey
  oneCharToken .key

def insertToken (number : Nat) (t : Token) : ScanM Unit :=
  modify fun s =>
    let k := number - s.taken
    { s with tokens := s.tokens.take k ++ t :: s.tokens.drop k }

def fetchValue : ScanM Unit := do
  let s ← get
  match s.simpleKeys.lookup s.flowLevel with
  | some key =>
    set { s with simpleKeys := s.simpleKeys.filter (fun (e : Int × SimpleKey) => e.1 != s.flowLevel) }
    insertToken key.tokenNumber { kind := .key, start := key.mark, stop := key.mark }
    if s.flowLevel = 0 then
      if ← addIndent key.column then
        insertToken key.tokenNumber { kind := .blockMappingStart, start := key.mark, stop := key.mark }
    modify fun s => { s with allowSimpleKey := false }
  | none =>
    if s.flowLevel = 0 then
      if !s.allowSimpleKey then fail none none "mapping values are not allowed here"
      if ← addIndent s.column then
        let m ← here
        emit { kind := .blockMappingStart, start := m, stop := m }
    modify fun s => { s with allowSimpleKey := s.flowLevel = 0 }
    removeSimpleKey
  oneCharToken .value

def fetchAnchor (isAlias : Bool) : ScanM Unit := do
  saveSimpleKey
  modify fun s => { s with allowSimpleKey := false }
  emit (← anchorToken isAlias)

def fetchTag : ScanM Unit := do
  saveSimpleKey
  modify fun s => { s with allowSimpleKey := false }
  emit (← tagToken)

def fetchBlockScalar (folded : Bool) : ScanM Unit := do
  modify fun s => { s with allowSimpleKey := true }
  removeSimpleKey
  emit (← blockScalar folded)

def fetchQuoted (double : Bool) : ScanM Unit := do
  saveSimpleKey
  modify fun s => { s with allowSimpleKey := false }
  emit (← quotedScalar double)

def fetchPlain : ScanM Unit := do
  saveSimpleKey
  modify fun s => { s with allowSimpleKey := false }
  emit (← plainScalar)

def startsPlain (s : Scanner) : Bool :=
  let ch := s.look 0
  let next := s.look 1
  !(isBlankOrEnd ch || isOneOf "-?:,[]\x7b\x7d#&*!|>'\"%@`" ch) ||
    (!isBlankOrEnd next && (ch = '-' || (s.flowLevel = 0 && (ch = '?' || ch = ':'))))

def atIndicator (s : Scanner) (c : Char) : Bool :=
  s.column = 0 && s.look 0 = c && s.look 1 = c && s.look 2 = c && isBlankOrEnd (s.look 3)

def fetchMoreTokens : ScanM Unit := do
  toNextToken
  staleSimpleKeys
  unwindIndent (← get).column
  let s ← get
  let ch := s.look 0
  let blockSep := fun (c : Char) => s.flowLevel != 0 || isBlankOrEnd c
  if ch = '\x00' then fetchStreamEnd
  else if ch = '%' && s.column = 0 then fetchDirective
  else if ch = '-' && atIndicator s '-' then fetchDocumentIndicator .documentStart
  else if ch = '.' && atIndicator s '.' then fetchDocumentIndicator .documentEnd
  else if ch = '[' then fetchFlowStart .flowSequenceStart
  else if ch = '\x7b' then fetchFlowStart .flowMappingStart
  else if ch = ']' then fetchFlowEnd .flowSequenceEnd
  else if ch = '\x7d' then fetchFlowEnd .flowMappingEnd
  else if ch = ',' then fetchFlowEntry
  else if ch = '-' && isBlankOrEnd (s.look 1) then fetchBlockEntry
  else if ch = '?' && blockSep (s.look 1) then fetchKey
  else if ch = ':' && blockSep (s.look 1) then fetchValue
  else if ch = '*' then fetchAnchor true
  else if ch = '&' then fetchAnchor false
  else if ch = '!' then fetchTag
  else if ch = '|' && s.flowLevel = 0 then fetchBlockScalar false
  else if ch = '>' && s.flowLevel = 0 then fetchBlockScalar true
  else if ch = '\'' then fetchQuoted false
  else if ch = '"' then fetchQuoted true
  else if startsPlain s then fetchPlain
  else
    fail (some "while scanning for the next token") none
      ("found character " ++ shown ch ++ " that cannot start any token")

def needMoreTokens : ScanM Bool := do
  let s ← get
  if s.done then return false
  if s.tokens.isEmpty then return true
  staleSimpleKeys
  let s ← get
  return nextSimpleKey s == some s.taken

def fillTokens : ScanM Unit := do
  let rec go : Nat → ScanM Unit
    | 0 => pure ()
    | fuel + 1 => do
      if ← needMoreTokens then
        fetchMoreTokens
        go fuel
  go ((← get).left + 2)

def peekToken : ScanM (Option Token) := do
  fillTokens
  return (← get).tokens.head?

def checkToken (shapes : List TokenKind.Shape) : ScanM Bool := do
  match ← peekToken with
  | some t => return shapes.contains t.kind.shape
  | none => return false

def getToken : ScanM (Option Token) := do
  fillTokens
  let s ← get
  match s.tokens with
  | t :: rest =>
    set { s with tokens := rest, taken := s.taken + 1 }
    return some t
  | [] => return none

/-- A scanner at the start of a document's characters, with the stream start token. -/
def Scanner.start (name : String) (text : Array Char) : Scanner :=
  let m : Mark := { name := name, index := 0, line := 0, column := 0 }
  { text := text, name := name, tokens := [{ kind := .streamStart, start := m, stop := m }] }

end LinePatch.Yaml
