import LinePatch.Yaml.Scanner

/-!
# The parser

The parser turns tokens into events: the bounds of the stream and of each document,
aliases, scalars, and the starts and ends of sequences and mappings. It is a machine
whose state is the production being read, with a stack of the productions to return
to; events are produced one at a time, on demand, and each asks the scanner for just
the tokens it needs.
-/

namespace LinePatch.Yaml

variable [Text.Surrogates]

/-- The kinds of events, with what each carries. -/
inductive EventKind where
  | streamStart
  | streamEnd
  | documentStart (explicit : Bool)
  | documentEnd (explicit : Bool)
  | aliasOf (anchor : String)
  | scalar (anchor : Option String) (tag : Option String) (plainImplicit quotedImplicit : Bool)
      (value : String) (style : Option Char)
  | sequenceStart (anchor : Option String) (tag : Option String) (implicit : Bool)
  | sequenceEnd
  | mappingStart (anchor : Option String) (tag : Option String) (implicit : Bool)
  | mappingEnd
  deriving Inhabited, Repr

/-- An event with its start and end. -/
structure Event where
  kind : EventKind
  start : Mark
  stop : Mark
  deriving Inhabited, Repr

/-- The productions the parser may be reading. -/
inductive Phase where
  | streamStart
  | implicitDocumentStart
  | documentStart
  | documentEnd
  | documentContent
  | blockNode
  | blockSequenceFirstEntry
  | blockSequenceEntry
  | indentlessSequenceEntry
  | blockMappingFirstKey
  | blockMappingKey
  | blockMappingValue
  | flowSequenceFirstEntry
  | flowSequenceEntry
  | flowSequenceEntryMappingKey
  | flowSequenceEntryMappingValue
  | flowSequenceEntryMappingEnd
  | flowMappingFirstKey
  | flowMappingKey
  | flowMappingValue
  | flowMappingEmptyValue
  deriving DecidableEq, Repr, Inhabited

def defaultTagHandles : List (String × String) :=
  [("!", "!"), ("!!", "tag:yaml.org,2002:")]

/-- The state of the parser: the scanner, the event read ahead, the production being
read and those to return to, the starts of the open collections, and the tag handles
and version of the current document. -/
structure Parser where
  scanner : Scanner
  current : Option Event := none
  phase : Option Phase := some .streamStart
  phases : List Phase := []
  marks : List Mark := []
  tagHandles : List (String × String) := []
  version : Option (Nat × Nat) := none
  deriving Inhabited

abbrev ParseM := StateT Parser (Except Failure)

/-- Runs a scanning step inside a parsing step. -/
def scan {α : Type} (m : ScanM α) : ParseM α := fun p => do
  let (a, s) ← m.run p.scanner
  pure (a, { p with scanner := s })

def peekTok : ParseM Token := do
  match ← scan peekToken with
  | some t => pure t
  | none =>
    let m := (← get).scanner.mark
    pure { kind := .streamEnd, start := m, stop := m }

def takeTok : ParseM Token := do
  let t ← peekTok
  discard (scan getToken)
  pure t

def isNext (shapes : List TokenKind.Shape) : ParseM Bool := scan (checkToken shapes)

def parseFail {α : Type} (context : Option String) (contextMark : Option Mark) (problem : String)
    (problemMark : Mark) : ParseM α :=
  throw (Problem.fail
    { context := context, contextMark := contextMark, problem := problem, problemMark := some problemMark })

def goTo (phase : Phase) : ParseM Unit := modify fun p => { p with phase := some phase }

def pushPhase (phase : Phase) : ParseM Unit := modify fun p => { p with phases := phase :: p.phases }

def popPhase : ParseM Unit := modify fun p =>
  match p.phases with
  | s :: rest => { p with phase := some s, phases := rest }
  | [] => { p with phase := none }

def pushMark (m : Mark) : ParseM Unit := modify fun p => { p with marks := m :: p.marks }

def popMark : ParseM Unit := modify fun p => { p with marks := p.marks.drop 1 }

def topMark : ParseM Mark := do
  let p ← get
  pure (p.marks.headD p.scanner.mark)

def emptyScalar (m : Mark) : Event :=
  { kind := .scalar none none true false "" none, start := m, stop := m }

def processDirectives : ParseM Unit := do
  modify fun p => { p with version := none, tagHandles := [] }
  let rec go : Nat → ParseM Unit
    | 0 => pure ()
    | fuel + 1 => do
      if !(← isNext [.directive]) then return
      let t ← takeTok
      match t.kind with
      | .directive "YAML" (.version major minor) =>
        if (← get).version.isSome then
          parseFail none none "found duplicate YAML directive" t.start
        if major != 1 then
          parseFail none none "found incompatible YAML document (version 1.* is required)" t.start
        modify fun p => { p with version := some (major, minor) }
      | .directive "TAG" (.tagPrefix handle pre) =>
        if ((← get).tagHandles.lookup handle).isSome then
          parseFail none none ("duplicate tag handle " ++ Text.quoted handle) t.start
        modify fun p => { p with tagHandles := p.tagHandles ++ [(handle, pre)] }
      | _ => pure ()
      go fuel
  go ((← get).scanner.left + 2)
  modify fun p => { p with
    tagHandles := p.tagHandles ++ defaultTagHandles.filter fun (h, _) => (p.tagHandles.lookup h).isNone }

def parseDocumentStart : ParseM Event := do
  let rec skipEnds : Nat → ParseM Unit
    | 0 => pure ()
    | fuel + 1 => do
      if ← isNext [.documentEnd] then
        discard takeTok
        skipEnds fuel
  skipEnds ((← get).scanner.left + 2)
  if !(← isNext [.streamEnd]) then
    let start := (← peekTok).start
    processDirectives
    if !(← isNext [.documentStart]) then
      let t ← peekTok
      parseFail none none ("expected '<document start>', but found " ++ Text.quoted t.kind.id) t.start
    let t ← takeTok
    pushPhase .documentEnd
    goTo .documentContent
    return { kind := .documentStart true, start := start, stop := t.stop }
  else
    let t ← takeTok
    modify fun p => { p with phase := none }
    return { kind := .streamEnd, start := t.start, stop := t.stop }

def parseImplicitDocumentStart : ParseM Event := do
  if !(← isNext [.directive, .documentStart, .streamEnd]) then
    modify fun p => { p with tagHandles := defaultTagHandles }
    let m := (← peekTok).start
    pushPhase .documentEnd
    goTo .blockNode
    return { kind := .documentStart false, start := m, stop := m }
  else parseDocumentStart

def parseDocumentEnd : ParseM Event := do
  let t ← peekTok
  let (stop, explicit) ←
    if ← isNext [.documentEnd] then do
      let t ← takeTok
      pure (t.stop, true)
    else pure (t.start, false)
  goTo .documentStart
  return { kind := .documentEnd explicit, start := t.start, stop := stop }

def parseNode (block indentless : Bool) : ParseM Event := do
  if ← isNext [.aliasOf] then
    let t ← takeTok
    popPhase
    match t.kind with
    | .aliasOf name => return { kind := .aliasOf name, start := t.start, stop := t.stop }
    | _ => return { kind := .aliasOf "", start := t.start, stop := t.stop }
  let mut anchor : Option String := none
  let mut tag : Option (Option String × String) := none
  let mut start : Option Mark := none
  let mut stop : Option Mark := none
  let mut tagMark : Option Mark := none
  if ← isNext [.anchor] then
    let t ← takeTok
    start := some t.start
    stop := some t.stop
    if let .anchor a := t.kind then anchor := some a
    if ← isNext [.tag] then
      let t ← takeTok
      tagMark := some t.start
      stop := some t.stop
      if let .tag h s := t.kind then tag := some (h, s)
  else if ← isNext [.tag] then
    let t ← takeTok
    start := some t.start
    tagMark := some t.start
    stop := some t.stop
    if let .tag h s := t.kind then tag := some (h, s)
    if ← isNext [.anchor] then
      let t ← takeTok
      stop := some t.stop
      if let .anchor a := t.kind then anchor := some a
  let resolved : Option String ←
    match tag with
    | none => pure none
    | some (some handle, suffix) =>
      match (← get).tagHandles.lookup handle with
      | some pre => pure (some (pre ++ suffix))
      | none =>
        parseFail (some "while parsing a node") start ("found undefined tag handle " ++ Text.quoted handle)
          (tagMark.getD (← peekTok).start)
    | some (none, suffix) => pure (some suffix)
  let next ← peekTok
  let begin := start.getD next.start
  let propsEnd := stop.getD next.start
  let implicit := resolved.isNone || resolved == some "!"
  if indentless && next.kind.shape == .blockEntry then
    goTo .indentlessSequenceEntry
    return { kind := .sequenceStart anchor resolved implicit, start := begin, stop := next.stop }
  match next.kind with
  | .scalar value plain style =>
    discard takeTok
    let (pi, qi) :=
      if (plain && resolved.isNone) || resolved == some "!" then (true, false)
      else if resolved.isNone then (false, true)
      else (false, false)
    popPhase
    return { kind := .scalar anchor resolved pi qi value style, start := begin, stop := next.stop }
  | .flowSequenceStart =>
    goTo .flowSequenceFirstEntry
    return { kind := .sequenceStart anchor resolved implicit, start := begin, stop := next.stop }
  | .flowMappingStart =>
    goTo .flowMappingFirstKey
    return { kind := .mappingStart anchor resolved implicit, start := begin, stop := next.stop }
  | .blockSequenceStart =>
    if block then
      goTo .blockSequenceFirstEntry
      return { kind := .sequenceStart anchor resolved implicit, start := begin, stop := next.start }
  | .blockMappingStart =>
    if block then
      goTo .blockMappingFirstKey
      return { kind := .mappingStart anchor resolved implicit, start := begin, stop := next.start }
  | _ => pure ()
  if anchor.isSome || resolved.isSome then
    popPhase
    return { kind := .scalar anchor resolved implicit false "" none, start := begin, stop := propsEnd }
  parseFail (some ("while parsing a " ++ (if block then "block" else "flow") ++ " node")) (some begin)
    ("expected the node content, but found " ++ Text.quoted next.kind.id) next.start

def parseDocumentContent : ParseM Event := do
  if ← isNext [.directive, .documentStart, .documentEnd, .streamEnd] then
    let m := (← peekTok).start
    popPhase
    return emptyScalar m
  else parseNode true false

def parseBlockSequenceEntry : ParseM Event := do
  if ← isNext [.blockEntry] then
    let t ← takeTok
    if !(← isNext [.blockEntry, .blockEnd]) then
      pushPhase .blockSequenceEntry
      return ← parseNode true false
    else
      goTo .blockSequenceEntry
      return emptyScalar t.stop
  if !(← isNext [.blockEnd]) then
    let t ← peekTok
    parseFail (some "while parsing a block collection") (some (← topMark))
      ("expected <block end>, but found " ++ Text.quoted t.kind.id) t.start
  let t ← takeTok
  popPhase
  popMark
  return { kind := .sequenceEnd, start := t.start, stop := t.stop }

def parseIndentlessSequenceEntry : ParseM Event := do
  if ← isNext [.blockEntry] then
    let t ← takeTok
    if !(← isNext [.blockEntry, .key, .value, .blockEnd]) then
      pushPhase .indentlessSequenceEntry
      return ← parseNode true false
    else
      goTo .indentlessSequenceEntry
      return emptyScalar t.stop
  let t ← peekTok
  popPhase
  return { kind := .sequenceEnd, start := t.start, stop := t.start }

def parseBlockMappingKey : ParseM Event := do
  if ← isNext [.key] then
    let t ← takeTok
    if !(← isNext [.key, .value, .blockEnd]) then
      pushPhase .blockMappingValue
      return ← parseNode true true
    else
      goTo .blockMappingValue
      return emptyScalar t.stop
  if !(← isNext [.blockEnd]) then
    let t ← peekTok
    parseFail (some "while parsing a block mapping") (some (← topMark))
      ("expected <block end>, but found " ++ Text.quoted t.kind.id) t.start
  let t ← takeTok
  popPhase
  popMark
  return { kind := .mappingEnd, start := t.start, stop := t.stop }

def parseBlockMappingValue : ParseM Event := do
  if ← isNext [.value] then
    let t ← takeTok
    if !(← isNext [.key, .value, .blockEnd]) then
      pushPhase .blockMappingKey
      parseNode true true
    else
      goTo .blockMappingKey
      return emptyScalar t.stop
  else
    goTo .blockMappingKey
    return emptyScalar (← peekTok).start

def parseFlowSequenceEntry (first : Bool) : ParseM Event := do
  if !(← isNext [.flowSequenceEnd]) then
    if !first then
      if ← isNext [.flowEntry] then discard takeTok
      else
        let t ← peekTok
        parseFail (some "while parsing a flow sequence") (some (← topMark))
          ("expected ',' or ']', but got " ++ Text.quoted t.kind.id) t.start
    if ← isNext [.key] then
      let t ← peekTok
      goTo .flowSequenceEntryMappingKey
      return { kind := .mappingStart none none true, start := t.start, stop := t.stop }
    else if !(← isNext [.flowSequenceEnd]) then
      pushPhase .flowSequenceEntry
      return ← parseNode false false
  let t ← takeTok
  popPhase
  popMark
  return { kind := .sequenceEnd, start := t.start, stop := t.stop }

def parseFlowSequenceEntryMappingKey : ParseM Event := do
  let t ← takeTok
  if !(← isNext [.value, .flowEntry, .flowSequenceEnd]) then
    pushPhase .flowSequenceEntryMappingValue
    parseNode false false
  else
    goTo .flowSequenceEntryMappingValue
    return emptyScalar t.stop

def parseFlowSequenceEntryMappingValue : ParseM Event := do
  if ← isNext [.value] then
    let t ← takeTok
    if !(← isNext [.flowEntry, .flowSequenceEnd]) then
      pushPhase .flowSequenceEntryMappingEnd
      parseNode false false
    else
      goTo .flowSequenceEntryMappingEnd
      return emptyScalar t.stop
  else
    goTo .flowSequenceEntryMappingEnd
    return emptyScalar (← peekTok).start

def parseFlowSequenceEntryMappingEnd : ParseM Event := do
  goTo .flowSequenceEntry
  let t ← peekTok
  return { kind := .mappingEnd, start := t.start, stop := t.start }

def parseFlowMappingKey (first : Bool) : ParseM Event := do
  if !(← isNext [.flowMappingEnd]) then
    if !first then
      if ← isNext [.flowEntry] then discard takeTok
      else
        let t ← peekTok
        parseFail (some "while parsing a flow mapping") (some (← topMark))
          ("expected ',' or '\x7d', but got " ++ Text.quoted t.kind.id) t.start
    if ← isNext [.key] then
      let t ← takeTok
      if !(← isNext [.value, .flowEntry, .flowMappingEnd]) then
        pushPhase .flowMappingValue
        return ← parseNode false false
      else
        goTo .flowMappingValue
        return emptyScalar t.stop
    else if !(← isNext [.flowMappingEnd]) then
      pushPhase .flowMappingEmptyValue
      return ← parseNode false false
  let t ← takeTok
  popPhase
  popMark
  return { kind := .mappingEnd, start := t.start, stop := t.stop }

def parseFlowMappingValue : ParseM Event := do
  if ← isNext [.value] then
    let t ← takeTok
    if !(← isNext [.flowEntry, .flowMappingEnd]) then
      pushPhase .flowMappingKey
      parseNode false false
    else
      goTo .flowMappingKey
      return emptyScalar t.stop
  else
    goTo .flowMappingKey
    return emptyScalar (← peekTok).start

/-- Runs the production being read, giving the next event. -/
def step : Phase → ParseM Event
  | .streamStart => do
    let t ← takeTok
    goTo .implicitDocumentStart
    return { kind := .streamStart, start := t.start, stop := t.stop }
  | .implicitDocumentStart => parseImplicitDocumentStart
  | .documentStart => parseDocumentStart
  | .documentEnd => parseDocumentEnd
  | .documentContent => parseDocumentContent
  | .blockNode => parseNode true false
  | .blockSequenceFirstEntry => do
    pushMark (← takeTok).start
    parseBlockSequenceEntry
  | .blockSequenceEntry => parseBlockSequenceEntry
  | .indentlessSequenceEntry => parseIndentlessSequenceEntry
  | .blockMappingFirstKey => do
    pushMark (← takeTok).start
    parseBlockMappingKey
  | .blockMappingKey => parseBlockMappingKey
  | .blockMappingValue => parseBlockMappingValue
  | .flowSequenceFirstEntry => do
    pushMark (← takeTok).start
    parseFlowSequenceEntry true
  | .flowSequenceEntry => parseFlowSequenceEntry false
  | .flowSequenceEntryMappingKey => parseFlowSequenceEntryMappingKey
  | .flowSequenceEntryMappingValue => parseFlowSequenceEntryMappingValue
  | .flowSequenceEntryMappingEnd => parseFlowSequenceEntryMappingEnd
  | .flowMappingFirstKey => do
    pushMark (← takeTok).start
    parseFlowMappingKey true
  | .flowMappingKey => parseFlowMappingKey false
  | .flowMappingValue => parseFlowMappingValue
  | .flowMappingEmptyValue => do
    goTo .flowMappingKey
    return emptyScalar (← peekTok).start

def peekEvent : ParseM (Option Event) := do
  let p ← get
  match p.current with
  | some e => pure (some e)
  | none =>
    match p.phase with
    | none => pure none
    | some ph =>
      let e ← step ph
      modify fun p => { p with current := some e }
      pure (some e)

def takeEvent : ParseM (Option Event) := do
  let e ← peekEvent
  modify fun p => { p with current := none }
  pure e

end LinePatch.Yaml
