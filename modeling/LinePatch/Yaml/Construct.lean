import LinePatch.Yaml.Compose
import LinePatch.Conversion
import LinePatch.Text.Case

/-!
# Building values from the node graph

Each node is built into a value once; a node met again, through an alias, gives the
same value. A scalar is built at once, by its tag: nothing, a truth value, a whole or
real number, bytes written in base 64, a timestamp, or a text. A collection starts out
empty and is filled in a later round: the collections met while filling one round are
filled in the next. So a collection may hold itself, and a key that is a collection is
refused even before that collection is filled.
-/

namespace LinePatch.Yaml

variable [Text.Surrogates]

/-- A value built from a node. Collections hold the numbers of their items' nodes. -/
inductive Built where
  /-- A value without parts; `shared` marks the one not-a-number that every `.nan`
  text stands for, which as a key is the same key wherever it is written. -/
  | atom (v : Setting) (shared : Bool)
  | list (items : List Nat)
  | dict (entries : List (Nat × Nat))
  | set (items : List Nat)
  | pairs (entries : List (Nat × Nat))
  deriving Inhabited

/-- The builders, one for each known tag. -/
inductive Maker where
  | null | bool | int | float | binary | timestamp | str
  | seq | map | set | omap | pairs
  deriving DecidableEq, Repr

def makers : List (String × Maker) :=
  [("null", .null), ("bool", .bool), ("int", .int), ("float", .float), ("binary", .binary),
    ("timestamp", .timestamp), ("omap", .omap), ("pairs", .pairs), ("set", .set),
    ("str", .str), ("seq", .seq), ("map", .map)]

def makerOf (tag : String) : Option Maker :=
  (makers.find? fun (name, _) => yamlTag name = tag).map (·.2)

/-! ## Scalars -/

def pastEnd : Failure := .unbuildable .index "string index out of range"

def endless : Failure := .unbuildable .recursion "maximum recursion depth exceeded"

def truthOf (text : String) : Except Failure Setting :=
  let key := Text.toLower text
  if key = "yes" || key = "true" || key = "on" then .ok (.bool true)
  else if key = "no" || key = "false" || key = "off" then .ok (.bool false)
  else .error (.unbuildable .key (Text.quoted key))

def piecesBy (sep : Char) (cs : List Char) : List (List Char) :=
  cs.splitOn sep

def wholeIn (base : Nat) (cs : List Char) : Except Failure Int :=
  let s := String.ofList cs
  match Number.readWholeIn base s with
  | .ok n => .ok n
  | .error .malformed => .error (.unbuildable .value (Fault.notAWhole base s).message)
  | .error (.tooLong d) => .error (.unbuildable .value (Fault.wholeTooLong d).message)

def sexagesimal (digits : List Int) : Int :=
  digits.foldl (fun acc d => acc * 60 + d) 0

def wholeOf (text : String) : Except Failure Int := do
  let v := text.toList.filter (· ≠ '_')
  match v with
  | [] => throw pastEnd
  | c :: _ =>
    let neg := c = '-'
    let v := if c = '+' || c = '-' then v.tail else v
    let signed := fun (n : Int) => if neg then -n else n
    if v = ['0'] then return 0
    match v with
    | '0' :: 'b' :: r => return signed (← wholeIn 2 r)
    | '0' :: 'x' :: r => return signed (← wholeIn 16 r)
    | '0' :: _ => return signed (← wholeIn 8 v)
    | [] => throw pastEnd
    | _ =>
      if v.contains ':' then
        let digits ← (piecesBy ':' v).mapM (wholeIn 10)
        return signed (sexagesimal digits)
      else return signed (← wholeIn 10 v)

def realIn (cs : List Char) : Except Failure Float :=
  let s := String.ofList cs
  match Number.readFloat? s with
  | some x => .ok x
  | none => .error (.unbuildable .value (Fault.notAReal s).message)

def sexagesimalReal : List Float → Nat → Float → Except Failure Float
  | [], _, acc => .ok acc
  | d :: rest, place, acc =>
    let p := Number.ofWhole place
    if p.isInf then .error (.unbuildable .overflow (Fault.realTooLarge).message)
    else sexagesimalReal rest (place * 60) (acc + d * p)

def realOf (text : String) : Except Failure (Float × Bool) := do
  let v := (Text.toLower (String.ofList (text.toList.filter (· ≠ '_')))).toList
  match v with
  | [] => throw pastEnd
  | c :: _ =>
    let neg := c = '-'
    let v := if c = '+' || c = '-' then v.tail else v
    let signed := fun (x : Float) => if neg then -x else x
    if v = ".inf".toList then return (signed (1.0 / 0.0), false)
    if v = ".nan".toList then return (0.0 / 0.0, true)
    if v.contains ':' then
      let digits ← (piecesBy ':' v).mapM realIn
      return (signed (← sexagesimalReal digits.reverse 1 0), false)
    return (signed (← realIn v), false)

def base64Value (c : Char) : Option Nat :=
  if 'A' ≤ c && c ≤ 'Z' then some (c.toNat - 'A'.toNat)
  else if 'a' ≤ c && c ≤ 'z' then some (c.toNat - 'a'.toNat + 26)
  else if '0' ≤ c && c ≤ '9' then some (c.toNat - '0'.toNat + 52)
  else if c = '+' then some 62
  else if c = '/' then some 63
  else none

def decodeBase64 : List Char → Nat → Nat → Nat → List Nat → Except String (List Nat)
  | [], quad, _, _, out =>
    if quad = 0 then .ok out.reverse
    else if quad = 1 then
      .error ("Invalid base64-encoded string: number of data characters (" ++
        toString (out.length / 3 * 4 + 1) ++ ") cannot be 1 more than a multiple of 4")
    else .error "Incorrect padding"
  | c :: rest, quad, left, pads, out =>
    if c = '=' then
      if quad ≥ 2 && quad + (pads + 1) ≥ 4 then .ok out.reverse
      else decodeBase64 rest quad left (if quad ≥ 2 then pads + 1 else pads) out
    else
      match base64Value c with
      | none => decodeBase64 rest quad left pads out
      | some v =>
        match quad with
        | 0 => decodeBase64 rest 1 v 0 out
        | 1 => decodeBase64 rest 2 (v % 16) 0 ((left * 4 + v / 16) % 256 :: out)
        | 2 => decodeBase64 rest 3 (v % 4) 0 ((left * 16 + v / 4) % 256 :: out)
        | _ => decodeBase64 rest 0 0 0 ((left * 64 + v) % 256 :: out)

def escapedCode (c : Char) : String :=
  let n := c.toNat
  if n ≤ 0xff then "\\x" ++ String.ofList (Text.hexDigits 2 n)
  else if n ≤ 0xffff then "\\u" ++ String.ofList (Text.hexDigits 4 n)
  else "\\U" ++ String.ofList (Text.hexDigits 8 n)

def asciiProblem (cs : List Char) : Option String :=
  match cs.findIdx? (fun c => c.toNat ≥ 128) with
  | none => none
  | some i =>
    let run := ((cs.drop i).takeWhile fun c => c.toNat ≥ 128).length
    let whereAt :=
      if run = 1 then
        "character '" ++ escapedCode (cs.getD i ' ') ++ "' in position " ++ toString i
      else "characters in position " ++ toString i ++ "-" ++ toString (i + run - 1)
    some ("'ascii' codec can't encode " ++ whereAt ++ ": ordinal not in range(128)")

def bytesOf (text : String) (start : Mark) : Except Failure Setting :=
  let cs := text.toList
  match asciiProblem cs with
  | some p =>
    .error (Problem.fail (Problem.mk none none ("failed to convert base64 data into ascii: " ++ p)
      (some start)))
  | none =>
    match decodeBase64 cs 0 0 0 [] with
    | .ok data => .ok (.bytes data)
    | .error p =>
      .error (Problem.fail (Problem.mk none none ("failed to decode base64 data: " ++ p)
        (some start)))

/-! ## Timestamps -/

def takeDigits (n : Nat) (cs : List Char) : Option (List Char × List Char) :=
  let ds := cs.take n
  if ds.length = n && ds.all Char.isDigit then some (ds, cs.drop n) else none

def takeDigits12 (cs : List Char) : Option (List Char × List Char) :=
  match takeDigits 2 cs with
  | some r => some r
  | none => takeDigits 1 cs

def atEnd (cs : List Char) : Bool := cs.isEmpty || cs == ['\n']

def expectChar (c : Char) : List Char → Option (List Char)
  | d :: rest => if c = d then some rest else none
  | [] => none

/-- The offset of a timestamp text: UTC, or a sign with hours and maybe minutes. -/
inductive ZoneText where
  | utc
  | offset (neg : Bool) (hour : List Char) (minute : Option (List Char))

/-- The time of day of a timestamp text. -/
structure ClockText where
  hour : List Char
  minute : List Char
  second : List Char
  fraction : Option (List Char)
  zone : Option ZoneText

/-- The fields of a timestamp text. -/
structure StampText where
  year : List Char
  month : List Char
  day : List Char
  clock : Option ClockText

def zoneText : List Char → Option ZoneText
  | 'Z' :: rest => if atEnd rest then some .utc else none
  | c :: rest =>
    if c = '-' || c = '+' then do
      let (h, r) ← takeDigits12 rest
      if atEnd r then return .offset (c = '-') h none
      let r ← expectChar ':' r
      let (m, r) ← takeDigits 2 r
      if atEnd r then return .offset (c = '-') h (some m) else none
    else none
  | [] => none

def clockText (cs : List Char) : Option ClockText := do
  let r ← match cs with
    | c :: rest =>
      if c = 'T' || c = 't' then some rest
      else if c = ' ' || c = '\t' then some (rest.dropWhile fun c => c = ' ' || c = '\t')
      else none
    | [] => none
  let (h, r) ← takeDigits12 r
  let r ← expectChar ':' r
  let (mi, r) ← takeDigits 2 r
  let r ← expectChar ':' r
  let (s, r) ← takeDigits 2 r
  let (fraction, r) := match r with
    | '.' :: rest => (some (rest.takeWhile Char.isDigit), rest.dropWhile Char.isDigit)
    | _ => (none, r)
  if atEnd r then
    return { hour := h, minute := mi, second := s, fraction := fraction, zone := none }
  let z ← zoneText (r.dropWhile fun c => c = ' ' || c = '\t')
  return { hour := h, minute := mi, second := s, fraction := fraction, zone := some z }

def stampText (cs : List Char) : Option StampText := do
  let (y, r) ← takeDigits 4 cs
  let r ← expectChar '-' r
  let (mo, r) ← takeDigits12 r
  let r ← expectChar '-' r
  let (d, r) ← takeDigits12 r
  if atEnd r then return { year := y, month := mo, day := d, clock := none }
  let clock ← clockText r
  return { year := y, month := mo, day := d, clock := some clock }

def digitsNat (ds : List Char) : Nat := Number.digitsValue ds

def zoneSeconds : ZoneText → Int
  | .utc => 0
  | .offset neg h m =>
    let secs : Int := digitsNat h * 3600 + (m.map digitsNat).getD 0 * 60
    if neg then -secs else secs

def stampOf (text : String) : Except Failure Setting := do
  match stampText text.toList with
  | none => throw (.unbuildable .attribute "'NoneType' object has no attribute 'groupdict'")
  | some st =>
    let y := digitsNat st.year
    let mo := digitsNat st.month
    let d := digitsNat st.day
    match st.clock with
    | none =>
      match Timestamp.dateProblem y mo d with
      | some p => throw (.unbuildable .value p)
      | none => return .stamp (.date y mo d)
    | some c =>
      let frac := match c.fraction with
        | some ds@(_ :: _) =>
          let six := ds.take 6
          digitsNat (six ++ List.replicate (6 - six.length) '0')
        | _ => 0
      let offset := c.zone.map zoneSeconds
      match offset.bind Timestamp.offsetProblem with
      | some p => throw (.unbuildable .value p)
      | none => pure ()
      let h := digitsNat c.hour
      let mi := digitsNat c.minute
      let s := digitsNat c.second
      match Timestamp.dateProblem y mo d <|> Timestamp.clockProblem h mi s with
      | some p => throw (.unbuildable .value p)
      | none => return .stamp (.time y mo d h mi s frac offset)

/-! ## The building state -/

/-- The state of building: the nodes, which flattening may change, the values built
so far, and the collections waiting to be filled. -/
structure Builder where
  nodes : Array Node
  built : Array (Option Built)
  pending : List Nat := []

abbrev BuildM := StateT Builder (Except Failure)

def nodeAt (n : Nat) : BuildM Node := do
  pure ((← get).nodes[n]?.getD default)

def pairsOf (n : Nat) : BuildM (List (Nat × Nat)) := do
  match (← nodeAt n).body with
  | .mapping pairs => pure pairs
  | _ => pure []

def setPairs (n : Nat) (pairs : List (Nat × Nat)) : BuildM Unit :=
  modify fun b => { b with nodes := b.nodes.modify n fun node => { node with body := .mapping pairs } }

def setTag (n : Nat) (tag : String) : BuildM Unit :=
  modify fun b => { b with nodes := b.nodes.modify n fun node => { node with tag := tag } }

def builtAt (n : Nat) : BuildM (Option Built) := do
  pure ((← get).built[n]?.join)

/-- Records the value built for a node. -/
def place (n : Nat) (v : Built) : BuildM Unit :=
  modify fun b => { b with built := b.built.set! n (some v) }

def buildFail {α : Type} (context : Option String) (contextMark : Option Mark) (problem : String)
    (problemMark : Mark) : BuildM α :=
  throw (Problem.fail
    { context := context, contextMark := contextMark, problem := problem, problemMark := some problemMark })

def orFail {α : Type} (r : Except Failure α) : BuildM α :=
  match r with
  | .ok a => pure a
  | .error e => throw e

def scalarText : Nat → Nat → BuildM String
  | 0, _ => throw endless
  | fuel + 1, n => do
    let node ← nodeAt n
    match node.body with
    | .scalar v => pure v
    | .mapping pairs =>
      let nodes := (← get).nodes
      match pairs.find? (fun (k, _) => (nodes[k]?.map (·.tag)) == some (yamlTag "value")) with
      | some (_, v) => scalarText fuel v
      | none => buildFail none none ("expected a scalar node, but found " ++ node.kindName) node.start
    | .sequence _ => buildFail none none ("expected a scalar node, but found " ++ node.kindName) node.start

def scalarValue (m : Maker) (n : Nat) : BuildM Built := do
  let fuel := (← get).nodes.size + 1
  let text ← scalarText fuel n
  let node ← nodeAt n
  match m with
  | .null => pure (.atom .none false)
  | .bool => pure (.atom (← orFail (truthOf text)) false)
  | .int => pure (.atom (.int (← orFail (wholeOf text))) false)
  | .float =>
    let (x, shared) ← orFail (realOf text)
    pure (.atom (.float x) shared)
  | .binary => pure (.atom (← orFail (bytesOf text node.start)) false)
  | .timestamp =>
    match node.body with
    | .scalar raw => pure (.atom (← orFail (stampOf raw)) false)
    | _ => throw (.unbuildable .type "expected string or bytes-like object, got 'list'")
  | _ => pure (.atom (.str text) false)

def construct (n : Nat) : BuildM Unit := do
  if (← builtAt n).isSome then return
  let node ← nodeAt n
  match makerOf node.tag with
  | none =>
    buildFail none none ("could not determine a constructor for the tag " ++ Text.quoted node.tag)
      node.start
  | some .seq => place n (.list []); modify fun b => { b with pending := b.pending ++ [n] }
  | some .map => place n (.dict []); modify fun b => { b with pending := b.pending ++ [n] }
  | some .set => place n (.set []); modify fun b => { b with pending := b.pending ++ [n] }
  | some .omap | some .pairs =>
    place n (.pairs []); modify fun b => { b with pending := b.pending ++ [n] }
  | some m => place n (← scalarValue m n)

/-! ## Mappings -/

def mergeContext : String := "while constructing a mapping"

mutual

def flatten : Nat → Nat → BuildM Unit
  | 0, _ => throw endless
  | fuel + 1, n => do
    let merged ← flattenFrom fuel n 0 []
    if !merged.isEmpty then setPairs n (merged ++ (← pairsOf n))

def flattenFrom : Nat → Nat → Nat → List (Nat × Nat) → BuildM (List (Nat × Nat))
  | 0, _, _, _ => throw endless
  | fuel + 1, n, index, merged => do
    let pairs ← pairsOf n
    match pairs[index]? with
    | none => pure merged
    | some (k, v) =>
      let key ← nodeAt k
      if key.tag = yamlTag "merge" then
        setPairs n (pairs.eraseIdx index)
        let value ← nodeAt v
        match value.body with
        | .mapping _ =>
          flatten fuel v
          let more ← pairsOf v
          flattenFrom fuel n index (merged ++ more)
        | .sequence items =>
          let groups ← mergeGroups fuel n items []
          flattenFrom fuel n index (merged ++ groups.reverse.flatten)
        | .scalar _ =>
          buildFail (some mergeContext) (some (← nodeAt n).start)
            ("expected a mapping or list of mappings for merging, but found " ++ value.kindName)
            value.start
      else
        if key.tag = yamlTag "value" then setTag k (yamlTag "str")
        flattenFrom fuel n (index + 1) merged

def mergeGroups : Nat → Nat → List Nat → List (List (Nat × Nat)) →
    BuildM (List (List (Nat × Nat)))
  | 0, _, _, _ => throw endless
  | _ + 1, _, [], groups => pure groups
  | fuel + 1, n, s :: rest, groups => do
    let sub ← nodeAt s
    match sub.body with
    | .mapping _ =>
      flatten fuel s
      let pairs ← pairsOf s
      mergeGroups fuel n rest (groups ++ [pairs])
    | _ =>
      buildFail (some mergeContext) (some (← nodeAt n).start)
        ("expected a mapping for merging, but found " ++ sub.kindName) sub.start

end

def sameKeyNode (built : Array (Option Built)) (x y : Nat) : Bool :=
  x == y ||
    match built[x]?.join, built[y]?.join with
    | some (.atom v s), some (.atom w t) => (s && t) || v.sameKey w
    | _, _ => false

def addEntry (built : Array (Option Built)) (entries : List (Nat × Nat)) (k v : Nat) :
    List (Nat × Nat) :=
  if entries.any (fun (k', _) => sameKeyNode built k' k) then
    entries.map fun (k', v') => if sameKeyNode built k' k then (k', v) else (k', v')
  else entries ++ [(k, v)]

def buildEntries (mapping : Node) : List (Nat × Nat) → List (Nat × Nat) → BuildM (List (Nat × Nat))
  | [], entries => pure entries
  | (k, v) :: rest, entries => do
    construct k
    match ← builtAt k with
    | some (.atom ..) => pure ()
    | _ => buildFail (some mergeContext) (some mapping.start) "found unhashable key" (← nodeAt k).start
    construct v
    buildEntries mapping rest (addEntry (← get).built entries k v)

def mappingEntries (n : Nat) : BuildM (List (Nat × Nat)) := do
  let node ← nodeAt n
  if let .mapping _ := node.body then
    flatten (Nat.pow 2 40) n
  let node ← nodeAt n
  match node.body with
  | .mapping pairs => buildEntries node pairs []
  | _ => buildFail none none ("expected a mapping node, but found " ++ node.kindName) node.start

def orderedPairs (context : String) (n : Nat) : BuildM (List (Nat × Nat)) := do
  let node ← nodeAt n
  match node.body with
  | .sequence items =>
    items.foldlM (fun acc s => do
      let sub ← nodeAt s
      match sub.body with
      | .mapping [(k, v)] =>
        construct k
        construct v
        pure (acc ++ [(k, v)])
      | .mapping pairs =>
        buildFail (some context) (some node.start)
          ("expected a single mapping item, but found " ++ toString pairs.length ++ " items") sub.start
      | _ =>
        buildFail (some context) (some node.start)
          ("expected a mapping of length 1, but found " ++ sub.kindName) sub.start) []
  | _ =>
    buildFail (some context) (some node.start) ("expected a sequence, but found " ++ node.kindName)
      node.start

def fill (n : Nat) : BuildM Unit := do
  let node ← nodeAt n
  match makerOf node.tag with
  | some .seq =>
    match node.body with
    | .sequence items =>
      items.forM construct
      place n (.list items)
    | _ => buildFail none none ("expected a sequence node, but found " ++ node.kindName) node.start
  | some .map => place n (.dict (← mappingEntries n))
  | some .set => place n (.set ((← mappingEntries n).map (·.1)))
  | some .omap => place n (.pairs (← orderedPairs "while constructing an ordered map" n))
  | some .pairs => place n (.pairs (← orderedPairs "while constructing pairs" n))
  | _ => pure ()

def fillRounds : Nat → BuildM Unit
  | 0 => pure ()
  | fuel + 1 => do
    let waiting := (← get).pending
    if waiting.isEmpty then return
    modify fun b => { b with pending := [] }
    waiting.forM fill
    fillRounds fuel

def buildAll (root : Nat) : BuildM Unit := do
  construct root
  fillRounds ((← get).nodes.size + 1)

end LinePatch.Yaml
