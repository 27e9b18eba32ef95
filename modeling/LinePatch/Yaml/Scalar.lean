import LinePatch.Yaml.Cursor

/-!
# Scanning scalars, properties and directives

The tokens that carry text are scanned here: directives, anchors and aliases, tags, and
the three forms of scalars.
-/

namespace LinePatch.Yaml

variable [Text.Surrogates]

def isOneOf (chars : String) (c : Char) : Bool := chars.toList.contains c

/-- Characters written as a string. -/
def str (cs : List Char) : String := String.ofList cs

/-! ## Directives -/

def directiveFail {α : Type} (start : Mark) (problem : String) : ScanM α :=
  fail (some "while scanning a directive") (some start) problem

def directiveName (start : Mark) : ScanM String := do
  let n ← countWhile isWordChar
  if n = 0 then
    directiveFail start ("expected alphabetic or numeric character, but found " ++ shown (← peek))
  let name := str (← ahead n)
  forward n
  let ch ← peek
  if !isSpaceOrEnd ch then
    directiveFail start ("expected alphabetic or numeric character, but found " ++ shown ch)
  return name

def versionNumber (start : Mark) : ScanM Nat := do
  let ch ← peek
  if !('0' ≤ ch && ch ≤ '9') then directiveFail start ("expected a digit, but found " ++ shown ch)
  let n ← countWhile fun c => '0' ≤ c && c ≤ '9'
  let ds ← ahead n
  forward n
  return ds.foldl (fun v c => 10 * v + (c.toNat - 48)) 0

def versionValue (start : Mark) : ScanM DirectiveValue := do
  skipWhile (· = ' ')
  let major ← versionNumber start
  if (← peek) != '.' then
    directiveFail start ("expected a digit or '.', but found " ++ shown (← peek))
  forward
  let minor ← versionNumber start
  if !isSpaceOrEnd (← peek) then
    directiveFail start ("expected a digit or ' ', but found " ++ shown (← peek))
  return .version major minor

def tagHandle (what : String) (start : Mark) : ScanM String := do
  let ch ← peek
  if ch != '!' then
    fail (some ("while scanning a " ++ what)) (some start) ("expected '!', but found " ++ shown ch)
  let mut length := 1
  if (← peekAt 1) != ' ' then
    length := 1 + (← runFrom 1 isWordChar)
    let ch ← peekAt length
    if ch != '!' then
      forward length
      fail (some ("while scanning a " ++ what)) (some start) ("expected '!', but found " ++ shown ch)
    length := length + 1
  let v := str (← ahead length)
  forward length
  return v

def utf8Problem (bytes : List Nat) (start stop : Nat) (reason : String) : String :=
  if stop = start + 1 then
    "'utf-8' codec can't decode byte 0x" ++ str (Text.hexDigits 2 (bytes.getD start 0)) ++
      " in position " ++ toString start ++ ": " ++ reason
  else
    "'utf-8' codec can't decode bytes in position " ++ toString start ++ "-" ++
      toString (stop - 1) ++ ": " ++ reason

def utf8Shape (b : Nat) : Option (Nat × Nat × Nat) :=
  if 0xC2 ≤ b ∧ b ≤ 0xDF then some (0x80, 0xBF, 1)
  else if b = 0xE0 then some (0xA0, 0xBF, 2)
  else if (0xE1 ≤ b ∧ b ≤ 0xEC) ∨ b = 0xEE ∨ b = 0xEF then some (0x80, 0xBF, 2)
  else if b = 0xED then some (0x80, 0x9F, 2)
  else if b = 0xF0 then some (0x90, 0xBF, 3)
  else if 0xF1 ≤ b ∧ b ≤ 0xF3 then some (0x80, 0xBF, 3)
  else if b = 0xF4 then some (0x80, 0x8F, 3)
  else none

def decodeUtf8From (bytes : Array Nat) : Nat → Nat → Except String (List Char)
  | 0, _ => .ok []
  | fuel + 1, i =>
    if h : i < bytes.size then
      let b := bytes[i]
      if b < 0x80 then (decodeUtf8From bytes fuel (i + 1)).map (Char.ofNat b :: ·)
      else
        match utf8Shape b with
        | none => .error (utf8Problem bytes.toList i (i + 1) "invalid start byte")
        | some (lo, hi, k) =>
          let tail := (List.range k).map fun j => bytes.getD (i + 1 + j) 0x100
          let ok := fun (j : Nat) (t : Nat) =>
            if j = 0 then lo ≤ t ∧ t ≤ hi else 0x80 ≤ t ∧ t ≤ 0xBF
          let present := tail.take (bytes.size - (i + 1))
          match (present.zipIdx.find? fun (t, j) => !ok j t) with
          | some (_, j) => .error (utf8Problem bytes.toList i (i + 1 + j) "invalid continuation byte")
          | none =>
            if present.length < k then
              .error (utf8Problem bytes.toList i bytes.size "unexpected end of data")
            else
              let first := if k = 1 then b - 0xC0 else if k = 2 then b - 0xE0 else b - 0xF0
              let code := tail.foldl (fun v t => v * 0x40 + (t - 0x80)) first
              (decodeUtf8From bytes fuel (i + 1 + k)).map (Char.ofNat code :: ·)
    else .ok []

def uriEscapes (what : String) (start : Mark) : ScanM String := do
  let mark ← here
  let rec bytes : Nat → List Nat → ScanM (List Nat)
    | 0, acc => pure acc.reverse
    | fuel + 1, acc => do
      if (← peek) != '%' then return acc.reverse
      forward
      for k in [0, 1] do
        let c ← peekAt k
        if !isHexChar c then
          fail (some ("while scanning a " ++ what)) (some start)
            ("expected URI escape sequence of 2 hexadecimal numbers, but found " ++ shown c)
      let v := hexValue (← ahead 2)
      forward 2
      bytes fuel (v :: acc)
  let codes ← bytes ((← get).left + 1) []
  match decodeUtf8From codes.toArray (codes.length + 1) 0 with
  | .ok cs => return str cs
  | .error why =>
    throw (Problem.fail
      { context := some ("while scanning a " ++ what), contextMark := some start, problem := why,
        problemMark := some mark })

def isUriChar (c : Char) : Bool :=
  isWordChar c || isOneOf "-;/?:@&=+$,_.!~*'()[]%" c

def tagUri (what : String) (start : Mark) : ScanM String := do
  let rec go : Nat → List String → Nat → ScanM (List String × Nat)
    | 0, chunks, length => pure (chunks, length)
    | fuel + 1, chunks, length => do
      let ch ← peekAt length
      if !isUriChar ch then return (chunks, length)
      if ch = '%' then
        let before := str (← ahead length)
        forward length
        let esc ← uriEscapes what start
        go fuel (chunks ++ [before, esc]) 0
      else go fuel chunks (length + 1)
  let (chunks, length) ← go ((← get).left + 1) [] 0
  let chunks ←
    if length > 0 then do
      let last := str (← ahead length)
      forward length
      pure (chunks ++ [last])
    else pure chunks
  if chunks.isEmpty then
    fail (some ("while parsing a " ++ what)) (some start) ("expected URI, but found " ++ shown (← peek))
  return String.join chunks

def tagDirectiveValue (start : Mark) : ScanM DirectiveValue := do
  skipWhile (· = ' ')
  let handle ← tagHandle "directive" start
  if (← peek) != ' ' then directiveFail start ("expected ' ', but found " ++ shown (← peek))
  skipWhile (· = ' ')
  let pre ← tagUri "directive" start
  if !isSpaceOrEnd (← peek) then directiveFail start ("expected ' ', but found " ++ shown (← peek))
  return .tagPrefix handle pre

def directiveRest (start : Mark) : ScanM Unit := do
  skipWhile (· = ' ')
  if (← peek) = '#' then skipWhile (fun c => !isBreakOrEnd c)
  let ch ← peek
  if !isBreakOrEnd ch then
    directiveFail start ("expected a comment or a line break, but found " ++ shown ch)
  discard lineBreak

def directiveToken : ScanM Token := do
  let start ← here
  forward
  let name ← directiveName start
  let (value, stop) ←
    if name = "YAML" then do
      let v ← versionValue start
      pure (v, ← here)
    else if name = "TAG" then do
      let v ← tagDirectiveValue start
      pure (v, ← here)
    else do
      let stop ← here
      skipWhile (fun c => !isBreakOrEnd c)
      pure (.other, stop)
  directiveRest start
  return { kind := .directive name value, start := start, stop := stop }

/-! ## Anchors, aliases and tags -/

def anchorToken (isAlias : Bool) : ScanM Token := do
  let start ← here
  let what := if isAlias then "alias" else "anchor"
  forward
  let n ← countWhile isWordChar
  if n = 0 then
    fail (some ("while scanning an " ++ what)) (some start)
      ("expected alphabetic or numeric character, but found " ++ shown (← peek))
  let name := str (← ahead n)
  forward n
  let ch ← peek
  if !(isBlankOrEnd ch || isOneOf "?:,]\x7d%@`" ch) then
    fail (some ("while scanning an " ++ what)) (some start)
      ("expected alphabetic or numeric character, but found " ++ shown ch)
  return { kind := if isAlias then .aliasOf name else .anchor name, start := start, stop := ← here }

def tagToken : ScanM Token := do
  let start ← here
  let ch ← peekAt 1
  let (handle, suffix) ←
    if ch = '<' then do
      forward 2
      let suffix ← tagUri "tag" start
      if (← peek) != '>' then
        fail (some "while parsing a tag") (some start) ("expected '>', but found " ++ shown (← peek))
      forward
      pure (none, suffix)
    else if isBlankOrEnd ch then do
      forward
      pure (none, "!")
    else do
      let n ← runFrom 1 fun c => !isSpaceOrEnd c && c != '!'
      if (← peekAt (1 + n)) = '!' then
        let h ← tagHandle "tag" start
        pure (some h, ← tagUri "tag" start)
      else
        forward
        pure (some "!", ← tagUri "tag" start)
  let ch ← peek
  if !isSpaceOrEnd ch then
    fail (some "while scanning a tag") (some start) ("expected ' ', but found " ++ shown ch)
  return { kind := .tag handle suffix, start := start, stop := ← here }

/-! ## Block scalars -/

def blockFail {α : Type} (start : Mark) (problem : String) : ScanM α :=
  fail (some "while scanning a block scalar") (some start) problem

def blockIndicators (start : Mark) : ScanM (Option Bool × Option Nat) := do
  let digit := fun (c : Char) => '0' ≤ c && c ≤ '9'
  let mut chomping : Option Bool := none
  let mut increment : Option Nat := none
  let ch ← peek
  if ch = '+' || ch = '-' then
    chomping := some (ch = '+')
    forward
    let ch ← peek
    if digit ch then
      if ch = '0' then
        blockFail start "expected indentation indicator in the range 1-9, but found 0"
      increment := some (ch.toNat - 48)
      forward
  else if digit ch then
    if ch = '0' then
      blockFail start "expected indentation indicator in the range 1-9, but found 0"
    increment := some (ch.toNat - 48)
    forward
    let ch ← peek
    if ch = '+' || ch = '-' then
      chomping := some (ch = '+')
      forward
  let ch ← peek
  if !isSpaceOrEnd ch then
    blockFail start ("expected chomping or indentation indicators, but found " ++ shown ch)
  return (chomping, increment)

def blockHeaderRest (start : Mark) : ScanM Unit := do
  skipWhile (· = ' ')
  if (← peek) = '#' then skipWhile (fun c => !isBreakOrEnd c)
  let ch ← peek
  if !isBreakOrEnd ch then
    blockFail start ("expected a comment or a line break, but found " ++ shown ch)
  discard lineBreak

def blockIndentation : ScanM (List String × Nat × Mark) := do
  let rec go : Nat → List String → Nat → Mark → ScanM (List String × Nat × Mark)
    | 0, chunks, deepest, stop => pure (chunks, deepest, stop)
    | fuel + 1, chunks, deepest, stop => do
      let ch ← peek
      if ch = ' ' then
        forward
        go fuel chunks (max deepest (← get).column) stop
      else if isBreak ch then
        let b ← lineBreak
        go fuel (chunks ++ [b]) deepest (← here)
      else pure (chunks, deepest, stop)
  go ((← get).left + 1) [] 0 (← here)

def toIndent (indent : Int) : ScanM Unit := do
  let s ← get
  let n := s.runEnd (fun c => c = ' ') 0 (s.left + 1)
  forward (min n (indent - s.column).toNat)

def blockBreaks (indent : Int) : ScanM (List String × Mark) := do
  toIndent indent
  let rec go : Nat → List String → Mark → ScanM (List String × Mark)
    | 0, chunks, stop => pure (chunks, stop)
    | fuel + 1, chunks, stop => do
      if isBreak (← peek) then
        let b ← lineBreak
        let stop ← here
        toIndent indent
        go fuel (chunks ++ [b]) stop
      else pure (chunks, stop)
  go ((← get).left + 1) [] (← here)

def blockLines (folded : Bool) (indent : Int) :
    Nat → String → List String → String → Mark → ScanM (String × List String × String × Mark)
  | 0, text, breaks, lastBreak, stop => pure (text, breaks, lastBreak, stop)
  | fuel + 1, text, breaks, lastBreak, stop => do
    let s ← get
    if (s.column : Int) = indent && s.look 0 != '\x00' then
      let text := text ++ String.join breaks
      let leadingNonSpace := s.look 0 != ' ' && s.look 0 != '\t'
      let n ← countWhile fun c => !isBreakOrEnd c
      let text := text ++ str (← ahead n)
      forward n
      let lb ← lineBreak
      let (breaks, stop) ← blockBreaks indent
      let s ← get
      if (s.column : Int) = indent && s.look 0 != '\x00' then
        let joined :=
          if folded && lb == "\n" && leadingNonSpace && s.look 0 != ' ' && s.look 0 != '\t' then
            if breaks.isEmpty then text ++ " " else text
          else text ++ lb
        blockLines folded indent fuel joined breaks lb stop
      else pure (text, breaks, lb, stop)
    else pure (text, breaks, lastBreak, stop)

def blockScalar (folded : Bool) : ScanM Token := do
  let start ← here
  forward
  let (chomping, increment) ← blockIndicators start
  blockHeaderRest start
  let minIndent : Int := max 1 ((← get).indent + 1)
  let (breaks, indent, stop) ←
    match increment with
    | none => do
      let (b, deepest, e) ← blockIndentation
      pure (b, max minIndent (deepest : Int), e)
    | some inc => do
      let ind := minIndent + inc - 1
      let (b, e) ← blockBreaks ind
      pure (b, ind, e)
  let (text, breaks, lb, stop) ← blockLines folded indent ((← get).left + 1) "" breaks "" stop
  let text := if chomping != some false then text ++ lb else text
  let text := if chomping == some true then text ++ String.join breaks else text
  return { kind := .scalar text false (some (if folded then '>' else '|')), start := start, stop := stop }

/-! ## Quoted scalars -/

def escapeChar (c : Char) : Option Char :=
  match c with
  | '0' => some '\x00' | 'a' => some '\x07' | 'b' => some '\x08' | 't' => some '\t'
  | '\t' => some '\t' | 'n' => some '\n' | 'v' => some '\x0b' | 'f' => some '\x0c'
  | 'r' => some '\r' | 'e' => some '\x1b' | ' ' => some ' ' | '"' => some '"'
  | '\\' => some '\\' | '/' => some '/' | 'N' => some '\x85' | '_' => some '\xa0'
  | 'L' => some '\u2028' | 'P' => some '\u2029'
  | _ => none

def escapeWidth (c : Char) : Option Nat :=
  match c with
  | 'x' => some 2 | 'u' => some 4 | 'U' => some 8
  | _ => none

def quotedFail {α : Type} (start : Mark) (problem : String) : ScanM α :=
  fail (some "while scanning a quoted scalar") (some start) problem

def quotedBreaks (start : Mark) : ScanM (List String) := do
  let rec go : Nat → List String → ScanM (List String)
    | 0, chunks => pure chunks
    | fuel + 1, chunks => do
      let pre ← ahead 3
      if (pre == ['-', '-', '-'] || pre == ['.', '.', '.']) && isBlankOrEnd (← peekAt 3) then
        quotedFail start "found unexpected document separator"
      skipWhile fun c => c = ' ' || c = '\t'
      if isBreak (← peek) then
        let b ← lineBreak
        go fuel (chunks ++ [b])
      else pure chunks
  go ((← get).left + 1) []

def quotedText (double : Bool) (start : Mark) : Nat → Array String → ScanM (Array String)
  | 0, chunks => pure chunks
  | fuel + 1, chunks => do
    let n ← countWhile fun c => !(isOneOf "'\"\\" c || isBlankOrEnd c)
    let word ← ahead n
    let chunks := if n > 0 then chunks.push (str word) else chunks
    forward n
    let ch ← peek
    if !double && ch = '\'' && (← peekAt 1) = '\'' then
      forward 2
      quotedText double start fuel (chunks.push "'")
    else if (double && ch = '\'') || (!double && (ch = '"' || ch = '\\')) then
      forward
      quotedText double start fuel (chunks.push ch.toString)
    else if double && ch = '\\' then
      forward
      let ch ← peek
      match escapeChar ch, escapeWidth ch with
      | some r, _ =>
        forward
        quotedText double start fuel (chunks.push r.toString)
      | none, some width =>
        forward
        for k in List.range width do
          let c ← peekAt k
          if !isHexChar c then
            fail (some "while scanning a double-quoted scalar") (some start)
              ("expected escape sequence of " ++ toString width ++
                " hexadecimal numbers, but found " ++ shown c)
        let code := hexValue (← ahead width)
        if code > 0x10FFFF then
          throw (.unbuildable .value "chr() arg not in range(0x110000)")
        forward width
        let c := if 0xD800 ≤ code && code ≤ 0xDFFF then Text.ofSurrogate code else Char.ofNat code
        quotedText double start fuel (chunks.push c.toString)
      | none, none =>
        if isBreak ch then
          discard lineBreak
          let bs ← quotedBreaks start
          quotedText double start fuel (chunks.appendList bs)
        else
          fail (some "while scanning a double-quoted scalar") (some start)
            ("found unknown escape character " ++ shown ch)
    else pure chunks

def quotedSpaces (start : Mark) : ScanM (List String) := do
  let n ← countWhile fun c => c = ' ' || c = '\t'
  let ws := str (← ahead n)
  forward n
  let ch ← peek
  if ch = '\x00' then quotedFail start "found unexpected end of stream"
  else if isBreak ch then
    let lb ← lineBreak
    let bs ← quotedBreaks start
    let joint := if lb != "\n" then [lb] else if bs.isEmpty then [" "] else []
    return joint ++ bs
  else return [ws]

def quotedScalar (double : Bool) : ScanM Token := do
  let start ← here
  let quote ← peek
  forward
  let first ← quotedText double start ((← get).left + 1) #[]
  let rec go : Nat → Array String → ScanM (Array String)
    | 0, chunks => pure chunks
    | fuel + 1, chunks => do
      if (← peek) = quote then return chunks
      let sp ← quotedSpaces start
      let more ← quotedText double start ((← get).left + 1) #[]
      go fuel (chunks.appendList sp ++ more)
  let chunks ← go ((← get).left + 1) first
  forward
  return { kind := .scalar (String.join chunks.toList) false (some (if double then '"' else '\'')),
           start := start, stop := ← here }

/-! ## Plain scalars -/

def atSeparator : ScanM Bool := do
  let pre ← ahead 3
  return (pre == ['-', '-', '-'] || pre == ['.', '.', '.']) && isBlankOrEnd (← peekAt 3)

def plainSpaces : ScanM (Option (List String)) := do
  let n ← countWhile (· = ' ')
  let ws := str (← ahead n)
  forward n
  let ch ← peek
  if isBreak ch then
    let lb ← lineBreak
    modify fun s => { s with allowSimpleKey := true }
    if ← atSeparator then return none
    let rec go : Nat → List String → ScanM (Option (List String))
      | 0, bs => pure (some bs)
      | fuel + 1, bs => do
        let c ← peek
        if c = ' ' then
          forward
          go fuel bs
        else if isBreak c then
          let b ← lineBreak
          if ← atSeparator then return none
          go fuel (bs ++ [b])
        else pure (some bs)
    match ← go ((← get).left + 1) [] with
    | none => return none
    | some bs =>
      let joint := if lb != "\n" then [lb] else if bs.isEmpty then [" "] else []
      return some (joint ++ bs)
  else if ws.isEmpty then return some []
  else return some [ws]

def endsPlainWord (flow : Bool) (ch next : Char) : Bool :=
  isBlankOrEnd ch ||
    (ch = ':' && (isBlankOrEnd next || (flow && isOneOf ",[]\x7b\x7d" next))) ||
    (flow && isOneOf ",?[]\x7b\x7d" ch)

def plainWordLength (s : Scanner) (flow : Bool) (k : Nat) : Nat → Nat
  | 0 => k
  | fuel + 1 =>
    if endsPlainWord flow (s.look k) (s.look (k + 1)) then k
    else plainWordLength s flow (k + 1) fuel

def plainScalar : ScanM Token := do
  let start ← here
  let indent : Int := (← get).indent + 1
  let rec go : Nat → Array String → List String → Mark → ScanM (Array String × Mark)
    | 0, chunks, _, stop => pure (chunks, stop)
    | fuel + 1, chunks, spaces, stop => do
      if (← peek) = '#' then return (chunks, stop)
      let s ← get
      let length := plainWordLength s (s.flowLevel != 0) 0 (s.left + 1)
      if length = 0 then return (chunks, stop)
      modify fun s => { s with allowSimpleKey := false }
      let chunks := (chunks.appendList spaces).push (str (← ahead length))
      forward length
      let stop ← here
      match ← plainSpaces with
      | none => pure (chunks, stop)
      | some sp =>
        let s ← get
        if sp.isEmpty || s.look 0 = '#' || (s.flowLevel = 0 && (s.column : Int) < indent) then
          pure (chunks, stop)
        else go fuel chunks sp stop
  let (chunks, stop) ← go ((← get).left + 1) #[] [] start
  return { kind := .scalar (String.join chunks.toList) true none, start := start, stop := stop }

end LinePatch.Yaml
