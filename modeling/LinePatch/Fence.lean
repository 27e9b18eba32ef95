/-!
# Fenced diff blocks

A response may carry patches in fenced blocks: a line that starts with ```` ```diff ````
and ends right there, the body, and a line break followed by ```` ``` ````. The body is
everything up to the first such close; a fence that is never closed is no block. Blocks
are found from left to right without overlapping, after `\r\n` line breaks have become
`\n`, and a body that was found before is not taken again.
-/

namespace LinePatch.Fence

/-- What opens a block, at the start of a line. -/
def opening : List Char := "```diff\n".toList

/-- What closes a block. -/
def closing : List Char := "\n```".toList

/-- Splits at the first close: the body before it and what follows it. -/
def untilClose : List Char → Option (List Char × List Char)
  | [] => none
  | c :: r =>
    if closing.isPrefixOf (c :: r) then some ([], (c :: r).drop closing.length)
    else (untilClose r).map fun (b, rest) => (c :: b, rest)

/-- The bodies of the blocks of a text, from left to right; `atLineStart` says whether
the text follows a line break or starts the whole text. -/
def scan : Nat → Bool → List Char → List (List Char)
  | 0, _, _ => []
  | _ + 1, _, [] => []
  | fuel + 1, atLineStart, c :: r =>
    let next := scan fuel (c == '\n') r
    if atLineStart && opening.isPrefixOf (c :: r) then
      match untilClose ((c :: r).drop opening.length) with
      | some (body, rest) => body :: scan fuel false rest
      | none => next
    else next

/-- Turns each `\r\n` into `\n`. -/
def joinCarriageReturns : List Char → List Char
  | '\r' :: '\n' :: r => '\n' :: joinCarriageReturns r
  | c :: r => c :: joinCarriageReturns r
  | [] => []

/-- Keeps the first of equal items. -/
def firstOfEach (xs : List String) : List String :=
  xs.foldl (fun seen x => if seen.contains x then seen else seen ++ [x]) []

/-- The bodies of the fenced diff blocks of a response, each body once. -/
def blocks (response : String) : List String :=
  let cs := joinCarriageReturns response.toList
  firstOfEach ((scan (cs.length + 1) true cs).map String.ofList)

end LinePatch.Fence
