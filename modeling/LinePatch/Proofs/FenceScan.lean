import LinePatch.Fence
import Mathlib.Data.List.Basic
import Mathlib.Data.List.Induction

/-!
# The fenced blocks of a response

A block is an opening at the start of a line, a body, and the first close after the
opening. The scan looks for blocks from left to right and starts again right after the
close of each block it finds, so an opening inside a block is never read as one, and a
close is never shared by two blocks.
-/

namespace LinePatch.Fence

def LineStart (t : List Char) (p : Nat) : Prop :=
  p = 0 ∨ t[p - 1]? = some '\n'

/-- Where a block at `p` with body `b` ends: right after its close. -/
def blockEnd (p : Nat) (b : List Char) : Nat :=
  p + opening.length + b.length + closing.length

/-- A block of `t` at `p` with body `b`: an opening at the start of a line, the body, and a
close, the first one after the opening. -/
structure BlockAt (t : List Char) (p : Nat) (b : List Char) : Prop where
  lineStart : LineStart t p
  fenced : opening ++ b ++ closing <+: t.drop p
  first_close : ¬closing <:+: b

def Opens (t : List Char) (q : Nat) : Prop :=
  LineStart t q ∧ opening <+: t.drop q ∧ closing <:+: t.drop (q + opening.length)

/-- What a scan of `t` from position `s` finds, as positions and bodies: blocks at or after
`s`, each starting after the one before it ends, and among them every opening from `s` on
that a close follows and that no block found before it covers. -/
structure ScannedFrom (t : List Char) (s : Nat) (found : List (Nat × List Char)) : Prop where
  block : ∀ f ∈ found, BlockAt t f.1 f.2
  after : ∀ f ∈ found, s ≤ f.1
  apart : found.Pairwise fun f g => blockEnd f.1 f.2 ≤ g.1
  complete : ∀ q, s ≤ q → Opens t q → (∀ f ∈ found, f.1 < q → blockEnd f.1 f.2 ≤ q) →
    ∃ b, (q, b) ∈ found

section Close

theorem closing_ne_nil : closing ≠ [] := by decide

theorem untilClose_some {l body rest : List Char} (h : untilClose l = some (body, rest)) :
    l = body ++ closing ++ rest ∧ ¬closing <:+: body := by
  induction l generalizing body rest with
  | nil => simp [untilClose] at h
  | cons c r ih =>
    unfold untilClose at h
    split at h
    · next hclose =>
      -- the close starts right here, so the body is empty
      obtain ⟨rfl, rfl⟩ := Prod.mk.inj (Option.some.inj h).symm
      refine ⟨?_, fun hinf => closing_ne_nil (List.infix_nil.mp hinf)⟩
      rw [List.nil_append, List.prefix_iff_eq_append.mp (List.isPrefixOf_iff_prefix.mp hclose)]
    · next hclose =>
      obtain ⟨⟨b, rest'⟩, hr, heq⟩ := Option.map_eq_some_iff.mp h
      obtain ⟨rfl, rfl⟩ := Prod.mk.inj heq
      obtain ⟨hsplit, hfree⟩ := ih hr
      refine ⟨by rw [hsplit, List.cons_append, List.cons_append], ?_⟩
      -- a close at the head of `c :: b` would be a close at the head of `c :: r`
      rw [List.infix_cons_iff]
      rintro (hpre | hinf)
      · apply hclose
        rw [List.isPrefixOf_iff_prefix, hsplit]
        exact hpre.trans ⟨closing ++ rest', by simp⟩
      · exact hfree hinf

theorem untilClose_none {l : List Char} (h : untilClose l = none) : ¬closing <:+: l := by
  induction l with
  | nil => exact fun hinf => closing_ne_nil (List.infix_nil.mp hinf)
  | cons c r ih =>
    unfold untilClose at h
    split at h
    · cases h
    · next hclose =>
      rw [List.infix_cons_iff]
      rintro (hpre | hinf)
      · exact hclose (List.isPrefixOf_iff_prefix.mpr hpre)
      · exact ih (Option.map_eq_none_iff.mp h) hinf

end Close

section Scan

variable {t : List Char}

theorem scannedFrom_nil {s : Nat} (h : t.length ≤ s) : ScannedFrom t s [] := by
  refine ⟨by simp, by simp, List.Pairwise.nil, fun q hq hopen _ => ?_⟩
  have hdrop : t.drop q = [] := List.drop_eq_nil_of_le (by omega)
  have hpre := hopen.2.1
  rw [hdrop] at hpre
  exact absurd (List.eq_nil_of_prefix_nil hpre) (by decide)

theorem ScannedFrom.skip {s : Nat} {found : List (Nat × List Char)}
    (h : ScannedFrom t (s + 1) found) (hs : ¬Opens t s) : ScannedFrom t s found := by
  refine ⟨h.block, fun f hf => Nat.le_of_succ_le (h.after f hf), h.apart, ?_⟩
  intro q hq hopen hcover
  rcases Nat.eq_or_lt_of_le hq with rfl | hlt
  · exact absurd hopen hs
  · exact h.complete q hlt hopen hcover

theorem ScannedFrom.cons {s : Nat} {b : List Char} {found : List (Nat × List Char)}
    (h : ScannedFrom t (blockEnd s b) found) (hb : BlockAt t s b) :
    ScannedFrom t s ((s, b) :: found) := by
  have hend : s ≤ blockEnd s b := by unfold blockEnd; omega
  refine ⟨?_, ?_, List.pairwise_cons.mpr ⟨fun g hg => h.after g hg, h.apart⟩, ?_⟩
  · rintro f (_ | ⟨_, hf⟩)
    · exact hb
    · exact h.block f hf
  · rintro f (_ | ⟨_, hf⟩)
    · exact Nat.le_refl s
    · exact Nat.le_trans hend (h.after f hf)
  · intro q hq hopen hcover
    rcases Nat.eq_or_lt_of_le hq with rfl | hlt
    · exact ⟨b, List.mem_cons_self⟩
    · -- an opening after `s` lies at or after the end of the block at `s`
      have hq' : blockEnd s b ≤ q := hcover (s, b) List.mem_cons_self hlt
      obtain ⟨b', hb'⟩ := h.complete q hq' hopen fun f hf => hcover f (List.mem_cons_of_mem _ hf)
      exact ⟨b', List.mem_cons_of_mem _ hb'⟩

theorem blockEnd_eq (s : Nat) (b : List Char) :
    blockEnd s b = s + (opening ++ b ++ closing).length := by
  simp only [blockEnd, List.length_append]
  omega

theorem drop_blockEnd {s : Nat} {b rest : List Char}
    (h : t.drop s = opening ++ b ++ closing ++ rest) : t.drop (blockEnd s b) = rest := by
  rw [blockEnd_eq, ← List.drop_drop, h, List.drop_left' rfl]

theorem not_lineStart_blockEnd {s : Nat} {b rest : List Char}
    (h : t.drop s = opening ++ b ++ closing ++ rest) : ¬LineStart t (blockEnd s b) := by
  have hc : closing.length = 4 := rfl
  have hlast : t[blockEnd s b - 1]? = closing[3]? := by
    have hidx : blockEnd s b - 1 = s + ((opening ++ b).length + 3) := by
      rw [blockEnd, List.length_append, hc]
      omega
    rw [hidx, ← List.getElem?_drop, h,
      List.getElem?_append_left (by simp only [List.length_append, hc]; omega),
      List.getElem?_append_right (by omega), Nat.add_sub_cancel_left]
  rintro (h0 | hbreak)
  · rw [blockEnd, hc] at h0
    omega
  · rw [hlast] at hbreak
    exact absurd hbreak (by decide)

theorem scan_scannedFrom (fuel s : Nat) (ls : Bool) (hfuel : t.length < s + fuel)
    (hls : ls = true ↔ LineStart t s) :
    ∃ found, scan fuel ls (t.drop s) = found.map (·.2) ∧ ScannedFrom t s found := by
  induction fuel generalizing s ls with
  | zero =>
    rw [List.drop_eq_nil_of_le (by omega)]
    exact ⟨[], by cases ls <;> rfl, scannedFrom_nil (by omega)⟩
  | succ fuel ih =>
    cases hcs : t.drop s with
    | nil => exact ⟨[], by cases ls <;> rfl, scannedFrom_nil (List.drop_eq_nil_iff.mp hcs)⟩
    | cons c r =>
      have hc : t[s]? = some c := by
        rw [← Nat.add_zero s, ← List.getElem?_drop, hcs]
        rfl
      have hr : t.drop (s + 1) = r := by
        rw [← List.drop_drop, hcs]
        rfl
      -- the scan moves on to the next character, which starts a line after a line break
      obtain ⟨next, hnext, hskip⟩ := ih (s + 1) (c == '\n') (by omega) (by simp [LineStart, hc])
      rw [hr] at hnext
      by_cases hhead : (ls && opening.isPrefixOf (c :: r)) = true
      · obtain ⟨hstart, hopen⟩ := Bool.and_eq_true_iff.mp hhead
        replace hopen := List.prefix_iff_eq_append.mp (List.isPrefixOf_iff_prefix.mp hopen)
        cases hu : untilClose ((c :: r).drop opening.length) with
        | none =>
          -- an opening that no close follows is no block
          refine ⟨next, by simp [scan, hhead, hu, hnext], hskip.skip fun hq => ?_⟩
          apply untilClose_none hu
          rw [← hcs, List.drop_drop]
          exact hq.2.2
        | some split =>
          obtain ⟨body, rest⟩ := split
          obtain ⟨hsplit, hfree⟩ := untilClose_some hu
          have ht : t.drop s = opening ++ body ++ closing ++ rest := by
            rw [hcs, ← hopen, hsplit, List.append_assoc, List.append_assoc, List.append_assoc]
          have hend : s + fuel + 1 ≤ blockEnd s body + fuel := by
            rw [blockEnd, show opening.length = 8 from rfl]
            omega
          obtain ⟨found, hfound, hblocks⟩ := ih (blockEnd s body) false (by omega)
            (by simpa using not_lineStart_blockEnd ht)
          rw [drop_blockEnd ht] at hfound
          refine ⟨(s, body) :: found, by simp [scan, hhead, hu, hfound], hblocks.cons ?_⟩
          exact ⟨hls.mp hstart, by rw [ht]; exact List.prefix_append _ _, hfree⟩
      · -- no opening at the start of a line here
        refine ⟨next, by simp [scan, hhead, hnext], hskip.skip fun hq => hhead ?_⟩
        rw [Bool.and_eq_true, hls, List.isPrefixOf_iff_prefix, ← hcs]
        exact ⟨hq.1, hq.2.1⟩

end Scan

section FirstOfEach

theorem firstOfEach_concat (xs : List String) (x : String) :
    firstOfEach (xs ++ [x]) =
      if x ∈ firstOfEach xs then firstOfEach xs else firstOfEach xs ++ [x] := by
  simp only [firstOfEach, List.foldl_append, List.foldl_cons, List.foldl_nil,
    List.contains_iff_mem]

theorem mem_firstOfEach {xs : List String} {x : String} : x ∈ firstOfEach xs ↔ x ∈ xs := by
  induction xs using List.reverseRecOn generalizing x with
  | nil => simp [firstOfEach]
  | append_singleton xs y ih =>
    rw [firstOfEach_concat]
    split
    · next hy =>
      rw [ih, List.mem_append, List.mem_singleton]
      exact ⟨Or.inl, fun h => h.elim id fun hxy => hxy ▸ ih.mp hy⟩
    · rw [List.mem_append, List.mem_append, ih]

theorem nodup_firstOfEach (xs : List String) : (firstOfEach xs).Nodup := by
  induction xs using List.reverseRecOn with
  | nil => exact List.nodup_nil
  | append_singleton xs y ih =>
    rw [firstOfEach_concat]
    split
    · exact ih
    · next hy =>
      refine List.nodup_append.mpr ⟨ih, List.pairwise_singleton _ y, ?_⟩
      rintro a ha b hb rfl
      exact hy (List.mem_singleton.mp hb ▸ ha)

theorem pairwise_idxOf_firstOfEach (xs : List String) :
    (firstOfEach xs).Pairwise fun x y => xs.idxOf x < xs.idxOf y := by
  induction xs using List.reverseRecOn with
  | nil => exact List.Pairwise.nil
  | append_singleton xs y ih =>
    -- an item already in `xs` keeps its first place when `y` is put at the end
    have hkeep : ∀ {x}, x ∈ firstOfEach xs → (xs ++ [y]).idxOf x = xs.idxOf x := fun hx =>
      List.idxOf_append_of_mem (mem_firstOfEach.mp hx)
    have hold : (firstOfEach xs).Pairwise fun a b => (xs ++ [y]).idxOf a < (xs ++ [y]).idxOf b :=
      ih.imp_of_mem fun ha hb hab => by rw [hkeep ha, hkeep hb]; exact hab
    rw [firstOfEach_concat]
    split
    · exact hold
    · next hy =>
      -- a new item has its first place at the end
      have hnew : (xs ++ [y]).idxOf y = xs.length := by
        rw [List.idxOf_append_of_notMem (fun h => hy (mem_firstOfEach.mpr h))]
        simp
      refine List.pairwise_append.mpr ⟨hold, List.pairwise_singleton _ y, ?_⟩
      intro a ha b hb
      rw [List.mem_singleton.mp hb, hnew, hkeep ha]
      exact List.idxOf_lt_length_of_mem (mem_firstOfEach.mp ha)

end FirstOfEach

/-- The blocks of a response are the bodies of a left-to-right scan of its text, with `\r\n`
read as `\n`: each body of a block at the start of a line that ends at its first close,
each body once, in the order of the first block with that body; and no opening that a
close follows and that no earlier block covers is missed. -/
theorem blocks_scan_fences (r : String) :
    ∃ found : List (Nat × List Char), ScannedFrom (joinCarriageReturns r.toList) 0 found ∧
      (blocks r).Nodup ∧
      (∀ b ∈ blocks r, ∃ p, BlockAt (joinCarriageReturns r.toList) p b.toList) ∧
      (∀ b, b ∈ blocks r ↔ ∃ p, (p, b.toList) ∈ found) ∧
      (blocks r).Pairwise fun x y =>
        (found.map fun f => String.ofList f.2).idxOf x <
          (found.map fun f => String.ofList f.2).idxOf y := by
  obtain ⟨found, hscan, hfound⟩ := scan_scannedFrom (t := joinCarriageReturns r.toList)
    ((joinCarriageReturns r.toList).length + 1) 0 true (by omega) (by simp [LineStart])
  have hblocks : blocks r = firstOfEach (found.map fun f => String.ofList f.2) := by
    rw [List.drop_zero] at hscan
    rw [blocks, hscan, List.map_map]
    rfl
  have hmem : ∀ b, b ∈ blocks r ↔ ∃ p, (p, b.toList) ∈ found := by
    intro b
    rw [hblocks, mem_firstOfEach, List.mem_map]
    constructor
    · rintro ⟨⟨p, body⟩, hf, rfl⟩
      exact ⟨p, by rwa [String.toList_ofList]⟩
    · rintro ⟨p, hf⟩
      exact ⟨(p, b.toList), hf, String.ofList_toList⟩
  refine ⟨found, hfound, hblocks ▸ nodup_firstOfEach _, fun b hb => ?_, hmem,
    hblocks ▸ pairwise_idxOf_firstOfEach _⟩
  obtain ⟨p, hp⟩ := (hmem b).mp hb
  exact ⟨p, hfound.block _ hp⟩

example : blocks "Intro\n```diff\n-a\n+b\n```\nAgain:\n```diff\n-a\n+b\n```\nAlso ```diff\n-x\n```\n```diff\n c\n+d\n```\n" =
    ["-a\n+b", " c\n+d"] := by
  decide

end LinePatch.Fence
