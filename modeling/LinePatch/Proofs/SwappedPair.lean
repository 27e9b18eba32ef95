import LinePatch.Proofs.ReadBack
import LinePatch.Apply
import Mathlib.Data.List.Chain

/-!
# An addition and the deletion after it, written the other way round

A patch may write the deletion of a line before or after the addition that replaces it.
Reading puts every deletion in front of the additions directly before it, and it keeps the
lines that are not additions in their order, and the lines that are not deletions in theirs.
These two orders fix a list in which no addition stands before a deletion, so both spellings
read as the same kinds and texts in the same order; only the line numbers of the two lines
differ.
-/

namespace LinePatch

section Settled

variable {α : Type} (κ : α → LineKind)

private theorem first_kept_of_settled :
    ∀ {x : α} {r : List α}, κ x = .add →
      (x :: r).IsChain (fun x y => ¬(κ x = .add ∧ κ y = .delete)) →
      ∀ y, (r.filter (κ · != .add)).head? = some y → κ y ≠ .delete
  | _, [], _, _, y, h => by simp at h
  | x, z :: r, hx, hchain, y, h => by
    rw [List.isChain_cons_cons] at hchain
    by_cases hz : κ z = .add
    · rw [List.filter_cons_of_neg (by simp [hz])] at h
      exact first_kept_of_settled hz hchain.2 y h
    · rw [List.filter_cons_of_pos (by simp [hz]), List.head?_cons, Option.some.injEq] at h
      subst h
      exact fun hz' => hchain.1 ⟨hx, hz'⟩

private theorem filter_tail_eq {Q : α → Bool} {x : α} {r₁ r₂ : List α}
    (h : (x :: r₁).filter Q = (x :: r₂).filter Q) : r₁.filter Q = r₂.filter Q := by
  by_cases hx : Q x
  · simpa [List.filter_cons, hx] using h
  · simpa [List.filter_cons, hx] using h

theorem eq_of_settled :
    ∀ {L₁ L₂ : List α}, L₁.IsChain (fun x y => ¬(κ x = .add ∧ κ y = .delete)) →
      L₂.IsChain (fun x y => ¬(κ x = .add ∧ κ y = .delete)) →
      L₁.filter (κ · != .add) = L₂.filter (κ · != .add) →
      L₁.filter (κ · != .delete) = L₂.filter (κ · != .delete) → L₁ = L₂
  | [], [], _, _, _, _ => rfl
  | [], y :: _, _, _, hna, hnd => by
    -- the first item would be both an addition and a deletion
    cases hy : κ y <;> simp [hy] at hna hnd
  | x :: _, [], _, _, hna, hnd => by
    cases hx : κ x <;> simp [hx] at hna hnd
  | x :: r₁, y :: r₂, h₁, h₂, hna, hnd => by
    -- the heads agree: both are kept by one of the two filters, or they would be an
    -- addition and a deletion, and the settled side would show the deletion too early
    have hhead : x = y := by
      by_cases hka : κ x ≠ .add ∧ κ y ≠ .add
      · simp only [List.filter_cons, hka.1, hka.2, bne_iff_ne, ne_eq, not_false_eq_true,
          if_true, List.cons.injEq] at hna
        exact hna.1
      by_cases hkd : κ x ≠ .delete ∧ κ y ≠ .delete
      · simp only [List.filter_cons, hkd.1, hkd.2, bne_iff_ne, ne_eq, not_false_eq_true,
          if_true, List.cons.injEq] at hnd
        exact hnd.1
      exfalso
      cases hx : κ x <;> cases hy : κ y <;> simp [hx, hy] at hka hkd
      · have hfirst : (r₁.filter (κ · != .add)).head? = some y := by
          simp [hx, hy] at hna
          rw [hna, List.head?_cons]
        exact first_kept_of_settled κ hx h₁ y hfirst hy
      · have hfirst : (r₂.filter (κ · != .add)).head? = some x := by
          simp [hx, hy] at hna
          rw [← hna, List.head?_cons]
        exact first_kept_of_settled κ hy h₂ x hfirst hx
    subst hhead
    rw [eq_of_settled h₁.of_cons h₂.of_cons (filter_tail_eq hna) (filter_tail_eq hnd)]

end Settled

namespace Line

def kindText (l : Line) : LineKind × String := (l.kind, l.text)

theorem reorder_kindText_eq {ls₁ ls₂ : List Line}
    (hna : (ls₁.filter (·.kind != .add)).map kindText = (ls₂.filter (·.kind != .add)).map kindText)
    (hnd : (ls₁.filter (·.kind != .delete)).map kindText =
      (ls₂.filter (·.kind != .delete)).map kindText) :
    (reorder ls₁).1.map kindText = (reorder ls₂).1.map kindText := by
  have hsettled : ∀ ls : List Line, ((reorder ls).1.map kindText).IsChain
      (fun x y => ¬(x.1 = .add ∧ y.1 = .delete)) :=
    fun ls => (List.isChain_map kindText).mpr (reorder_settled ls)
  -- reordering keeps the lines other than additions, and those other than deletions
  have hkeep : ∀ (k : LineKind) (ls : List Line), k ≠ .context →
      ((reorder ls).1.map kindText).filter (·.1 != k) = (ls.filter (·.kind != k)).map kindText := by
    intro k ls hk
    rw [List.filter_map]
    have hQ : ∀ x y : Line, x.kind = .add → y.kind = .delete →
        (x.kind != k) = false ∨ (y.kind != k) = false := by
      intro x y hx hy
      cases k with
      | context => exact absurd rfl hk
      | add => exact Or.inl (by simp [hx])
      | delete => exact Or.inr (by simp [hy])
    exact congrArg (List.map kindText) (filter_reorder _ hQ ls)
  apply eq_of_settled Prod.fst (hsettled ls₁) (hsettled ls₂)
  · rw [hkeep .add ls₁ (by decide), hkeep .add ls₂ (by decide), hna]
  · rw [hkeep .delete ls₁ (by decide), hkeep .delete ls₂ (by decide), hnd]

end Line

namespace Patch

def readNumbered (p : Policy) (keys : List String) (sep : Bool) (e : String × Nat) :
    Option Line :=
  (readLine p keys sep e.1).map fun r => { index := e.2, text := r.2, kind := r.1 }

theorem readLines_eq_filterMap (p : Policy) (src : List Line) (text : String) :
    readLines p src text = (Text.splitLines text).zipIdx.filterMap
      (readNumbered p (src.map fun l => p.normalize l.text)
        (p == .indentation && usesSeparator (Text.splitLines text))) :=
  rfl

theorem readLine_of_mem_readLines {p : Policy} {src : List Line} {text : String} {l : Line}
    (h : l ∈ readLines p src text) :
    ∃ (k : Nat) (raw : String), l.index = k ∧ (Text.splitLines text)[k]? = some raw ∧
      readLine p (src.map fun l => p.normalize l.text)
        (p == .indentation && usesSeparator (Text.splitLines text)) raw = some (l.kind, l.text) := by
  rw [readLines_eq_filterMap] at h
  obtain ⟨⟨raw, k⟩, hmem, hread⟩ := List.mem_filterMap.mp h
  obtain ⟨⟨kd, t⟩, hraw, rfl⟩ := Option.map_eq_some_iff.mp hread
  -- instantiated at the pair: the unifier cannot find it from its two projections
  have hk : (Text.splitLines text)[k]? = some raw :=
    (@List.mem_zipIdx_iff_getElem? _ (raw, k) _).mp hmem
  exact ⟨k, raw, rfl, hk, hraw⟩

theorem readLine_of_mem_readLines_at {p : Policy} {src : List Line} {text : String} {l : Line}
    (h : l ∈ readLines p src text) (k : Nat) {raw : String} (hk : l.index = k)
    (hraw : (Text.splitLines text)[k]? = some raw) :
    readLine p (src.map fun l => p.normalize l.text)
      (p == .indentation && usesSeparator (Text.splitLines text)) raw = some (l.kind, l.text) := by
  obtain ⟨k', raw', hk', hraw', hread⟩ := readLine_of_mem_readLines h
  obtain rfl : k' = k := by omega
  rw [hraw, Option.some.injEq] at hraw'
  rw [hraw']
  exact hread

theorem usesSeparator_perm {raws raws' : List String} (h : raws.Perm raws') :
    usesSeparator raws = usesSeparator raws' := by
  have hp := h.filterMap markerPayload
  have hempty : (raws.filterMap markerPayload).isEmpty = (raws'.filterMap markerPayload).isEmpty := by
    rw [Bool.eq_iff_iff, List.isEmpty_iff_length_eq_zero, List.isEmpty_iff_length_eq_zero,
      hp.length_eq]
  simp only [usesSeparator, hempty, hp.all_eq]

end Patch

private theorem filterMap_zipIdx_pair {β : Type} (F : String × Nat → Option β) (A B : List String)
    (x y : String) :
    (A ++ [x, y] ++ B).zipIdx.filterMap F =
      A.zipIdx.filterMap F ++
        ((x, A.length) :: (y, A.length + 1) :: B.zipIdx (A.length + 2)).filterMap F := by
  rw [List.append_assoc, List.zipIdx_append, List.filterMap_append]
  simp [List.zipIdx_cons, Nat.add_assoc]

/-- A patch reads the same kinds and texts in the same order whichever way round it writes an
addition and the deletion right after it. -/
theorem read_exchanged_pair (p : Policy) (src : List Line) {P P' : String}
    {A B : List String} {x y : String}
    (hP : Text.splitLines P = A ++ [x, y] ++ B) (hP' : Text.splitLines P' = A ++ [y, x] ++ B)
    (hadd : ∃ l ∈ Patch.readLines p src P, l.index = A.length ∧ l.kind = .add)
    (hdel : ∃ l ∈ Patch.readLines p src P, l.index = A.length + 1 ∧ l.kind = .delete) :
    (Patch.read p src P').lines.map Line.kindText = (Patch.read p src P).lines.map Line.kindText := by
  let keys := src.map fun l => p.normalize l.text
  let sep := p == .indentation && Patch.usesSeparator (Text.splitLines P)
  -- the exchanged patch has the same lines, so it decides the separator alike
  have hsep : (p == .indentation && Patch.usesSeparator (Text.splitLines P')) = sep := by
    have hperm : (A ++ [y, x] ++ B).Perm (A ++ [x, y] ++ B) := by
      simpa using (List.Perm.swap x y B).append_left A
    simp only [sep, hP, hP', Patch.usesSeparator_perm hperm]
  -- the two raw lines read as an addition and a deletion
  obtain ⟨la, hla, hla_i, hla_k⟩ := hadd
  obtain ⟨ld, hld, hld_i, hld_k⟩ := hdel
  have hx : Patch.readLine p keys sep x = some (.add, la.text) := by
    rw [← hla_k]
    exact Patch.readLine_of_mem_readLines_at hla A.length hla_i (by simp [hP])
  have hy : Patch.readLine p keys sep y = some (.delete, ld.text) := by
    rw [← hld_k]
    exact Patch.readLine_of_mem_readLines_at hld (A.length + 1) (by omega) (by simp [hP])
  -- both patches are read raw line by raw line with the one reader
  have hlines : Patch.readLines p src P =
      (Text.splitLines P).zipIdx.filterMap (Patch.readNumbered p keys sep) :=
    Patch.readLines_eq_filterMap p src P
  have hlines' : Patch.readLines p src P' =
      (Text.splitLines P').zipIdx.filterMap (Patch.readNumbered p keys sep) := by
    rw [Patch.readLines_eq_filterMap, hsep]
  rw [hP, filterMap_zipIdx_pair] at hlines
  rw [hP', filterMap_zipIdx_pair] at hlines'
  have hFx : ∀ i, Patch.readNumbered p keys sep (x, i) =
      some { index := i, text := la.text, kind := .add } := fun i => by
    simp [Patch.readNumbered, hx]
  have hFy : ∀ i, Patch.readNumbered p keys sep (y, i) =
      some { index := i, text := ld.text, kind := .delete } := fun i => by
    simp [Patch.readNumbered, hy]
  simp only [List.filterMap_cons, hFx, hFy] at hlines hlines'
  -- each of the two lines is dropped by one of the filters, so the filters agree
  rw [Script.read_lines, Script.read_lines]
  apply Line.reorder_kindText_eq <;> simp [hlines, hlines', List.filter_append, Line.kindText]

theorem read_exchanged_pair_example :
    let src := Line.ofText (Text.splitLines "x\nd\nz\nd\ny")
    Text.splitLines "  x\n+ a\n- d\n  y" = ["  x"] ++ ["+ a", "- d"] ++ ["  y"] ∧
    Text.splitLines "  x\n- d\n+ a\n  y" = ["  x"] ++ ["- d", "+ a"] ++ ["  y"] ∧
    (∃ l ∈ Patch.readLines .whitespace src "  x\n+ a\n- d\n  y",
      l.index = ["  x"].length ∧ l.kind = .add) ∧
    (∃ l ∈ Patch.readLines .whitespace src "  x\n+ a\n- d\n  y",
      l.index = ["  x"].length + 1 ∧ l.kind = .delete) ∧
    (Patch.read .whitespace src "  x\n- d\n+ a\n  y").lines.map Line.kindText =
      (Patch.read .whitespace src "  x\n+ a\n- d\n  y").lines.map Line.kindText :=
  have hP : Text.splitLines "  x\n+ a\n- d\n  y" = ["  x"] ++ ["+ a", "- d"] ++ ["  y"] := by
    decide +kernel
  have hP' : Text.splitLines "  x\n- d\n+ a\n  y" = ["  x"] ++ ["- d", "+ a"] ++ ["  y"] := by
    decide +kernel
  have hadd : ∃ l ∈ Patch.readLines .whitespace (Line.ofText (Text.splitLines "x\nd\nz\nd\ny"))
      "  x\n+ a\n- d\n  y", l.index = ["  x"].length ∧ l.kind = .add := by
    decide +kernel
  have hdel : ∃ l ∈ Patch.readLines .whitespace (Line.ofText (Text.splitLines "x\nd\nz\nd\ny"))
      "  x\n+ a\n- d\n  y", l.index = ["  x"].length + 1 ∧ l.kind = .delete := by
    decide +kernel
  ⟨hP, hP', hadd, hdel, read_exchanged_pair .whitespace _ hP hP' hadd hdel⟩

/-- The two spellings of one edit are applied differently: on a source holding the deleted
line twice, the patch that writes the addition first links the deletion from the line after
it and deletes the second copy, while the patch that writes the deletion first links it from
the line before and deletes the first. -/
theorem apply_depends_on_marker_order :
    let source := "x\nd\nz\nd\ny"
    let P := "  x\n+ a\n- d\n  y"
    let P' := "  x\n- d\n+ a\n  y"
    Text.hasEditMarkers P = true ∧
    Text.splitLines P = ["  x"] ++ ["+ a", "- d"] ++ ["  y"] ∧
    Text.splitLines P' = ["  x"] ++ ["- d", "+ a"] ++ ["  y"] ∧
    (∃ l ∈ Patch.readLines .whitespace (Line.ofText (Text.splitLines source)) P,
      l.index = 1 ∧ l.kind = .add) ∧
    (∃ l ∈ Patch.readLines .whitespace (Line.ofText (Text.splitLines source)) P,
      l.index = 2 ∧ l.kind = .delete) ∧
    apply .whitespace source P = "x\n a\nd\nz\ny" ∧
    apply .whitespace source P' = "x\n a\nz\nd\ny" ∧
    apply .whitespace source P ≠ apply .whitespace source P' := by
  intro source P P'
  have hP : apply .whitespace source P = "x\n a\nd\nz\ny" := by decide +kernel
  have hP' : apply .whitespace source P' = "x\n a\nz\nd\ny" := by decide +kernel
  refine ⟨by decide +kernel, by decide +kernel, by decide +kernel, by decide +kernel,
    by decide +kernel, hP, hP', ?_⟩
  rw [hP, hP']
  decide

end LinePatch
