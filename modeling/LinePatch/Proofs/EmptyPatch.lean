import LinePatch.Proofs.Linking
import LinePatch.Proofs.Layout
import Mathlib.Data.List.Basic

/-!
# An empty patch means no change

A generated patch is empty exactly when the two texts have the same lines under the
policy. When they do, every normal form occurs equally often on both sides, so the first
unique pass pairs each line with the line at its own place, no line is moved, the script
is all context and cutting context leaves nothing.
-/

namespace LinePatch

namespace Strand

variable (xs : List String)

theorem line?_ofText (i : Nat) :
    (ofLines (Line.ofText xs)).line? i = (xs[i]?).map fun t => { index := i, text := t } := by
  have h : (ofLines (Line.ofText xs)).line? = fun i => (Line.ofText xs)[i]? := lineIn_ofLines _
  rw [h]
  simp [Line.ofText, List.getElem?_zipIdx]
  cases xs[i]? <;> rfl

@[simp] theorem size_ofText : (ofLines (Line.ofText xs)).size = xs.length := by
  simp [size, ofLines, Line.ofText]

theorem textAt_ofText (i : Nat) : (ofLines (Line.ofText xs)).textAt i = xs.getD i "" := by
  simp only [textAt, line?_ofText, List.getD_eq_getElem?_getD]
  cases xs[i]? <;> rfl

@[simp] theorem kindAt_ofText (i : Nat) : (ofLines (Line.ofText xs)).kindAt i = .context := by
  simp only [kindAt, line?_ofText]
  cases xs[i]? <;> rfl

theorem linkable_ofText {i : Nat} (hi : i < xs.length) :
    (ofLines (Line.ofText xs)).linkable i = true := by
  simp only [linkable, line?_ofText, List.getElem?_eq_getElem hi, Option.map_some, Option.any_some]
  have h : ((i : Int) != -1) = true := by simp
  exact h

end Strand

private theorem mem_zip_self {α : Type} {l : List α} {x : α} (h : x ∈ l) :
    (x, x) ∈ l.zip l := by
  induction l with
  | nil => simp at h
  | cons y l ih =>
    rcases List.mem_cons.mp h with rfl | h
    · simp
    · exact List.mem_cons_of_mem _ (ih h)

namespace Script

/-- The sides that generation links: the old lines as the source and the new lines as the
patch, matched exactly. -/
def sidesOf (p : Policy) (old new : List String) : Sides :=
  { policy := p, fuzzy := false, source := Strand.ofLines (Line.ofText old),
    patch := Strand.ofLines (Line.ofText new) }

theorem build_eq (p : Policy) (oldText newText : String) :
    build p oldText newText =
      (annihilate p (Line.reorder (truncate contextSize (ofAlignment (Text.splitLines oldText)
        (Text.splitLines newText) (sidesOf p (Text.splitLines oldText)
          (Text.splitLines newText)).align.1))).1).1 := by
  simp only [build, sidesOf]

section Sides

variable (p : Policy) (old new : List String)

theorem sourceKey_sidesOf (i : Nat) :
    (sidesOf p old new).sourceKey i = p.normalize (old.getD i "") := by
  simp [Sides.sourceKey, sidesOf, Strand.textAt_ofText]

theorem patchKey_sidesOf (j : Nat) :
    (sidesOf p old new).patchKey j = p.normalize (new.getD j "") := by
  simp [Sides.patchKey, sidesOf, Strand.textAt_ofText]

theorem order_sidesOf : (sidesOf p old new).patch.order = List.range new.length := by
  simp [sidesOf, Line.ofText]

theorem nodup_order_sidesOf : (sidesOf p old new).patch.order.Nodup := by
  rw [order_sidesOf]
  exact List.nodup_range

theorem eligible_sources_sidesOf :
    (List.range (sidesOf p old new).source.size).filter ((sidesOf p old new).sourceEligible
      (Alignment.empty (sidesOf p old new).source.size (sidesOf p old new).patch.size)) =
      List.range old.length := by
  have hsize : (sidesOf p old new).source.size = old.length := by simp [sidesOf]
  rw [hsize, List.filter_eq_self]
  intro j hj
  simp [Sides.sourceEligible, Alignment.sourceFree, sidesOf,
    Strand.linkable_ofText old (List.mem_range.mp hj)]

theorem eligible_patches_sidesOf :
    (sidesOf p old new).patch.order.filter (fun j =>
      (sidesOf p old new).patchEligible
        (Alignment.empty (sidesOf p old new).source.size (sidesOf p old new).patch.size) j &&
      (sidesOf p old new).patch.kindAt j != .add) = List.range new.length := by
  rw [order_sidesOf, List.filter_eq_self]
  intro j hj
  simp [Sides.patchEligible, Alignment.patchFree, sidesOf,
    Strand.linkable_ofText new (List.mem_range.mp hj)]

theorem matches_align : Matches (sidesOf p old new).align.1 old new := by
  have hs := (Sides.align_extends _ (nodup_order_sidesOf p old new)).sound
  refine ⟨hs.symm, fun i j hij => ?_⟩
  have hadm := hs.admits i j hij
  have hi := Strand.lt_size_of_linkable hadm.1
  have hj := Strand.lt_size_of_linkable hadm.2.1
  simp only [sidesOf, Strand.size_ofText] at hi hj
  exact ⟨hi, hj⟩

theorem normalize_of_align {i j : Nat} (h : (sidesOf p old new).align.1.patchOf i = some j) :
    p.normalize (old.getD i "") = p.normalize (new.getD j "") := by
  have := (Sides.align_one_to_one _ (nodup_order_sidesOf p old new)).2.2.2 rfl i j h
  rwa [sourceKey_sidesOf, patchKey_sidesOf] at this

theorem align_sidesOf_of_same (h : old.map p.normalize = new.map p.normalize) :
    ∀ i < old.length, (sidesOf p old new).align.1.patchOf i = some i := by
  intro i hi
  let s := sidesOf p old new
  have hlen : new.length = old.length := by simpa using (congrArg List.length h).symm
  have hpat : s.patch.order.Nodup := nodup_order_sidesOf p old new
  have hkeys : ∀ j ∈ List.range new.length, s.patchKey j = s.sourceKey j := by
    intro j hj
    have hj' := List.mem_range.mp hj
    have := congrArg (·[j]?) h
    simp only [List.getElem?_map, List.getElem?_eq_getElem hj',
      List.getElem?_eq_getElem (hlen ▸ hj'), Option.map_some, Option.some.injEq] at this
    simp [s, sourceKey_sidesOf, patchKey_sidesOf, List.getD_eq_getElem?_getD,
      List.getElem?_eq_getElem hj', List.getElem?_eq_getElem (hlen ▸ hj'), this]
  obtain ⟨g, hg, -, hig⟩ := groupBy_cover s.sourceKey (List.mem_range.mpr hi)
  -- the groups of the new lines are those of the old lines
  have hps : lookupGroup (groupBy s.patchKey (s.patch.order.filter fun j =>
      s.patchEligible (Alignment.empty s.source.size s.patch.size) j &&
        s.patch.kindAt j != .add)) g.1 = some g.2 := by
    rw [eligible_patches_sidesOf, groupBy_congr s.patchKey hkeys, hlen]
    exact lookupGroup_of_mem s.sourceKey hg
  have hlink := Sides.linkUnique_links_group (Sides.sound_empty s) List.nodup_range hpat
    (by rw [eligible_sources_sidesOf]; exact hg) hps rfl (i, i) (mem_zip_self hig)
  obtain ⟨k, hext, -⟩ := Sides.align_stages s hpat
  exact hext.keeps i i hlink

theorem align_links_of_counts
    (h : ∀ k, countBefore (fun x => p.normalize (old.getD x "") == k) old.length =
      countBefore (fun y => p.normalize (new.getD y "") == k) new.length) :
    ∀ i < old.length, ((sidesOf p old new).align.1.patchOf i).isSome := by
  intro i hi
  let s := sidesOf p old new
  have hpat : s.patch.order.Nodup := nodup_order_sidesOf p old new
  have hkeyS : s.sourceKey = fun x => p.normalize (old.getD x "") :=
    funext (sourceKey_sidesOf p old new)
  have hkeyP : s.patchKey = fun y => p.normalize (new.getD y "") :=
    funext (patchKey_sidesOf p old new)
  obtain ⟨g, hg, -, hig⟩ := groupBy_cover s.sourceKey (List.mem_range.mpr hi)
  have hglen : g.2.length = countBefore (fun x => p.normalize (old.getD x "") == g.1)
      old.length := by
    rw [groupBy_members s.sourceKey _ hg, hkeyS, countBefore]
  -- the new lines of the same normal form are as many, so there is one
  obtain ⟨y, hy, hyk⟩ : ∃ y < new.length, s.patchKey y = g.1 := by
    have hpos : 0 < countBefore (fun y => p.normalize (new.getD y "") == g.1) new.length := by
      rw [← h, ← hglen]
      exact List.length_pos_of_mem hig
    obtain ⟨y, hy⟩ := List.exists_mem_of_length_pos hpos
    simp only [List.mem_filter, List.mem_range, beq_iff_eq] at hy
    exact ⟨y, hy.1, by rw [hkeyP]; exact hy.2⟩
  obtain ⟨g', hg', hg'k, -⟩ := groupBy_cover s.patchKey (List.mem_range.mpr hy)
  have hps : lookupGroup (groupBy s.patchKey (s.patch.order.filter fun j =>
      s.patchEligible (Alignment.empty s.source.size s.patch.size) j &&
        s.patch.kindAt j != .add)) g.1 = some g'.2 := by
    rw [eligible_patches_sidesOf, ← hyk, ← hg'k]
    exact lookupGroup_of_mem s.patchKey hg'
  have hlen : g'.2.length = g.2.length := by
    rw [hglen, h, groupBy_members s.patchKey _ hg', hg'k, hyk, hkeyP, countBefore]
  obtain ⟨t, ht, rfl⟩ := List.getElem_of_mem hig
  have hmem : (g.2[t], g'.2[t]) ∈ g.2.zip g'.2 :=
    List.mem_iff_getElem.mpr ⟨t, by simp [hlen, ht], by simp⟩
  have hlink := Sides.linkUnique_links_group (Sides.sound_empty s) List.nodup_range hpat
    (by rw [eligible_sources_sidesOf]; exact hg) hps hlen _ hmem
  obtain ⟨k, hext, -⟩ := Sides.align_stages s hpat
  exact Option.isSome_iff_exists.mpr ⟨_, hext.keeps _ _ hlink⟩

end Sides

theorem foldl_movedStep_of_identity (a : Alignment) :
    ∀ n : Nat, (∀ i < n, a.patchOf i = some i) →
      ∀ e : Option Nat, (∀ v, e = some v → n ≤ v) →
        ((List.range n).reverse.foldl (movedStep a) ([], e)).1 = []
  | 0, _, _, _ => rfl
  | n + 1, h, e, he => by
    have hstep : movedStep a ([], e) n = ([], some n) := by
      cases e with
      | none => simp [movedStep, h n (by omega)]
      | some v =>
        have hv := he v rfl
        simp [movedStep, h n (by omega), show ¬v < n by omega, show min v n = n by omega]
    rw [List.range_succ, List.reverse_append, List.reverse_singleton, List.singleton_append,
      List.foldl_cons, hstep]
    exact foldl_movedStep_of_identity a n (fun i hi => h i (by omega)) (some n) (by simp)

theorem ofAlignment_of_identity {old new : List String} {a : Alignment}
    (hlen : old.length = new.length) (hsrc : ∀ i < old.length, a.patchOf i = some i)
    (hpat : ∀ j < new.length, a.sourceOf j = some j) :
    ofAlignment old new a =
      new.zipIdx.map fun x => { index := x.2, text := x.1, kind := .context } := by
  have hlinked : (List.range old.length).filter (fun i => (a.patchOf i).isSome) =
      List.range old.length :=
    List.filter_eq_self.mpr fun i hi => by simp [hsrc i (List.mem_range.mp hi)]
  have hmoved : movedLines a old.length = [] := by
    rw [movedLines_eq, hlinked]
    exact foldl_movedStep_of_identity a _ hsrc none (by simp)
  have hrun : ∀ o : Option Nat, (∀ i, o = some i → i < old.length) →
      deletedRun old (fun i => (a.patchOf i).isNone || ([] : List Nat).contains i)
        (old.length + 1) o = [] := by
    intro o ho
    cases o with
    | none => rfl
    | some i => simp [deletedRun, hsrc i (ho i rfl)]
  unfold ofAlignment
  simp only [hmoved]
  rw [hrun _ (by intro i hi; split at hi <;> simp at hi; omega), List.append_nil,
    List.flatMap_congr (g := fun x => [({ index := x.2, text := x.1, kind := .context } : Line)]),
    ← List.map_eq_flatMap]
  rintro ⟨t, j⟩ hx
  have hj := (List.mem_zipIdx' hx).1
  simp only [hpat j hj]
  rw [hrun _ (by intro i hi; split at hi <;> simp at hi; omega)]
  simp

theorem truncate_of_context (k : Int) {diff : List Line} (h : ∀ l ∈ diff, l.kind = .context) :
    truncate k diff = [] := by
  have hout : (diff.foldl (truncateStep k) ([], [])).1 = [] := by
    refine List.foldlRecOn (motive := fun (acc : List Line × List Line) => acc.1 = [])
      diff (truncateStep k) rfl ?_
    intro acc hacc l hl
    simp [truncateStep, h l hl, hacc]
  rw [truncate_eq, hout]
  rfl

theorem generate_of_same_lines (p : Policy) (oldText newText : String)
    (h : (Text.splitLines oldText).map p.normalize = (Text.splitLines newText).map p.normalize) :
    generate p oldText newText = "" := by
  rw [generate, build_eq]
  generalize Text.splitLines oldText = old at h ⊢
  generalize Text.splitLines newText = new at h ⊢
  have hlen : old.length = new.length := by simpa using congrArg List.length h
  have hsrc := align_sidesOf_of_same p old new h
  have hsym : ∀ j < new.length, (sidesOf p old new).align.1.sourceOf j = some j := fun j hj =>
    ((matches_align p old new).symm j j).mp (hsrc j (hlen ▸ hj))
  -- the script is all context, and cutting context leaves nothing
  have hcut : truncate contextSize (ofAlignment old new (sidesOf p old new).align.1) = [] := by
    rw [ofAlignment_of_identity hlen hsrc hsym]
    apply truncate_of_context
    intro l hl
    obtain ⟨x, -, rfl⟩ := List.mem_map.mp hl
    rfl
  rw [hcut, Line.reorder_of_settled List.IsChain.nil]
  rfl

section Converse

variable {a : Alignment} {old new : List String}

theorem not_moved_of_diagonal (hm : Matches a old new) (hlen : old.length = new.length)
    (hall : ∀ i < old.length, (a.patchOf i).isSome)
    (hdiag : ∀ i j, a.patchOf i = some j → removed a old i = false → i = j) :
    ∀ i, i ∉ movedLines a old.length := by
  -- downwards from the end: no line from `old.length - n` on is moved
  have key : ∀ n i, old.length ≤ i + n → i ∉ movedLines a old.length := by
    intro n
    induction n with
    | zero =>
      intro i hi hmv
      have := ((mem_movedLines a _ i).mp hmv).1
      omega
    | succ n ih =>
      intro i hi hmv
      obtain ⟨-, hsome, i', hii', -, hsome', hlt⟩ := (mem_movedLines a _ i).mp hmv
      obtain ⟨t, ht⟩ := Option.isSome_iff_exists.mp hsome
      obtain ⟨t', ht'⟩ := Option.isSome_iff_exists.mp hsome'
      rw [ht, ht', Option.getD_some, Option.getD_some] at hlt
      -- the later line is not moved, so it sits at its own place
      have hr' : removed a old i' = false := by
        rw [removed_of_patchOf ht']
        simpa using ih i' (by omega)
      have hi't' := hdiag i' t' ht' hr'
      -- the place `t` of the moved line holds a moved line too, at or below `i`
      obtain ⟨u, hu⟩ := Option.isSome_iff_exists.mp (hall t (hlen ▸ (hm.bound i t ht).2))
      have hrt : removed a old t = true := by
        by_contra hrt
        simp only [Bool.not_eq_true] at hrt
        obtain rfl := hdiag t u hu hrt
        obtain rfl := hm.inj ht hu
        rw [removed_of_patchOf ht] at hrt
        simp [hmv] at hrt
      have htle : t ≤ i := by
        by_contra hgt
        rw [removed_of_patchOf hu] at hrt
        exact ih t (by omega) (by simpa using hrt)
      omega
  intro i
  exact key old.length i (by omega)

end Converse

theorem runBalance_of_generate_eq_empty {p : Policy} {oldText newText : String}
    (h : generate p oldText newText = "") {q : String → Bool}
    (hq : ∀ x y, p.normalize x = p.normalize y → q x = q y) :
    runBalance q (ofAlignment (Text.splitLines oldText) (Text.splitLines newText)
      (sidesOf p (Text.splitLines oldText) (Text.splitLines newText)).align.1) = (true, 0) := by
  rw [generate, build_eq] at h
  -- all that is written is blank context, so cancelling left nothing else
  have hbal := runBalance_of_cancelled hq fun l hl => by
    have hblank := render_eq_empty h l hl
    simp only [isBlankContext, Bool.and_eq_true, beq_iff_eq] at hblank
    exact hblank.1
  rwa [runBalance_reorder, runBalance_truncate q (by decide)] at hbal

theorem same_lines_of_balanced {p : Policy} {old new : List String}
    (hbal : ∀ q : String → Bool, (∀ x y, p.normalize x = p.normalize y → q x = q y) →
      runBalance q (ofAlignment old new (sidesOf p old new).align.1) = (true, 0)) :
    old.map p.normalize = new.map p.normalize := by
  have hm := matches_align p old new
  have hkey : ∀ i j, (sidesOf p old new).align.1.patchOf i = some j →
      p.normalize (old.getD i "") = p.normalize (new.getD j "") := fun i j h =>
    normalize_of_align p old new h
  have hcounts := fun (q : String → Bool)
      (hq : ∀ x y, p.normalize x = p.normalize y → q x = q y) =>
    countBefore_eq_of_balanced q hm (fun i j hij => hq _ _ (hkey i j hij)) (hbal q hq)
  -- counting every line puts each pair written as context at its own place
  obtain ⟨hdiag, hlen⟩ := hcounts (fun _ => true) fun _ _ _ => rfl
  simp only [countBefore_true] at hdiag hlen
  -- counting each normal form apart links every old line
  have hall := align_links_of_counts p old new fun k =>
    (hcounts (fun t => p.normalize t == k) fun x y hxy => by rw [hxy]).2
  have hstill := not_moved_of_diagonal hm hlen hall hdiag
  have hid : ∀ i < old.length, (sidesOf p old new).align.1.patchOf i = some i := by
    intro i hi
    obtain ⟨j, hj⟩ := Option.isSome_iff_exists.mp (hall i hi)
    have hr : removed (sidesOf p old new).align.1 old i = false := by
      rw [removed_of_patchOf hj]
      simpa using hstill i
    rw [hj, hdiag i j hj hr]
  apply List.ext_getElem (by simp [hlen])
  intro i h₁ h₂
  simp only [List.length_map] at h₁ h₂
  have := hkey i i (hid i h₁)
  simpa [List.getD_eq_getElem?_getD, List.getElem?_eq_getElem h₁,
    List.getElem?_eq_getElem h₂] using this

/-- The patch generated between two texts is empty exactly when the two texts have the same
lines under the policy. -/
theorem generate_eq_empty_iff (p : Policy) (oldText newText : String) :
    generate p oldText newText = "" ↔
      (Text.splitLines oldText).map p.normalize = (Text.splitLines newText).map p.normalize :=
  ⟨fun h => same_lines_of_balanced fun _ hq => runBalance_of_generate_eq_empty h hq,
    generate_of_same_lines p oldText newText⟩

end Script

end LinePatch
