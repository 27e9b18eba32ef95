import LinePatch.Proofs.RoundTrip

/-!
# Where each rebuilt line comes from

The rebuild writes every source line that is not paired with a deletion, once and in the
order of the source, and between them additions of the patch, each at most once. A kept line
is written with its own text, unless its partner's text differs beyond the normal form, when
the partner's wording wins; that partner is always context, since additions are never paired.
So the text written is a merge of the kept source lines with some additions: no source line
moves, doubles or disappears unless a deletion claims it, and no deletion or free context line
of the patch is ever written.
-/

namespace LinePatch

/-- Where a line written by the rebuild comes from: a source line kept in place, or an
addition of the patch. -/
inductive Origin where
  | source (i : Nat)
  | added (j : Nat)
  deriving DecidableEq, Repr

namespace Origin

def source? : Origin → Option Nat
  | source i => some i
  | added _ => none

def added? : Origin → Option Nat
  | source _ => none
  | added j => some j

@[simp] theorem source?_source (i : Nat) : (source i).source? = some i := rfl

@[simp] theorem source?_added (j : Nat) : (added j).source? = none := rfl

@[simp] theorem added?_source (i : Nat) : (source i).added? = none := rfl

@[simp] theorem added?_added (j : Nat) : (added j).added? = some j := rfl

@[simp] theorem filterMap_source?_map_added (js : List Nat) :
    (js.map added).filterMap source? = [] := by
  induction js with
  | nil => rfl
  | cons j js ih => simp [List.filterMap_cons]

@[simp] theorem filterMap_added?_map_added (js : List Nat) :
    (js.map added).filterMap added? = js := by
  induction js with
  | nil => rfl
  | cons j js ih => simpa [List.filterMap_cons] using ih

end Origin

namespace Rebuild

@[simp] theorem out_emit (st : Rebuild) (t : String) : (st.emit t).out = st.out.push t := rfl

@[simp] theorem used_emit (st : Rebuild) (t : String) : (st.emit t).used = st.used := rfl

@[simp] theorem isUsed_emit (st : Rebuild) (t : String) (j : Nat) :
    (st.emit t).isUsed j = st.isUsed j := rfl

@[simp] theorem out_markUsed (st : Rebuild) (j : Nat) : (st.markUsed j).out = st.out := rfl

@[simp] theorem size_used_markUsed (st : Rebuild) (j : Nat) :
    (st.markUsed j).used.size = st.used.size := by
  simp [markUsed]

theorem isUsed_markUsed_self (st : Rebuild) {j : Nat} (hj : j < st.used.size) :
    (st.markUsed j).isUsed j = true := by
  simp [isUsed, markUsed, hj]

theorem isUsed_markUsed_of_isUsed (st : Rebuild) (j : Nat) {k : Nat} (h : st.isUsed k = true) :
    (st.markUsed j).isUsed k = true := by
  by_cases hk : j = k
  · subst hk
    have hlt : j < st.used.size := by
      by_contra hge
      simp [isUsed, Array.getElem?_eq_none (Nat.le_of_not_lt hge)] at h
    exact isUsed_markUsed_self st hlt
  · simpa [isUsed, markUsed, Array.getElem?_setIfInBounds_ne hk] using h

theorem foldl_emit (ts : List String) (st : Rebuild) :
    ts.foldl Rebuild.emit st = { st with out := st.out ++ ts.toArray } := by
  induction ts generalizing st with
  | nil => simp
  | cons t ts ih =>
    rw [List.foldl_cons, ih]
    simp [emit]

end Rebuild

theorem Strand.lt_size_of_kindAt_add {t : Strand} {j : Nat} (h : t.kindAt j = .add) :
    j < t.size := by
  by_contra hge
  have hnone : t.entries[j]? = none := Array.getElem?_eq_none (Nat.le_of_not_lt hge)
  simp [Strand.kindAt, Strand.line?, hnone] at h

namespace Sides

variable (s : Sides) (a : Alignment)

/-- A source line is kept unless its partner is a deletion. -/
def keeps (i : Nat) : Bool :=
  match a.patchOf i with
  | some j => s.patch.kindAt j != .delete
  | none => true

def keptText (i : Nat) : String :=
  match a.patchOf i with
  | some j =>
    if s.policy.normalize (s.source.textAt i) = s.policy.normalize (s.patch.textAt j) then
      s.source.textAt i
    else s.patch.textAt j
  | none => s.source.textAt i

def originText : Origin → String
  | .source i => s.keptText a i
  | .added j => s.patch.textAt j

/-- What the rebuild has written so far is the text of `tags`; the additions among them are
distinct additions of the patch, each marked written, and the marks are sized for the patch. -/
structure Traced (st : Rebuild) (tags : List Origin) : Prop where
  out : st.out.toList = tags.map (s.originText a)
  nodup : (tags.filterMap Origin.added?).Nodup
  added : ∀ j ∈ tags.filterMap Origin.added?, s.patch.kindAt j = .add ∧ st.isUsed j = true
  size : st.used.size = s.patch.size

/-- `st'` is `st` with the additions `js`, distinct and not yet written in `st`, marked
written, and nothing else changed but marks. -/
structure Marks (st st' : Rebuild) (js : List Nat) : Prop where
  nodup : js.Nodup
  fresh : ∀ j ∈ js, s.isFreshAdd st j = true
  marked : ∀ j ∈ js, st'.isUsed j = true
  keeps : ∀ k, st.isUsed k = true → st'.isUsed k = true
  out : st'.out = st.out
  size : st'.used.size = st.used.size

variable {s a} {st : Rebuild} {tags : List Origin}

theorem isFreshAdd_iff {j : Nat} :
    s.isFreshAdd st j = true ↔ s.patch.kindAt j = .add ∧ st.isUsed j = false := by
  simp [isFreshAdd]

theorem traced_init :
    s.Traced a { out := #[], used := Array.replicate s.patch.size false } [] :=
  ⟨rfl, List.nodup_nil, by simp, by simp⟩

theorem Traced.markUsed (h : s.Traced a st tags) (j : Nat) : s.Traced a (st.markUsed j) tags :=
  ⟨h.out, h.nodup, fun k hk => ⟨(h.added k hk).1, st.isUsed_markUsed_of_isUsed j (h.added k hk).2⟩,
    by rw [Rebuild.size_used_markUsed, h.size]⟩

theorem Traced.anchor (h : s.Traced a st tags) : s.Traced a { st with anchored := true } tags :=
  ⟨h.out, h.nodup, h.added, h.size⟩

theorem Traced.emitSource (h : s.Traced a st tags) (i : Nat) :
    s.Traced a (st.emit (s.keptText a i)) (tags ++ [.source i]) := by
  refine ⟨?_, ?_, ?_, h.size⟩
  · simp [h.out, originText]
  · simpa [List.filterMap_cons] using h.nodup
  · simpa [List.filterMap_cons] using h.added

theorem Traced.emitAdd (h : s.Traced a st tags) {j : Nat} (hj : s.isFreshAdd st j = true) :
    s.Traced a ((st.emit (s.patch.textAt j)).markUsed j) (tags ++ [.added j]) := by
  rw [isFreshAdd_iff] at hj
  have hlt : j < (st.emit (s.patch.textAt j)).used.size := by
    rw [Rebuild.used_emit, h.size]
    exact Strand.lt_size_of_kindAt_add hj.1
  refine ⟨?_, ?_, ?_, by rw [Rebuild.size_used_markUsed, Rebuild.used_emit, h.size]⟩
  · simp [h.out, originText]
  · -- the addition is not among those written, which are all marked
    rw [List.filterMap_append, List.nodup_append]
    refine ⟨h.nodup, by simp, ?_⟩
    intro k hk l hl
    simp only [List.filterMap_cons, Origin.added?_added, List.filterMap_nil,
      List.mem_singleton] at hl
    subst hl
    intro hkl
    subst hkl
    rw [(h.added k hk).2] at hj
    exact absurd hj.2 (by simp)
  · intro k hk
    rw [List.filterMap_append, List.mem_append] at hk
    rcases hk with hk | hk
    · exact ⟨(h.added k hk).1, Rebuild.isUsed_markUsed_of_isUsed _ j (by simpa using (h.added k hk).2)⟩
    · simp only [List.filterMap_cons, Origin.added?_added, List.filterMap_nil,
        List.mem_singleton] at hk
      subst hk
      exact ⟨hj.1, Rebuild.isUsed_markUsed_self _ hlt⟩

theorem Traced.emitMarks (h : s.Traced a st tags) {st' : Rebuild} {js : List Nat}
    (hm : s.Marks st st' js) :
    s.Traced a ((js.map s.patch.textAt).reverse.foldl Rebuild.emit st')
      (tags ++ js.reverse.map .added) := by
  rw [Rebuild.foldl_emit]
  refine ⟨?_, ?_, ?_, by simp [hm.size, h.size]⟩
  · simp [hm.out, h.out, originText, List.map_reverse]
  · rw [List.filterMap_append, Origin.filterMap_added?_map_added, List.nodup_append]
    refine ⟨h.nodup, List.nodup_reverse.mpr hm.nodup, ?_⟩
    intro k hk l hl hkl
    subst hkl
    have hfresh := hm.fresh k (List.mem_reverse.mp hl)
    simp [isFreshAdd, (h.added k hk).2] at hfresh
  · intro k hk
    rw [List.filterMap_append, Origin.filterMap_added?_map_added, List.mem_append] at hk
    rcases hk with hk | hk
    · exact ⟨(h.added k hk).1, hm.keeps k (h.added k hk).2⟩
    · have hfresh := hm.fresh k (List.mem_reverse.mp hk)
      exact ⟨(isFreshAdd_iff.mp hfresh).1, hm.marked k (List.mem_reverse.mp hk)⟩

theorem Marks.refl (st : Rebuild) : s.Marks st st [] :=
  ⟨List.nodup_nil, by simp, by simp, fun _ h => h, rfl, rfl⟩

theorem Marks.cons {st' : Rebuild} {js : List Nat} {j : Nat} (hsize : st.used.size = s.patch.size)
    (hj : s.isFreshAdd st j = true) (hm : s.Marks (st.markUsed j) st' js) :
    s.Marks st st' (j :: js) := by
  have hlt : j < st.used.size := hsize ▸ Strand.lt_size_of_kindAt_add (isFreshAdd_iff.mp hj).1
  have hmarked : (st.markUsed j).isUsed j = true := st.isUsed_markUsed_self hlt
  -- the additions marked further on were still fresh once `j` was marked, so they are not `j`
  have hne : j ∉ js := by
    intro hmem
    have hfresh := hm.fresh j hmem
    simp [isFreshAdd, hmarked] at hfresh
  refine ⟨List.nodup_cons.mpr ⟨hne, hm.nodup⟩, ?_, ?_, ?_, hm.out,
    by rw [hm.size, Rebuild.size_used_markUsed]⟩
  · intro k hk
    rcases List.mem_cons.mp hk with rfl | hk
    · exact hj
    · have hf := isFreshAdd_iff.mp (hm.fresh k hk)
      refine isFreshAdd_iff.mpr ⟨hf.1, ?_⟩
      cases hu : st.isUsed k
      · rfl
      · rw [st.isUsed_markUsed_of_isUsed j hu] at hf
        exact absurd hf.2 (by simp)
  · intro k hk
    rcases List.mem_cons.mp hk with rfl | hk
    · exact hm.keeps k hmarked
    · exact hm.marked k hk
  · exact fun k hk => hm.keeps k (st.isUsed_markUsed_of_isUsed j hk)

variable (s a)

theorem writeReplacements_traced (fuel : Nat) :
    ∀ (st : Rebuild) (cur : Option Nat) (tags : List Origin), s.Traced a st tags →
      ∃ js : List Nat, s.Traced a (s.writeReplacements fuel st cur) (tags ++ js.map .added) := by
  induction fuel with
  | zero => exact fun st _ tags h => ⟨[], by simpa [writeReplacements] using h⟩
  | succ fuel ih =>
    intro st cur tags h
    cases cur with
    | none => exact ⟨[], by simpa [writeReplacements] using h⟩
    | some j =>
      by_cases hj : s.isFreshAdd st j = true
      · obtain ⟨js, hjs⟩ := ih _ (s.patch.after j) _ (h.emitAdd hj)
        refine ⟨j :: js, ?_⟩
        simpa [writeReplacements, hj] using hjs
      · exact ⟨[], by simpa [writeReplacements, hj] using h⟩

theorem writeAfter_traced (fuel : Nat) :
    ∀ (st : Rebuild) (cur : Option Nat) (tags : List Origin), s.Traced a st tags →
      ∃ js : List Nat, s.Traced a (s.writeAfter a fuel st cur) (tags ++ js.map .added) := by
  induction fuel with
  | zero => exact fun st _ tags h => ⟨[], by simpa [writeAfter] using h⟩
  | succ fuel ih =>
    intro st cur tags h
    rcases hw : s.patch.walkOn (s.isFiller a) cur with _ | j
    · exact ⟨[], by simpa [writeAfter, hw] using h⟩
    · by_cases hj : s.isFreshAdd st j = true
      · obtain ⟨js, hjs⟩ := ih _ (s.patch.after j) _ (h.emitAdd hj)
        refine ⟨j :: js, ?_⟩
        simpa [writeAfter, hw, hj] using hjs
      · exact ⟨[], by simpa [writeAfter, hw, hj] using h⟩

theorem collectBefore_marks (fuel : Nat) :
    ∀ (st : Rebuild) (cur : Option Nat), st.used.size = s.patch.size →
      ∃ js : List Nat, (s.collectBefore fuel st cur).2 = js.map s.patch.textAt ∧
        s.Marks st (s.collectBefore fuel st cur).1 js := by
  induction fuel with
  | zero => exact fun st _ _ => ⟨[], rfl, Marks.refl st⟩
  | succ fuel ih =>
    intro st cur hsize
    cases cur with
    | none => exact ⟨[], rfl, Marks.refl st⟩
    | some j =>
      by_cases hj : s.isFreshAdd st j = true
      · obtain ⟨js, hts, hm⟩ := ih (st.markUsed j) (s.patch.before j)
          (by rw [Rebuild.size_used_markUsed, hsize])
        refine ⟨j :: js, by simp [collectBefore, hj, hts], ?_⟩
        simpa [collectBefore, hj] using hm.cons hsize hj
      · exact ⟨[], by simp [collectBefore, hj], by simpa [collectBefore, hj] using Marks.refl st⟩

theorem rebuildLine_traced {st : Rebuild} {tags : List Origin} (h : s.Traced a st tags) (i : Nat) :
    ∃ more : List Origin, s.Traced a (s.rebuildLine a st i) (tags ++ more) ∧
      more.filterMap Origin.source? = if s.keeps a i then [i] else [] := by
  rcases hp : a.patchOf i with _ | j
  · -- a free line is written as it is
    have htext : s.keptText a i = s.source.textAt i := by simp [keptText, hp]
    refine ⟨[.source i], ?_, by simp [keeps, hp]⟩
    simpa [rebuildLine, hp, htext] using h.emitSource i
  · by_cases hd : s.patch.kindAt j = .delete
    · -- a deleted line: the additions after the deletion take its place
      obtain ⟨js₁, h₁⟩ := writeReplacements_traced s a (s.patch.size + 1) _ (s.patch.after j) _
        (h.markUsed j)
      obtain ⟨js₂, h₂⟩ := writeAfter_traced s a (s.patch.size + 1) _ (s.patch.after j) _ h₁
      refine ⟨js₁.map .added ++ js₂.map .added, ?_, by simp [keeps, hp, hd]⟩
      simpa [rebuildLine, hp, hd] using h₂.anchor
    · -- a kept line: the additions before its partner, the line, the additions after
      obtain ⟨js, hts, hm⟩ := collectBefore_marks s (s.patch.size + 1) st (s.patch.before j) h.size
      rcases hc : s.collectBefore (s.patch.size + 1) st (s.patch.before j) with ⟨st', ts⟩
      rw [hc] at hts hm
      simp only at hts hm
      have htext : (if s.policy.normalize (s.source.textAt i) =
          s.policy.normalize (s.patch.textAt j) then s.source.textAt i else s.patch.textAt j) =
          s.keptText a i := by simp [keptText, hp]
      have h₁ := ((h.emitMarks hm).markUsed j).emitSource i
      rw [← hts, ← htext] at h₁
      obtain ⟨js₂, h₂⟩ := writeAfter_traced s a (s.patch.size + 1) _ (s.patch.after j) _ h₁
      refine ⟨js.reverse.map .added ++ [.source i] ++ js₂.map .added, ?_, ?_⟩
      · simpa [rebuildLine, hp, hd, hc] using h₂.anchor
      rw [List.filterMap_append, List.filterMap_append, Origin.filterMap_source?_map_added,
        Origin.filterMap_source?_map_added]
      simp [keeps, hp, hd]

theorem foldl_rebuildLine_traced (n : Nat) :
    ∃ tags : List Origin, s.Traced a ((List.range n).foldl (s.rebuildLine a)
        { out := #[], used := Array.replicate s.patch.size false }) tags ∧
      tags.filterMap Origin.source? = (List.range n).filter (s.keeps a) := by
  induction n with
  | zero => exact ⟨[], traced_init, rfl⟩
  | succ n ih =>
    obtain ⟨tags, ht, hsrc⟩ := ih
    obtain ⟨more, hmore, hmsrc⟩ := rebuildLine_traced s a ht n
    refine ⟨tags ++ more, ?_, ?_⟩
    · rw [List.range_succ, List.foldl_append, List.foldl_cons, List.foldl_nil]
      exact hmore
    · rw [List.filterMap_append, hsrc, hmsrc, List.range_succ, List.filter_append]
      by_cases hk : s.keeps a n = true <;> simp [hk]

theorem foldl_writeFresh (js : List Nat) (st : Rebuild) :
    js.foldl (fun st j => if s.isFreshAdd st j then st.emit (s.patch.textAt j) else st) st =
      { st with out := st.out ++ ((js.filter (s.isFreshAdd st)).map s.patch.textAt).toArray } := by
  induction js generalizing st with
  | nil => simp
  | cons j js ih =>
    have hfresh : s.isFreshAdd (st.emit (s.patch.textAt j)) = s.isFreshAdd st := by
      funext k
      simp [isFreshAdd]
    by_cases hj : s.isFreshAdd st j = true
    · rw [List.foldl_cons, if_pos hj, ih, hfresh]
      simp [hj, Rebuild.emit]
    · rw [List.foldl_cons, if_neg hj, ih]
      simp [hj]

theorem rebuild_merges (hpat : s.patch.order.Nodup) :
    ∃ tags : List Origin, s.rebuild a = tags.map (s.originText a) ∧
      tags.filterMap Origin.source? = (List.range s.source.size).filter (s.keeps a) ∧
      (tags.filterMap Origin.added?).Nodup ∧
      ∀ j ∈ tags.filterMap Origin.added?, s.patch.kindAt j = .add := by
  obtain ⟨tags, ht, hsrc⟩ := foldl_rebuildLine_traced s a s.source.size
  unfold rebuild
  generalize (List.range s.source.size).foldl (s.rebuildLine a)
    { out := #[], used := Array.replicate s.patch.size false } = st at ht ⊢
  by_cases hanch : st.anchored = true
  · simp only [hanch, if_true]
    exact ⟨tags, ht.out, hsrc, ht.nodup, fun j hj => (ht.added j hj).1⟩
  · -- without anchor, the fresh additions that are not blank follow, in the patch's order
    set js := (s.patch.order.filter fun j => !s.policy.isBlankLine (s.patch.textAt j)).filter
      (s.isFreshAdd st)
    have hjs : ∀ j ∈ js, s.isFreshAdd st j = true := fun j hj => (List.mem_filter.mp hj).2
    refine ⟨tags ++ js.map .added, ?_, ?_, ?_, ?_⟩
    · simp only [hanch, Bool.false_eq_true, if_false]
      rw [foldl_writeFresh]
      simp [ht.out, originText, js]
    · simp [hsrc]
    · rw [List.filterMap_append, Origin.filterMap_added?_map_added, List.nodup_append]
      refine ⟨ht.nodup, (hpat.filter _).filter _, ?_⟩
      intro k hk l hl hkl
      subst hkl
      have := (isFreshAdd_iff.mp (hjs k hl)).2
      rw [(ht.added k hk).2] at this
      exact absurd this (by simp)
    · intro j hj
      rw [List.filterMap_append, Origin.filterMap_added?_map_added, List.mem_append] at hj
      rcases hj with hj | hj
      · exact (ht.added j hj).1
      · exact (isFreshAdd_iff.mp (hjs j hj)).1

theorem kindAt_partner_of_keeps {s : Sides} {a : Alignment} (hs : s.Sound a) {i j : Nat}
    (hij : a.patchOf i = some j) (hk : s.keeps a i = true) : s.patch.kindAt j = .context := by
  have hadd := (hs.admits i j hij).2.2.1
  have hdel : s.patch.kindAt j ≠ .delete := by simpa [keeps, hij] using hk
  cases h : s.patch.kindAt j with
  | context => rfl
  | add => exact absurd h hadd
  | delete => exact absurd h hdel

end Sides

theorem Patch.nodup_order_read (p : Policy) (src : List Line) (text : String) :
    (Patch.read p src text).order.Nodup := by
  unfold Patch.read
  exact (Line.reorder_order_perm _).nodup_iff.mpr List.nodup_range

theorem Sides.nodup_order_ofTexts (p : Policy) (fuzzy : Bool) (source patch : String) :
    (Sides.ofTexts p fuzzy source patch).patch.order.Nodup := by
  rw [Sides.patch_ofTexts]
  exact Patch.nodup_order_read _ _ _

/-- Applying a patch keeps the source. The rebuilt lines, before blank lines are trimmed, are a
merge of two sequences: the source lines not paired with a deletion, in the order of the source
and each once, and additions of the read patch, distinct and each once. A kept line is written
with its own text when it is free or its partner has the same normal form, and otherwise with
the text of its partner, which is context. So no source line is moved, doubled or dropped
unless a deletion claims it, and no deletion or free context line of the patch is written. -/
theorem rebuild_preserves_source (p : Policy) (source patch : String) :
    let s := Sides.ofTexts p true source patch
    (∀ i j, s.align.1.patchOf i = some j → s.keeps s.align.1 i = true →
      s.patch.kindAt j = .context) ∧
    ∃ tags : List Origin, s.rebuild s.align.1 = tags.map (s.originText s.align.1) ∧
      tags.filterMap Origin.source? = (List.range s.source.size).filter (s.keeps s.align.1) ∧
      (tags.filterMap Origin.added?).Nodup ∧
      ∀ j ∈ tags.filterMap Origin.added?, s.patch.kindAt j = .add := by
  have hpat := Sides.nodup_order_ofTexts p true source patch
  exact ⟨fun i j hij hk => Sides.kindAt_partner_of_keeps (Sides.align_extends _ hpat).sound hij hk,
    Sides.rebuild_merges _ _ hpat⟩

/-- Each addition is written at most once, and when no source line is paired every addition
that is not blank is written, after the source and in the patch's order. -/
theorem rebuild_additions (p : Policy) (source patch : String) :
    let s := Sides.ofTexts p true source patch
    (∃ tags : List Origin, s.rebuild s.align.1 = tags.map (s.originText s.align.1) ∧
      (tags.filterMap Origin.added?).Nodup ∧
      ∀ j ∈ tags.filterMap Origin.added?, s.patch.kindAt j = .add) ∧
    ((∀ i < s.source.size, s.align.1.patchOf i = none) →
      s.rebuild s.align.1 = (List.range s.source.size).map s.source.textAt ++
        (s.patch.order.filter fun j => s.patch.kindAt j == .add &&
          !s.policy.isBlankLine (s.patch.textAt j)).map s.patch.textAt) := by
  obtain ⟨tags, hout, -, hnodup, hkind⟩ :=
    Sides.rebuild_merges _ _ (Sides.nodup_order_ofTexts p true source patch)
  exact ⟨⟨tags, hout, hnodup, hkind⟩, Sides.rebuild_of_unanchored _ _⟩

/-- An addition that no walk reaches is lost. Here the deletion of `q` finds no source line,
so the addition after it is not reached from the paired `x`, which stops at the deletion;
and as a line is paired there is no last pass that writes the additions left over. -/
theorem rebuild_loses_unreached_addition :
    let s := Sides.ofTexts .whitespace true "x" "  x\n-q\n+a"
    s.patch.kindAt 2 = .add ∧ s.patch.textAt 2 = "a" ∧ s.rebuild s.align.1 = ["x"] := by
  decide

end LinePatch
