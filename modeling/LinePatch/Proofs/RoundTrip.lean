import LinePatch.Apply
import LinePatch.Script
import LinePatch.Proofs.Reorder
import LinePatch.Proofs.EmptyPatch

/-!
# Patches that find no anchor

Applying a patch pairs its lines with the source lines and writes the new text around the
pairs. When no source line finds a partner, nothing is changed in place: the source is
written as it was, and the additions of the patch follow it. A generated patch can be of
that kind. Deleting one of two equal lines gives a lone deletion, which fits both of them
and so is paired with neither, and applying the generated patch gives the old text back
instead of the new one.
-/

namespace LinePatch

namespace Sides

variable (s : Sides) (a : Alignment)

theorem rebuildLine_of_free {i : Nat} (h : a.patchOf i = none) (st : Rebuild) :
    s.rebuildLine a st i = st.emit (s.source.textAt i) := by
  simp [rebuildLine, h]

theorem foldl_rebuildLine_of_free :
    ∀ (is : List Nat) (st : Rebuild), (∀ i ∈ is, a.patchOf i = none) →
      is.foldl (s.rebuildLine a) st = { st with out := st.out ++ (is.map s.source.textAt).toArray }
  | [], st, _ => by simp
  | i :: is, st, h => by
    rw [List.foldl_cons, rebuildLine_of_free s a (h i List.mem_cons_self),
      foldl_rebuildLine_of_free is _ fun j hj => h j (List.mem_cons_of_mem _ hj)]
    simp [Rebuild.emit]

theorem foldl_freshAdds :
    ∀ (js : List Nat) (st : Rebuild), (∀ j ∈ js, st.isUsed j = false) →
      js.foldl (fun st j => if s.isFreshAdd st j then st.emit (s.patch.textAt j) else st) st =
        { st with out := st.out ++
          ((js.filter fun j => s.patch.kindAt j == .add).map s.patch.textAt).toArray }
  | [], st, _ => by simp
  | j :: js, st, h => by
    have hrest : ∀ k ∈ js, st.isUsed k = false := fun k hk => h k (List.mem_cons_of_mem _ hk)
    have hfresh : s.isFreshAdd st j = (s.patch.kindAt j == .add) := by
      simp [isFreshAdd, h j List.mem_cons_self]
    rw [List.foldl_cons, hfresh]
    by_cases hadd : (s.patch.kindAt j == .add) = true
    · rw [if_pos hadd, foldl_freshAdds js _ (by simpa [Rebuild.emit, Rebuild.isUsed] using hrest)]
      simp [Rebuild.emit, hadd]
    · rw [if_neg hadd, foldl_freshAdds js st hrest]
      simp [hadd]

theorem rebuild_of_unanchored (h : ∀ i < s.source.size, a.patchOf i = none) :
    s.rebuild a = (List.range s.source.size).map s.source.textAt ++
      (s.patch.order.filter fun j => s.patch.kindAt j == .add &&
        !s.policy.isBlankLine (s.patch.textAt j)).map s.patch.textAt := by
  have hfree : ∀ i ∈ List.range s.source.size, a.patchOf i = none :=
    fun i hi => h i (List.mem_range.mp hi)
  have hused : ∀ (out : Array String) (j : Nat),
      Rebuild.isUsed { out := out, used := Array.replicate s.patch.size false } j = false := by
    intro out j
    simp [Rebuild.isUsed, Array.getElem?_replicate]
    split <;> rfl
  unfold rebuild
  rw [foldl_rebuildLine_of_free s a _ _ hfree]
  simp only [Bool.false_eq_true, if_false]
  rw [foldl_freshAdds s _ _ fun j _ => hused _ j, List.filter_filter]
  simp

end Sides

namespace Strand

theorem map_textAt_ofLines (ls : List Line) :
    (List.range (ofLines ls).size).map (ofLines ls).textAt = ls.map (·.text) := by
  have hline : (ofLines ls).line? = fun i => ls[i]? := lineIn_ofLines ls
  have hsize : (ofLines ls).size = ls.length := by simp [size, ofLines]
  apply List.ext_getElem (by simp [hsize])
  intro i h₁ h₂
  simp only [List.length_map, List.length_range] at h₁ h₂
  simp [textAt, hline, hsize ▸ h₁]

theorem map_textAt_filter (s : Strand) (q : LineKind → String → Bool) :
    ∀ js : List Nat, (∀ j ∈ js, (s.line? j).isSome) →
      (js.filter fun j => q (s.kindAt j) (s.textAt j)).map s.textAt =
        ((js.filterMap s.line?).filter fun l => q l.kind l.text).map (·.text)
  | [], _ => rfl
  | j :: js, h => by
    obtain ⟨l, hl⟩ := Option.isSome_iff_exists.mp (h j List.mem_cons_self)
    have hrest := map_textAt_filter s q js fun k hk => h k (List.mem_cons_of_mem _ hk)
    have hkind : s.kindAt j = l.kind := by simp [kindAt, hl]
    have htext : s.textAt j = l.text := by simp [textAt, hl]
    by_cases hq : q l.kind l.text = true
    · simp [hl, hkind, htext, hq, hrest]
    · simp [hl, hkind, htext, hq, hrest]

end Strand

theorem Patch.line?_read (p : Policy) (src : List Line) (text : String) :
    (Patch.read p src text).line? = fun i => (Patch.readLines p src text)[i]? := by
  have h := (Strand.reorder_settles (Strand.ofLines (Patch.readLines p src text))).1
  rw [Strand.lineIn_ofLines] at h
  unfold Patch.read
  funext i
  have hi := congrFun h i
  simp only [Strand.lineIn] at hi
  simp only [Strand.line?, hi]

theorem Patch.isSome_line?_read (p : Policy) (src : List Line) (text : String) :
    ∀ j ∈ (Patch.read p src text).order, ((Patch.read p src text).line? j).isSome := by
  intro j hj
  have hperm := Line.reorder_order_perm (Patch.readLines p src text)
  have hlt : j < (Patch.readLines p src text).length := by
    unfold Patch.read at hj
    exact List.mem_range.mp (hperm.subset hj)
  simp [Patch.line?_read, hlt]

theorem Sides.source_ofTexts (p : Policy) (fuzzy : Bool) (source patch : String) :
    (Sides.ofTexts p fuzzy source patch).source =
      Strand.ofLines (Line.ofText (Text.splitLines source)) := by
  simp only [Sides.ofTexts]

theorem Sides.policy_ofTexts (p : Policy) (fuzzy : Bool) (source patch : String) :
    (Sides.ofTexts p fuzzy source patch).policy = p := by
  simp only [Sides.ofTexts]

theorem Sides.patch_ofTexts (p : Policy) (fuzzy : Bool) (source patch : String) :
    (Sides.ofTexts p fuzzy source patch).patch =
      Patch.read p (Line.ofText (Text.splitLines source)) patch := by
  simp only [Sides.ofTexts]

theorem apply_of_unanchored (p : Policy) (source patch : String)
    (hmark : Text.hasEditMarkers patch = true)
    (h : ∀ i < (Text.splitLines source).length,
      (Sides.ofTexts p true source patch).align.1.patchOf i = none) :
    apply p source patch = Text.joinLines (Text.trimBlankLines (Text.splitLines source ++
      ((Sides.ofTexts p true source patch).patch.lines.filter fun l =>
        l.kind == .add && !p.isBlankLine l.text).map (·.text))) := by
  have hsize :
      (Sides.ofTexts p true source patch).source.size = (Text.splitLines source).length := by
    simp [Sides.source_ofTexts, Strand.size, Strand.ofLines, Line.ofText]
  have hfree : ∀ i < (Sides.ofTexts p true source patch).source.size,
      (Sides.ofTexts p true source patch).align.1.patchOf i = none := by
    rw [hsize]
    exact h
  have hsrc : (List.range (Sides.ofTexts p true source patch).source.size).map
      (Sides.ofTexts p true source patch).source.textAt = Text.splitLines source := by
    rw [Sides.source_ofTexts, Strand.map_textAt_ofLines]
    simp [Line.ofText, List.map_map, Function.comp_def]
  have hadds := Strand.map_textAt_filter (Sides.ofTexts p true source patch).patch
    (fun k t => k == .add && !p.isBlankLine t) (Sides.ofTexts p true source patch).patch.order
    (by rw [Sides.patch_ofTexts]; exact Patch.isSome_line?_read _ _ _)
  unfold apply
  rw [if_pos hmark]
  simp only
  rw [Sides.rebuild_of_unanchored _ _ hfree, hsrc, Sides.policy_ofTexts]
  rw [hadds, Strand.lines]

/-- Applying a generated patch does not always give the new text back: deleting one of two
equal lines gives a lone deletion that fits both, is paired with neither, and leaves the
old text as it was. -/
theorem apply_generate_keeps_repeated_line :
    generate .whitespace "a\na" "a" = "- a" ∧
      apply .whitespace "a\na" (generate .whitespace "a\na" "a") = "a\na" ∧
      (Text.trimBlankLines (Text.splitLines
          (apply .whitespace "a\na" (generate .whitespace "a\na" "a")))).map
          Policy.whitespace.normalize ≠
        (Text.trimBlankLines (Text.splitLines "a")).map Policy.whitespace.normalize := by
  have hgen : generate .whitespace "a\na" "a" = "- a" := by decide
  have happ : apply .whitespace "a\na" "- a" = "a\na" := by
    rw [apply_of_unanchored _ _ _ (by decide) (by decide)]
    decide
  refine ⟨hgen, by rw [hgen, happ], ?_⟩
  rw [hgen, happ]
  decide

end LinePatch
