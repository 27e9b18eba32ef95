import LinePatch.Apply
import Mathlib.Data.List.Nodup

/-!
# The linker pairs lines one to one

Every pass of the linker only joins a source line and a patch line that are both still
free, both real lines rather than placeholders, that match, and whose patch side is not
an addition. So from no pairs at all the passes build a partial one-to-one pairing whose
two views agree, never overwrite a pair, and count exactly the pairs they add.
-/

namespace LinePatch

namespace Alignment

/-- The number of paired patch slots. -/
def patchCount (a : Alignment) : Nat := (a.ofPatch.toList.filter Option.isSome).length

theorem patchOf_link (a : Alignment) {i : Nat} (j k : Nat) (hi : i < a.ofSource.size) :
    (a.link i j).patchOf k = if k = i then some j else a.patchOf k := by
  by_cases hk : k = i
  · subst hk
    simp [link, patchOf, hi]
  · simp [link, patchOf, Ne.symm hk, hk]

theorem sourceOf_link (a : Alignment) (i : Nat) {j : Nat} (l : Nat) (hj : j < a.ofPatch.size) :
    (a.link i j).sourceOf l = if l = j then some i else a.sourceOf l := by
  by_cases hl : l = j
  · subst hl
    simp [link, sourceOf, hj]
  · simp [link, sourceOf, Ne.symm hl, hl]

@[simp] theorem size_ofSource_link (a : Alignment) (i j : Nat) :
    (a.link i j).ofSource.size = a.ofSource.size := by
  simp [link]

@[simp] theorem size_ofPatch_link (a : Alignment) (i j : Nat) :
    (a.link i j).ofPatch.size = a.ofPatch.size := by
  simp [link]

private theorem length_filter_isSome_set {l : List (Option Nat)} {i : Nat} (x : Nat)
    (hi : i < l.length) (hnone : l[i] = none) :
    ((l.set i (some x)).filter Option.isSome).length = (l.filter Option.isSome).length + 1 := by
  simp only [← List.countP_eq_length_filter]
  rw [List.countP_set hi, hnone]
  simp

theorem count_link (a : Alignment) {i : Nat} (j : Nat) (hi : i < a.ofSource.size)
    (hfree : a.patchOf i = none) : (a.link i j).count = a.count + 1 := by
  have hi' : i < a.ofSource.toList.length := by simpa using hi
  have hnone : a.ofSource.toList[i] = none := by
    simpa [patchOf, hi] using hfree
  simp only [count, link, Array.toList_setIfInBounds]
  exact length_filter_isSome_set j hi' hnone

theorem patchCount_link (a : Alignment) (i : Nat) {j : Nat} (hj : j < a.ofPatch.size)
    (hfree : a.sourceOf j = none) : (a.link i j).patchCount = a.patchCount + 1 := by
  have hj' : j < a.ofPatch.toList.length := by simpa using hj
  have hnone : a.ofPatch.toList[j] = none := by
    simpa [sourceOf, hj] using hfree
  simp only [patchCount, link, Array.toList_setIfInBounds]
  exact length_filter_isSome_set i hj' hnone

@[simp] theorem patchOf_empty (n m i : Nat) : (empty n m).patchOf i = none := by
  simp [empty, patchOf, Array.getElem?_replicate]
  split <;> rfl

@[simp] theorem sourceOf_empty (n m j : Nat) : (empty n m).sourceOf j = none := by
  simp [empty, sourceOf, Array.getElem?_replicate]
  split <;> rfl

@[simp] theorem count_empty (n m : Nat) : (empty n m).count = 0 := by
  simp [empty, count]

@[simp] theorem patchCount_empty (n m : Nat) : (empty n m).patchCount = 0 := by
  simp [empty, patchCount]

end Alignment

section Grouping

variable (key : Nat → String)

private def groupStep (gs : List (String × List Nat)) (i : Nat) : List (String × List Nat) :=
  if gs.any (·.1 == key i) then gs.map fun g => if g.1 == key i then (g.1, g.2 ++ [i]) else g
  else gs ++ [(key i, [i])]

private def Grouped (done : List Nat) (gs : List (String × List Nat)) : Prop :=
  (∀ g ∈ gs, g.2 = done.filter (key · == g.1)) ∧ (gs.map (·.1)).Nodup ∧
    ∀ i ∈ done, key i ∈ gs.map (·.1)

private theorem grouped_step {done : List Nat} {gs : List (String × List Nat)} (i : Nat)
    (h : Grouped key done gs) : Grouped key (done ++ [i]) (groupStep key gs i) := by
  obtain ⟨hmem, hnd, hcov⟩ := h
  unfold groupStep
  split
  · next hany =>
    obtain ⟨g₀, hg₀, hk₀⟩ := List.any_eq_true.mp hany
    have hfst : (gs.map fun g => if g.1 == key i then (g.1, g.2 ++ [i]) else g).map (·.1) =
        gs.map (·.1) := by
      simp only [List.map_map]
      apply List.map_congr_left
      intro g _
      by_cases hk : g.1 = key i <;> simp [hk]
    refine ⟨?_, hfst ▸ hnd, ?_⟩
    · intro g hg
      obtain ⟨g', hg', rfl⟩ := List.mem_map.mp hg
      by_cases hk : g'.1 = key i
      · have hsel : (key i == g'.1) = true := by simp [hk]
        simp only [hk, beq_self_eq_true, if_true, List.filter_append]
        rw [← hk, ← hmem g' hg']
        simp [hk]
      · have hne : (key i == g'.1) = false := by simpa using Ne.symm hk
        have hsel : (g'.1 == key i) = false := by simpa using hk
        simp only [hsel, Bool.false_eq_true, if_false, List.filter_append, hmem g' hg']
        simp [hne]
    · intro x hx
      rw [hfst]
      rcases List.mem_append.mp hx with hx | hx
      · exact hcov x hx
      · simp only [List.mem_singleton] at hx
        subst hx
        exact List.mem_map.mpr ⟨g₀, hg₀, by simpa using hk₀⟩
  · next hany =>
    have hnew : key i ∉ gs.map (·.1) := by
      intro hin
      obtain ⟨g, hg, hgk⟩ := List.mem_map.mp hin
      exact hany (List.any_eq_true.mpr ⟨g, hg, by simp [hgk]⟩)
    have hnone : done.filter (key · == key i) = [] := by
      refine List.filter_eq_nil_iff.mpr fun x hx hkx => hnew ?_
      have : key x = key i := by simpa using hkx
      exact this ▸ hcov x hx
    refine ⟨?_, ?_, ?_⟩
    · intro g hg
      rcases List.mem_append.mp hg with hg | hg
      · have hne : key i ≠ g.1 := fun h => hnew (h ▸ List.mem_map_of_mem hg)
        simp [hmem g hg, List.filter_append, hne]
      · simp only [List.mem_singleton] at hg
        subst hg
        simp [List.filter_append, hnone]
    · simpa using hnd.concat hnew
    · intro x hx
      rcases List.mem_append.mp hx with hx | hx
      · exact List.mem_map.mpr (by
          obtain ⟨g, hg, hgk⟩ := List.mem_map.mp (hcov x hx)
          exact ⟨g, List.mem_append_left _ hg, hgk⟩)
      · simp only [List.mem_singleton] at hx
        subst hx
        simp

private theorem grouped_foldl (l done : List Nat) (gs : List (String × List Nat))
    (h : Grouped key done gs) : Grouped key (done ++ l) (l.foldl (groupStep key) gs) := by
  induction l generalizing done gs with
  | nil => simpa using h
  | cons i l ih =>
    simpa using ih (done ++ [i]) (groupStep key gs i) (grouped_step key i h)

private theorem grouped_groupBy (l : List Nat) : Grouped key l (groupBy key l) := by
  have h := grouped_foldl key l [] [] ⟨by simp, by simp, by simp⟩
  rw [List.nil_append] at h
  exact h

theorem groupBy_members (l : List Nat) {g : String × List Nat} (hg : g ∈ groupBy key l) :
    g.2 = l.filter (key · == g.1) :=
  (grouped_groupBy key l).1 g hg

theorem groupBy_keys_nodup (l : List Nat) : ((groupBy key l).map (·.1)).Nodup :=
  (grouped_groupBy key l).2.1

theorem lookupGroup_groupBy {l : List Nat} {k : String} {ps : List Nat}
    (h : lookupGroup (groupBy key l) k = some ps) : ps = l.filter (key · == k) := by
  obtain ⟨g, hg, rfl⟩ := Option.map_eq_some_iff.mp h
  have hk : g.1 = k := by simpa using List.find?_some hg
  rw [groupBy_members key l (List.mem_of_find?_eq_some hg), hk]

theorem groupBy_cover {l : List Nat} {i : Nat} (hi : i ∈ l) :
    ∃ g ∈ groupBy key l, g.1 = key i ∧ i ∈ g.2 := by
  obtain ⟨g, hg, hk⟩ := List.mem_map.mp ((grouped_groupBy key l).2.2 i hi)
  refine ⟨g, hg, hk, ?_⟩
  rw [groupBy_members key l hg]
  simp [hi, hk]

theorem lookupGroup_of_mem {l : List Nat} {g : String × List Nat} (hg : g ∈ groupBy key l) :
    lookupGroup (groupBy key l) g.1 = some g.2 := by
  have hsome : ((groupBy key l).find? fun x => x.1 == g.1).isSome :=
    List.find?_isSome.mpr ⟨g, hg, by simp⟩
  obtain ⟨g', hfind⟩ := Option.isSome_iff_exists.mp hsome
  have hk : g'.1 = g.1 := by simpa using List.find?_some hfind
  have hsame : g' = g :=
    List.inj_on_of_nodup_map (groupBy_keys_nodup key l) (List.mem_of_find?_eq_some hfind) hg hk
  simp only [lookupGroup, hfind, hsame, Option.map_some]

theorem groupBy_congr {key' : Nat → String} {l : List Nat} (h : ∀ i ∈ l, key i = key' i) :
    groupBy key l = groupBy key' l := by
  unfold groupBy
  apply List.foldl_ext
  intro gs i hi
  simp only
  rw [h i hi]

end Grouping

theorem Strand.lt_size_of_linkable {t : Strand} {i : Nat} (h : t.linkable i = true) :
    i < t.size := by
  by_contra hge
  have hnone : t.entries[i]? = none := Array.getElem?_eq_none (Nat.le_of_not_lt hge)
  simp [Strand.linkable, Strand.line?, hnone] at h

namespace Sides

def Admits (s : Sides) (i j : Nat) : Prop :=
  s.source.linkable i = true ∧ s.patch.linkable j = true ∧ s.patch.kindAt j ≠ .add ∧
    isMatch s.policy s.fuzzy (s.source.textAt i) (s.patch.textAt j) = true

def Joinable (s : Sides) (a : Alignment) (i j : Nat) : Prop :=
  a.patchOf i = none ∧ a.sourceOf j = none ∧ s.Admits i j

/-- What every pass keeps of an alignment: it is sized for the two strands, its two views
name the same pairs, and every pair is one a pass may join. -/
structure Sound (s : Sides) (a : Alignment) : Prop where
  size_source : a.ofSource.size = s.source.size
  size_patch : a.ofPatch.size = s.patch.size
  symm : ∀ i j, a.patchOf i = some j ↔ a.sourceOf j = some i
  admits : ∀ i j, a.patchOf i = some j → s.Admits i j

/-- `a'` is sound, keeps every pair of `a`, and has exactly `k` pairs more, counted from
either side. -/
structure Extends (s : Sides) (a a' : Alignment) (k : Nat) : Prop where
  sound : s.Sound a'
  keeps : ∀ i j, a.patchOf i = some j → a'.patchOf i = some j
  count : a'.count = a.count + k
  patchCount : a'.patchCount = a.patchCount + k

variable {s : Sides} {a a' a'' : Alignment}

theorem Extends.refl (h : s.Sound a) : s.Extends a a 0 :=
  ⟨h, fun _ _ hij => hij, rfl, rfl⟩

theorem Extends.trans {k k' : Nat} (h₁ : s.Extends a a' k) (h₂ : s.Extends a' a'' k') :
    s.Extends a a'' (k + k') :=
  ⟨h₂.sound, fun i j hij => h₂.keeps i j (h₁.keeps i j hij),
    by rw [h₂.count, h₁.count, Nat.add_assoc],
    by rw [h₂.patchCount, h₁.patchCount, Nat.add_assoc]⟩

@[simp] theorem linkAll_nil (a : Alignment) : linkAll a [] = a := rfl

theorem sound_empty (s : Sides) : s.Sound (Alignment.empty s.source.size s.patch.size) :=
  ⟨by simp [Alignment.empty], by simp [Alignment.empty], by simp, by simp⟩

theorem sourceEligible_iff {i : Nat} :
    s.sourceEligible a i = true ↔ a.patchOf i = none ∧ s.source.linkable i = true := by
  simp [sourceEligible, Alignment.sourceFree]

theorem patchEligible_iff {j : Nat} :
    s.patchEligible a j = true ↔ a.sourceOf j = none ∧ s.patch.linkable j = true := by
  simp [patchEligible, Alignment.patchFree]

theorem Sound.link {i j : Nat} (h : s.Sound a) (hj : s.Joinable a i j) :
    s.Extends a (a.link i j) 1 := by
  obtain ⟨hfi, hfj, hadm⟩ := hj
  have hi : i < a.ofSource.size := h.size_source ▸ Strand.lt_size_of_linkable hadm.1
  have hj : j < a.ofPatch.size := h.size_patch ▸ Strand.lt_size_of_linkable hadm.2.1
  refine ⟨⟨by simp [h.size_source], by simp [h.size_patch], ?_, ?_⟩, ?_,
    Alignment.count_link a j hi hfi, Alignment.patchCount_link a i hj hfj⟩
  · intro k l
    rw [Alignment.patchOf_link a j k hi, Alignment.sourceOf_link a i l hj]
    by_cases hk : k = i <;> by_cases hl : l = j
    · simp [hk, hl]
    · have hsym := h.symm i l
      simp only [hk, hl, if_true, if_false, Option.some.injEq, hfi, reduceCtorEq, false_iff] at hsym ⊢
      exact ⟨fun e => absurd e.symm hl, fun e => absurd e hsym⟩
    · have hsym := h.symm k j
      simp only [hk, hl, if_true, if_false, Option.some.injEq, hfj, reduceCtorEq, iff_false] at hsym ⊢
      exact ⟨fun e => absurd e hsym, fun e => absurd e.symm hk⟩
    · simp only [hk, hl, if_false]
      exact h.symm k l
  · intro k l hkl
    rw [Alignment.patchOf_link a j k hi] at hkl
    split at hkl
    · next hk =>
      subst hk
      cases hkl
      exact hadm
    · exact h.admits k l hkl
  · intro k l hkl
    rw [Alignment.patchOf_link a j k hi]
    have hk : k ≠ i := by
      rintro rfl
      simp [hfi] at hkl
    simp [hk, hkl]

theorem Sound.patchOf_link_of_ne {i i' : Nat} (h : s.Sound a) (j : Nat)
    (hi : s.source.linkable i = true) (hne : i' ≠ i) :
    (a.link i j).patchOf i' = a.patchOf i' := by
  rw [Alignment.patchOf_link a j i' (h.size_source ▸ Strand.lt_size_of_linkable hi)]
  simp [hne]

theorem Sound.sourceOf_link_of_ne {j j' : Nat} (h : s.Sound a) (i : Nat)
    (hj : s.patch.linkable j = true) (hne : j' ≠ j) :
    (a.link i j).sourceOf j' = a.sourceOf j' := by
  rw [Alignment.sourceOf_link a i j' (h.size_patch ▸ Strand.lt_size_of_linkable hj)]
  simp [hne]

theorem Sound.linkAll (h : s.Sound a) (P : List (Nat × Nat))
    (hfst : (P.map Prod.fst).Nodup) (hsnd : (P.map Prod.snd).Nodup)
    (hP : ∀ p ∈ P, s.Joinable a p.1 p.2) : s.Extends a (linkAll a P) P.length := by
  induction P generalizing a with
  | nil => exact Extends.refl h
  | cons p P ih =>
    obtain ⟨i, j⟩ := p
    simp only [List.map_cons, List.nodup_cons, List.mem_map] at hfst hsnd
    have hij := hP (i, j) List.mem_cons_self
    have h₁ := h.link hij
    have hrest : ∀ q ∈ P, s.Joinable (a.link i j) q.1 q.2 := by
      intro q hq
      obtain ⟨hq₁, hq₂, hadm⟩ := hP q (List.mem_cons_of_mem _ hq)
      have hne₁ : q.1 ≠ i := fun e => hfst.1 ⟨q, hq, e⟩
      have hne₂ : q.2 ≠ j := fun e => hsnd.1 ⟨q, hq, e⟩
      exact ⟨(h.patchOf_link_of_ne j hij.2.2.1 hne₁).trans hq₁,
        (h.sourceOf_link_of_ne i hij.2.2.2.1 hne₂).trans hq₂, hadm⟩
    have h₂ := ih h₁.sound hfst.2 hsnd.2 hrest
    have := h₁.trans h₂
    simpa [Sides.linkAll, Nat.add_comm] using this

theorem Sound.patchOf_linkAll (h : s.Sound a) (P : List (Nat × Nat))
    (hfst : (P.map Prod.fst).Nodup) (hsnd : (P.map Prod.snd).Nodup)
    (hP : ∀ p ∈ P, s.Joinable a p.1 p.2) :
    ∀ p ∈ P, (Sides.linkAll a P).patchOf p.1 = some p.2 := by
  induction P generalizing a with
  | nil => simp
  | cons p P ih =>
    obtain ⟨i, j⟩ := p
    simp only [List.map_cons, List.nodup_cons, List.mem_map] at hfst hsnd
    have hij := hP (i, j) List.mem_cons_self
    have h₁ := h.link hij
    have hrest : ∀ q ∈ P, s.Joinable (a.link i j) q.1 q.2 := by
      intro q hq
      obtain ⟨hq₁, hq₂, hadm⟩ := hP q (List.mem_cons_of_mem _ hq)
      have hne₁ : q.1 ≠ i := fun e => hfst.1 ⟨q, hq, e⟩
      have hne₂ : q.2 ≠ j := fun e => hsnd.1 ⟨q, hq, e⟩
      exact ⟨(h.patchOf_link_of_ne j hij.2.2.1 hne₁).trans hq₁,
        (h.sourceOf_link_of_ne i hij.2.2.2.1 hne₂).trans hq₂, hadm⟩
    have hlinked : (a.link i j).patchOf i = some j := by
      rw [Alignment.patchOf_link a j i
        (h.size_source ▸ Strand.lt_size_of_linkable hij.2.2.1)]
      simp
    intro q hq
    rcases List.mem_cons.mp hq with rfl | hq
    · exact (h₁.sound.linkAll P hfst.2 hsnd.2 hrest).keeps _ _ hlinked
    · exact ih h₁.sound hfst.2 hsnd.2 hrest q hq

theorem isMatch_of_normalize_eq {p : Policy} {fuzzy : Bool} {x y : String}
    (h : p.normalize x = p.normalize y) : isMatch p fuzzy x y = true := by
  simp [isMatch, h]

theorem isMatch_exact_iff {p : Policy} {x y : String} :
    isMatch p false x y = true ↔ p.normalize x = p.normalize y := by
  by_cases h : p.normalize x = p.normalize y <;> simp [isMatch, h]

private theorem map_fst_zip_sublist {α β : Type} (l₁ : List α) (l₂ : List β) :
    ((l₁.zip l₂).map Prod.fst).Sublist l₁ := by
  induction l₁ generalizing l₂ with
  | nil => simp
  | cons x l₁ ih =>
    cases l₂ with
    | nil => simp
    | cons y l₂ => simpa using (ih l₂).cons_cons x

private theorem map_snd_zip_sublist {α β : Type} (l₁ : List α) (l₂ : List β) :
    ((l₁.zip l₂).map Prod.snd).Sublist l₂ := by
  induction l₁ generalizing l₂ with
  | nil => simp
  | cons x l₁ ih =>
    cases l₂ with
    | nil => simp
    | cons y l₂ => simpa using (ih l₂).cons_cons y

private theorem nodup_flatMap_keyed (key : Nat → String) (gs : List (String × List Nat))
    (h : String × List Nat → List Nat) (hk : (gs.map (·.1)).Nodup)
    (hkey : ∀ g ∈ gs, ∀ x ∈ h g, key x = g.1) (hnd : ∀ g ∈ gs, (h g).Nodup) :
    (gs.flatMap h).Nodup := by
  refine List.nodup_flatMap.mpr ⟨hnd, ?_⟩
  have hne : gs.Pairwise fun g g' => g.1 ≠ g'.1 := List.pairwise_map.mp hk
  refine List.Pairwise.imp_of_mem ?_ hne
  intro g g' hg hg' hgg' x hx hx'
  exact hgg' ((hkey g hg x hx).symm.trans (hkey g' hg' x hx'))

private theorem groupedPairs_joinable (sg : List (String × List Nat))
    (f : String × List Nat → List (Nat × Nat)) (hk : (sg.map (·.1)).Nodup)
    (hsrc : ∀ g ∈ sg, g.2.Nodup ∧ ∀ i ∈ g.2, s.sourceKey i = g.1 ∧ s.sourceEligible a i = true)
    (hfst : ∀ g ∈ sg, ((f g).map Prod.fst).Sublist g.2)
    (hsnd : ∀ g ∈ sg, ∃ ps : List Nat, ((f g).map Prod.snd).Sublist ps ∧ ps.Nodup ∧
      ∀ j ∈ ps, s.patchKey j = g.1 ∧ s.patchEligible a j = true ∧ s.patch.kindAt j ≠ .add) :
    ((sg.flatMap f).map Prod.fst).Nodup ∧ ((sg.flatMap f).map Prod.snd).Nodup ∧
      ∀ p ∈ sg.flatMap f, s.Joinable a p.1 p.2 := by
  refine ⟨?_, ?_, ?_⟩
  · rw [List.map_flatMap]
    refine nodup_flatMap_keyed s.sourceKey sg _ hk ?_ ?_
    · intro g hg x hx
      exact ((hsrc g hg).2 x ((hfst g hg).subset hx)).1
    · intro g hg
      exact (hsrc g hg).1.sublist (hfst g hg)
  · rw [List.map_flatMap]
    refine nodup_flatMap_keyed s.patchKey sg _ hk ?_ ?_
    · intro g hg x hx
      obtain ⟨ps, hsub, -, hps⟩ := hsnd g hg
      exact (hps x (hsub.subset hx)).1
    · intro g hg
      obtain ⟨ps, hsub, hnd, -⟩ := hsnd g hg
      exact hnd.sublist hsub
  · intro p hp
    obtain ⟨g, hg, hpg⟩ := List.mem_flatMap.mp hp
    obtain ⟨ps, hsub, -, hps⟩ := hsnd g hg
    obtain ⟨hki, hei⟩ := (hsrc g hg).2 p.1 ((hfst g hg).subset (List.mem_map_of_mem hpg))
    obtain ⟨hkj, hej, hadd⟩ := hps p.2 (hsub.subset (List.mem_map_of_mem hpg))
    obtain ⟨hfi, hli⟩ := sourceEligible_iff.mp hei
    obtain ⟨hfj, hlj⟩ := patchEligible_iff.mp hej
    exact ⟨hfi, hfj, hli, hlj, hadd, isMatch_of_normalize_eq (hki.trans hkj.symm)⟩

private theorem foldl_linkAll (f : String × List Nat → List (Nat × Nat))
    (gs : List (String × List Nat)) (a : Alignment) (n : Nat) :
    gs.foldl (fun (acc : Alignment × Nat) g => (linkAll acc.1 (f g), acc.2 + (f g).length))
      (a, n) = (linkAll a (gs.flatMap f), n + (gs.flatMap f).length) := by
  induction gs generalizing a n with
  | nil => rfl
  | cons g gs ih =>
    rw [List.foldl_cons, ih]
    simp [linkAll, List.foldl_append, Nat.add_assoc]

private theorem sourceGroups_spec (src : List Nat) (hsrc : src.Nodup) (keep : Nat → Bool)
    (hkeep : ∀ i, keep i = true → s.sourceEligible a i = true) :
    ∀ g ∈ groupBy s.sourceKey (src.filter keep),
      g.2.Nodup ∧ ∀ i ∈ g.2, s.sourceKey i = g.1 ∧ s.sourceEligible a i = true := by
  intro g hg
  rw [groupBy_members s.sourceKey _ hg]
  refine ⟨(hsrc.filter _).filter _, fun i hi => ?_⟩
  simp only [List.mem_filter, beq_iff_eq] at hi
  exact ⟨hi.2, hkeep i hi.1.2⟩

private theorem patchGroup_spec (pat : List Nat) (hpat : pat.Nodup) (keep : Nat → Bool)
    (hkeep : ∀ j, keep j = true → s.patchEligible a j = true ∧ s.patch.kindAt j ≠ .add)
    {k : String} {ps : List Nat}
    (hps : lookupGroup (groupBy s.patchKey (pat.filter keep)) k = some ps) :
    ps.Nodup ∧ ∀ j ∈ ps, s.patchKey j = k ∧ s.patchEligible a j = true ∧ s.patch.kindAt j ≠ .add := by
  rw [lookupGroup_groupBy s.patchKey hps]
  refine ⟨(hpat.filter _).filter _, fun j hj => ?_⟩
  simp only [List.mem_filter, beq_iff_eq] at hj
  exact ⟨hj.2, hkeep j hj.1.2⟩

private def uniqueZip (pg : List (String × List Nat)) (g : String × List Nat) :
    List (Nat × Nat) :=
  match lookupGroup pg g.1 with
  | some ps => if ps.length = g.2.length then g.2.zip ps else []
  | none => []

private def uniquePairs (s : Sides) (a : Alignment) (src pat : List Nat) : List (Nat × Nat) :=
  (groupBy s.sourceKey (src.filter (s.sourceEligible a))).flatMap (uniqueZip
    (groupBy s.patchKey (pat.filter fun j => s.patchEligible a j && s.patch.kindAt j != .add)))

private theorem linkUnique_eq (s : Sides) (a : Alignment) (src pat : List Nat) :
    s.linkUnique a src pat = (linkAll a (uniquePairs s a src pat), (uniquePairs s a src pat).length) := by
  have hfold := foldl_linkAll (uniqueZip (groupBy s.patchKey
    (pat.filter fun j => s.patchEligible a j && s.patch.kindAt j != .add)))
    (groupBy s.sourceKey (src.filter (s.sourceEligible a))) a 0
  rw [Nat.zero_add] at hfold
  rw [uniquePairs, ← hfold, linkUnique]
  apply List.foldl_ext
  rintro ⟨acc, n⟩ ⟨k, ss⟩ _
  simp only [uniqueZip]
  rcases lookupGroup (groupBy s.patchKey
      (pat.filter fun j => s.patchEligible a j && s.patch.kindAt j != .add)) k with _ | ps
  · rfl
  · dsimp only
    by_cases hlen : ps.length = ss.length
    · rw [if_pos hlen, if_pos hlen, List.length_zip, hlen, Nat.min_self]
    · rw [if_neg hlen, if_neg hlen, List.length_nil, Nat.add_zero, linkAll_nil]

private theorem uniquePairs_joinable {src pat : List Nat} (hsrc : src.Nodup)
    (hpat : pat.Nodup) :
    ((uniquePairs s a src pat).map Prod.fst).Nodup ∧
      ((uniquePairs s a src pat).map Prod.snd).Nodup ∧
      ∀ p ∈ uniquePairs s a src pat, s.Joinable a p.1 p.2 := by
  let keepP := fun j => s.patchEligible a j && s.patch.kindAt j != .add
  have hkeepP : ∀ j, keepP j = true → s.patchEligible a j = true ∧ s.patch.kindAt j ≠ .add := by
    intro j hj
    simpa [keepP] using hj
  exact groupedPairs_joinable _ (uniqueZip (groupBy s.patchKey (pat.filter keepP)))
    (groupBy_keys_nodup _ _) (sourceGroups_spec src hsrc (s.sourceEligible a) fun _ hi => hi)
    (by
      intro g _
      unfold uniqueZip
      split
      · split
        · next hlen => rw [List.map_fst_zip (by omega)]
        · simp
      · simp)
    (by
      intro g _
      unfold uniqueZip
      split
      · next ps hps =>
        obtain ⟨hnd, hps⟩ := patchGroup_spec pat hpat keepP hkeepP hps
        refine ⟨ps, ?_, hnd, hps⟩
        split
        · exact map_snd_zip_sublist _ _
        · simp
      · exact ⟨[], by simp, by simp, by simp⟩)

theorem linkUnique_extends (h : s.Sound a) {src pat : List Nat} (hsrc : src.Nodup)
    (hpat : pat.Nodup) : s.Extends a (s.linkUnique a src pat).1 (s.linkUnique a src pat).2 := by
  obtain ⟨hfst, hsnd, hP⟩ := uniquePairs_joinable (s := s) (a := a) hsrc hpat
  rw [linkUnique_eq]
  exact h.linkAll _ hfst hsnd hP

theorem linkUnique_links_group (h : s.Sound a) {src pat : List Nat} (hsrc : src.Nodup)
    (hpat : pat.Nodup) {g : String × List Nat}
    (hg : g ∈ groupBy s.sourceKey (src.filter (s.sourceEligible a))) {ps : List Nat}
    (hps : lookupGroup (groupBy s.patchKey
      (pat.filter fun j => s.patchEligible a j && s.patch.kindAt j != .add)) g.1 = some ps)
    (hlen : ps.length = g.2.length) :
    ∀ p ∈ g.2.zip ps, (s.linkUnique a src pat).1.patchOf p.1 = some p.2 := by
  obtain ⟨hfst, hsnd, hP⟩ := uniquePairs_joinable (s := s) (a := a) hsrc hpat
  intro p hp
  rw [linkUnique_eq]
  refine h.patchOf_linkAll _ hfst hsnd hP p (List.mem_flatMap.mpr ⟨g, hg, ?_⟩)
  simpa [uniqueZip, hps, hlen] using hp

private def bracketZip (pg : List (String × List Nat)) (g : String × List Nat) :
    List (Nat × Nat) :=
  g.2.zip ((lookupGroup pg g.1).getD [])

theorem linkBrackets_extends (h : s.Sound a) {src pat : List Nat} (hsrc : src.Nodup)
    (hpat : pat.Nodup) :
    s.Extends a (s.linkBrackets a src pat).1 (s.linkBrackets a src pat).2 := by
  let keepS := fun i => s.sourceEligible a i && Depth.opens (s.source.textAt i)
  let keepP := fun j => s.patch.kindAt j != .add && Depth.opens (s.patch.textAt j) &&
    s.patchEligible a j
  let sg := groupBy s.sourceKey (src.filter keepS)
  let pg := groupBy s.patchKey (pat.filter keepP)
  have heq : s.linkBrackets a src pat = (linkAll a (sg.flatMap (bracketZip pg)),
      (sg.flatMap (bracketZip pg)).length) := by
    have hfold := foldl_linkAll (bracketZip pg) sg a 0
    rw [Nat.zero_add] at hfold
    rw [← hfold]
    rfl
  have hkeepP : ∀ j, keepP j = true → s.patchEligible a j = true ∧ s.patch.kindAt j ≠ .add := by
    intro j hj
    simp only [keepP, Bool.and_eq_true, bne_iff_ne] at hj
    exact ⟨hj.2, hj.1.1⟩
  obtain ⟨hfst, hsnd, hP⟩ := groupedPairs_joinable sg (bracketZip pg)
    (groupBy_keys_nodup _ _)
    (sourceGroups_spec src hsrc keepS fun _ hi => by
      simp only [keepS, Bool.and_eq_true] at hi
      exact hi.1)
    (fun g _ => map_fst_zip_sublist _ _)
    (by
      intro g _
      unfold bracketZip
      cases hps : lookupGroup pg g.1 with
      | none => exact ⟨[], by simp, by simp, by simp⟩
      | some ps =>
        obtain ⟨hnd, hps⟩ := patchGroup_spec pat hpat keepP hkeepP hps
        exact ⟨ps, map_snd_zip_sublist _ _, hnd, hps⟩)
  rw [heq]
  exact h.linkAll _ hfst hsnd hP

theorem walk_stops_unskipped {step : Nat → Option Nat} {skip : Nat → Bool} {fuel : Nat}
    {start : Option Nat} {j : Nat} (h : Strand.walk step skip fuel start = some j) :
    skip j = false := by
  induction fuel generalizing start with
  | zero => simp [Strand.walk] at h
  | succ fuel ih =>
    cases start with
    | none => simp [Strand.walk] at h
    | some i =>
      simp only [Strand.walk] at h
      split at h
      · exact ih h
      · next hskip =>
        cases h
        simpa using hskip

theorem kindAt_ne_add_of_walk {step : Nat → Option Nat} {fuel : Nat} {start : Option Nat}
    {j : Nat} (h : Strand.walk step s.skipPatch fuel start = some j) :
    s.patch.kindAt j ≠ .add := by
  have hskip := walk_stops_unskipped h
  simp only [skipPatch, Bool.or_eq_false_iff, beq_eq_false_iff_ne] at hskip
  exact hskip.1

theorem kindAt_ne_add_of_walkBack {start : Option Nat} {j : Nat}
    (h : s.patch.walkBack s.skipPatch start = some j) : s.patch.kindAt j ≠ .add := by
  unfold Strand.walkBack at h
  exact kindAt_ne_add_of_walk h

theorem kindAt_ne_add_of_walkOn {start : Option Nat} {j : Nat}
    (h : s.patch.walkOn s.skipPatch start = some j) : s.patch.kindAt j ≠ .add := by
  unfold Strand.walkOn at h
  exact kindAt_ne_add_of_walk h

theorem tryCount_extends (h : s.Sound a) (io jo : Option Nat)
    (hadd : ∀ j, jo = some j → s.patch.kindAt j ≠ .add) :
    s.Extends a (s.tryCount a io jo).1 (s.tryCount a io jo).2 := by
  match io, jo with
  | some i, some j =>
    by_cases hc : (s.sourceEligible a i && s.patchEligible a j &&
        isMatch s.policy s.fuzzy (s.source.textAt i) (s.patch.textAt j)) = true
    · have heq : s.tryCount a (some i) (some j) = (a.link i j, 1) := by
        simp [tryCount, tryLink, hc]
      simp only [Bool.and_eq_true] at hc
      obtain ⟨⟨hi, hj⟩, hm⟩ := hc
      obtain ⟨hfi, hli⟩ := sourceEligible_iff.mp hi
      obtain ⟨hfj, hlj⟩ := patchEligible_iff.mp hj
      rw [heq]
      exact h.link ⟨hfi, hfj, hli, hlj, hadd j rfl, hm⟩
    · have heq : s.tryCount a (some i) (some j) = (a, 0) := by
        simp [tryCount, tryLink, hc]
      rw [heq]
      exact Extends.refl h
  | none, _ => exact Extends.refl h
  | some _, none => exact Extends.refl h

private theorem foldl_extends {β : Type} (f : Alignment × Nat → β → Alignment × Nat)
    (l : List β) {a₀ : Alignment} {acc : Alignment × Nat}
    (hstep : ∀ acc b, s.Extends a₀ acc.1 acc.2 → s.Extends a₀ (f acc b).1 (f acc b).2)
    (h : s.Extends a₀ acc.1 acc.2) : s.Extends a₀ (l.foldl f acc).1 (l.foldl f acc).2 := by
  induction l generalizing acc with
  | nil => exact h
  | cons b l ih => exact ih (hstep acc b h)

theorem adjacentSweep_extends (h : s.Sound a) (src : List Nat) :
    s.Extends a (s.adjacentSweep a src).1 (s.adjacentSweep a src).2 := by
  refine foldl_extends _ src ?_ (Extends.refl h)
  rintro ⟨a', n⟩ i hext
  dsimp only
  split
  · exact hext
  · next _ j _ =>
    have h₁ := tryCount_extends hext.sound
      (s.source.walkBack s.skipSource (s.source.before i))
      (s.patch.walkBack s.skipPatch (s.patch.before j)) fun _ hj => kindAt_ne_add_of_walkBack hj
    have h₂ := tryCount_extends h₁.sound
      (s.source.walkOn s.skipSource (s.source.after i))
      (s.patch.walkOn s.skipPatch (s.patch.after j)) fun _ hj => kindAt_ne_add_of_walkOn hj
    simpa [Nat.add_assoc] using (hext.trans h₁).trans h₂

theorem adjacentRepeat_extends (src : List Nat) (fuel : Nat) (h : s.Sound a) :
    s.Extends a (s.adjacentRepeat src fuel a).1 (s.adjacentRepeat src fuel a).2 := by
  induction fuel generalizing a with
  | zero => exact Extends.refl h
  | succ fuel ih =>
    have h₁ := adjacentSweep_extends h src
    rcases hsw : s.adjacentSweep a src with ⟨a', n⟩
    rw [hsw] at h₁
    simp only [adjacentRepeat, hsw]
    split
    · next hn => simpa [hn] using h₁
    · exact h₁.trans (ih h₁.sound)

theorem linkAdjacent_extends (h : s.Sound a) (src : List Nat) :
    s.Extends a (s.linkAdjacent a src).1 (s.linkAdjacent a src).2 :=
  adjacentRepeat_extends src _ h

theorem remainingRound_extends (h : s.Sound a) {src pat : List Nat} (hsrc : src.Nodup)
    (hpat : pat.Nodup) :
    s.Extends a (s.remainingRound a src pat).1 (s.remainingRound a src pat).2 := by
  have h₁ := linkUnique_extends h hsrc hpat
  rcases hu : s.linkUnique a src pat with ⟨a₁, n₁⟩
  rw [hu] at h₁
  have h₂ := linkAdjacent_extends h₁.sound src
  rcases hadj : s.linkAdjacent a₁ src with ⟨a₂, n₂⟩
  rw [hadj] at h₂
  simp only [remainingRound, hu, hadj]
  split
  · next hz =>
    have hz : n₁ + n₂ = 0 := by
      simp only [Bool.and_eq_true, decide_eq_true_eq] at hz
      exact hz.1
    have h₃ := linkBrackets_extends h₂.sound hsrc hpat
    simpa [hz] using (h₁.trans h₂).trans h₃
  · exact h₁.trans h₂

theorem remainingRounds_extends (rounds : Nat) (h : s.Sound a) {src pat : List Nat}
    (hsrc : src.Nodup) (hpat : pat.Nodup) :
    s.Extends a (s.remainingRounds rounds a src pat).1
      (s.remainingRounds rounds a src pat).2 := by
  induction rounds generalizing a src pat with
  | zero => exact Extends.refl h
  | succ rounds ih =>
    have hsrc' := hsrc.filter a.sourceFree
    have hpat' := hpat.filter a.patchFree
    simp only [remainingRounds]
    split
    · exact Extends.refl h
    · have h₁ := remainingRound_extends h hsrc' hpat'
      rcases hr : s.remainingRound a (src.filter a.sourceFree) (pat.filter a.patchFree) with
        ⟨a', n⟩
      rw [hr] at h₁
      simp only
      split
      · next hn => simpa [hn] using h₁
      · exact h₁.trans (ih h₁.sound hsrc' hpat')

theorem align_stages (s : Sides) (hpat : s.patch.order.Nodup) :
    ∃ k, s.Extends (s.linkUnique (Alignment.empty s.source.size s.patch.size)
      (List.range s.source.size) s.patch.order).1 s.align.1 k ∧
      s.align.2 = (s.linkUnique (Alignment.empty s.source.size s.patch.size)
        (List.range s.source.size) s.patch.order).2 + k := by
  have hsrc := List.nodup_range (n := s.source.size)
  have h₁ := linkUnique_extends (sound_empty s) hsrc hpat
  rcases hu : s.linkUnique (Alignment.empty s.source.size s.patch.size)
    (List.range s.source.size) s.patch.order with ⟨a₁, n₁⟩
  rw [hu] at h₁
  have h₂ := linkAdjacent_extends h₁.sound (List.range s.source.size)
  rcases hadj : s.linkAdjacent a₁ (List.range s.source.size) with ⟨a₂, n₂⟩
  rw [hadj] at h₂
  have h₃ := remainingRounds_extends (maxRounds + 1) h₂.sound hsrc hpat
  rcases hrem : s.remainingRounds (maxRounds + 1) a₂ (List.range s.source.size)
    s.patch.order with ⟨a₃, n₃⟩
  rw [hrem] at h₃
  simp only [align, hu, hadj, hrem]
  exact ⟨_, h₂.trans h₃, by omega⟩

theorem align_extends (s : Sides) (hpat : s.patch.order.Nodup) :
    s.Extends (Alignment.empty s.source.size s.patch.size) s.align.1 s.align.2 := by
  have h₁ := linkUnique_extends (sound_empty s) (List.nodup_range (n := s.source.size)) hpat
  obtain ⟨k, h₂, hcount⟩ := align_stages s hpat
  rw [hcount]
  exact h₁.trans h₂

/-- The linker's invariant. From no pairs at all, the passes build a sound alignment: its
two views name the same pairs, and each pair joins two real lines (no placeholder), a
patch line that is not an addition, and lines that match, which without fuzzy matching
means equal normal forms. The count it returns is the number of paired lines on either
side, so no pass ever overwrites a pair. -/
theorem align_one_to_one (s : Sides) (hpat : s.patch.order.Nodup) :
    s.Sound s.align.1 ∧ s.align.2 = s.align.1.count ∧ s.align.2 = s.align.1.patchCount ∧
      (s.fuzzy = false → ∀ i j, s.align.1.patchOf i = some j → s.sourceKey i = s.patchKey j) := by
  have h := align_extends s hpat
  refine ⟨h.sound, by simp [h.count], by simp [h.patchCount], ?_⟩
  intro hfuzzy i j hij
  have hm := (h.sound.admits i j hij).2.2.2
  rw [hfuzzy] at hm
  exact isMatch_exact_iff.mp hm

theorem align_one_to_one_example :
    let s := Sides.ofTexts .whitespace true "a\nb\nc" "  a\n- b\n+ B\n  c"
    s.patch.order.Nodup ∧ (s.Sound s.align.1 ∧ s.align.2 = s.align.1.count ∧
      s.align.2 = s.align.1.patchCount ∧
      (s.fuzzy = false → ∀ i j, s.align.1.patchOf i = some j → s.sourceKey i = s.patchKey j)) :=
  ⟨by decide, align_one_to_one _ (by decide)⟩

end Sides

end LinePatch

