import LinePatch.Proofs.EmptyPatch

/-!
# The laid-out script is an edit script

Before context is cut, the script of two exactly linked texts spells out an edit of the old
text into the new one. Leaving its deletions out gives the new lines, each once and in
order, with its own number and text. Reading each deletion as the old line it removes and
each context line as the old partner of its new line gives the old lines, each once and in
order. Deletions carry the text of their old line, and context lines match theirs under the
policy.
-/

namespace LinePatch

namespace Script

/-- The deletion of old line `x`, as a script writes it. -/
def deletion (old : List String) (x : Nat) : Line :=
  { index := x, text := old.getD x "", kind := .delete }

def oldSlot (a : Alignment) (l : Line) : Option Int :=
  match l.kind with
  | .delete => some l.index
  | .context => (a.sourceOf l.index.toNat).map Int.ofNat
  | .add => none

@[simp] theorem oldSlot_deletion (a : Alignment) (old : List String) (x : Nat) :
    oldSlot a (deletion old x) = some (x : Int) := rfl

@[simp] theorem filterMap_oldSlot_deletions (a : Alignment) (old : List String) (xs : List Nat) :
    (xs.map (deletion old)).filterMap (oldSlot a) = xs.map Int.ofNat := by
  induction xs with
  | nil => rfl
  | cons x xs ih => simp [ih]

theorem range_append_range' {b i : Nat} (h : b ≤ i) :
    List.range b ++ List.range' b (i - b) = List.range i := by
  have happ := @List.range'_append 0 b (i - b) 1
  rw [List.range_eq_range', List.range_eq_range']
  simpa [Nat.add_sub_cancel' h] using happ

section Runs

variable (old : List String) (deleted : Nat → Bool)

theorem mem_deletedRun {fuel : Nat} {start : Option Nat} {l : Line}
    (h : l ∈ deletedRun old deleted fuel start) :
    ∃ s x, start = some s ∧ x ≤ s ∧ l = deletion old x := by
  induction fuel generalizing start with
  | zero => simp [deletedRun] at h
  | succ f ih =>
    cases start with
    | none => simp [deletedRun] at h
    | some i =>
      simp only [deletedRun] at h
      split at h
      · rcases List.mem_append.mp h with h | h
        · obtain ⟨s, x, hs, hx, rfl⟩ := ih h
          refine ⟨i, x, rfl, ?_, rfl⟩
          split at hs
          · cases hs
          · cases hs
            omega
        · exact ⟨i, i, rfl, le_rfl, List.mem_singleton.mp h⟩
      · simp at h

@[simp] theorem filter_deletedRun {fuel : Nat} {start : Option Nat} :
    (deletedRun old deleted fuel start).filter (·.kind != .delete) = [] :=
  List.filter_eq_nil_iff.mpr fun l hl => by
    obtain ⟨_, x, -, -, rfl⟩ := mem_deletedRun old deleted hl
    simp [deletion]

theorem mem_deletedRun_before {fuel i : Nat} {l : Line}
    (h : l ∈ deletedRun old deleted fuel (if i = 0 then none else some (i - 1))) :
    ∃ x < i, l = deletion old x := by
  obtain ⟨s, x, hs, hxs, rfl⟩ := mem_deletedRun old deleted h
  split at hs
  · cases hs
  · cases hs
    exact ⟨x, by omega, rfl⟩

theorem deletedRun_eq {b : Nat} (hstop : b = 0 ∨ deleted (b - 1) = false) :
    ∀ i, b ≤ i → (∀ x, b ≤ x → x < i → deleted x = true) → ∀ fuel, i ≤ fuel →
      deletedRun old deleted fuel (if i = 0 then none else some (i - 1)) =
        (List.range' b (i - b)).map (deletion old) := by
  intro i hbi
  induction i, hbi using Nat.le_induction with
  | base =>
    intro _ fuel _
    rw [Nat.sub_self, List.range'_zero, List.map_nil]
    by_cases hb : b = 0
    · subst hb
      cases fuel <;> rfl
    · obtain ⟨f, rfl⟩ : ∃ f, fuel = f + 1 := ⟨fuel - 1, by omega⟩
      simp [deletedRun, hb, hstop.resolve_left hb]
  | succ i hbi ih =>
    intro hdel fuel hfuel
    obtain ⟨f, rfl⟩ : ∃ f, fuel = f + 1 := ⟨fuel - 1, by omega⟩
    have hi : deleted i = true := hdel i hbi (Nat.lt_succ_self i)
    have hprev := ih (fun x hx hxi => hdel x hx (by omega)) f (by omega)
    rw [show i + 1 - b = i - b + 1 by omega, List.range'_concat, List.map_append, ← hprev]
    simp [deletedRun, hi, deletion, Nat.add_sub_cancel' hbi]

end Runs

section Layout

variable {a : Alignment} {old new : List String}

theorem segment_changes (t : String) (j : Nat) :
    ((segment a old (t, j)).filter (·.kind != .delete)).map (fun l => (l.index, l.text)) =
      [((j : Int), t)] := by
  cases hs : a.sourceOf j with
  | none => simp only [segment, hs]; rfl
  | some i =>
    simp only [segment, hs]
    by_cases hmv : (movedLines a old.length).contains i = true
    · rw [if_pos hmv]
      rfl
    · rw [if_neg hmv, List.filter_append, filter_deletedRun]
      rfl

theorem ofAlignment_changes :
    ((ofAlignment old new a).filter (·.kind != .delete)).map (fun l => (l.index, l.text)) =
      new.zipIdx.map fun (t, j) => ((j : Int), t) := by
  rw [ofAlignment_eq, List.filter_append, filter_deletedRun, List.append_nil, List.filter_flatMap,
    List.map_flatMap]
  induction new.zipIdx with
  | nil => rfl
  | cons x xs ih =>
    obtain ⟨t, j⟩ := x
    rw [List.flatMap_cons, segment_changes, ih]
    rfl

/-- What the script of the new lines before `j` gives of the old lines: those before `b`,
in order. The pairs written as context whose old line lies before `b` are exactly those
whose new line lies before `j`, and the old line before `b` is one of them. -/
private structure OldPrefix (a : Alignment) (old new : List String) (j b : Nat) : Prop where
  slots : ((new.zipIdx.take j).flatMap (segment a old)).filterMap (oldSlot a) =
    (List.range b).map Int.ofNat
  cut : ∀ x y, a.patchOf x = some y → removed a old x = false → (x < b ↔ y < j)
  stop : b = 0 ∨ removed a old (b - 1) = false

private theorem take_zipIdx_succ {j : Nat} (hj : j < new.length) :
    new.zipIdx.take (j + 1) = new.zipIdx.take j ++ [(new[j], j)] := by
  rw [List.take_add_one, List.getElem?_zipIdx, List.getElem?_eq_getElem hj]
  simp

private theorem linked_of_kept {x : Nat} (hx : removed a old x = false) :
    ∃ y, a.patchOf x = some y := by
  cases h : a.patchOf x with
  | none => simp [removed, h] at hx
  | some y => exact ⟨y, rfl⟩

private theorem removed_of_oldPrefix (hm : Matches a old new) {j b i : Nat}
    (h : OldPrefix a old new j b) (hi : a.patchOf i = some j) (hr : removed a old i = false) :
    ∀ x, b ≤ x → x < i → removed a old x = true := by
  intro x hbx hxi
  by_contra hx
  simp only [Bool.not_eq_true] at hx
  obtain ⟨y, hy⟩ := linked_of_kept hx
  have hb := (h.cut x y hy hx).mpr ((lt_iff_of_kept hm hy hi hx hr).mp hxi)
  omega

private theorem oldPrefix_add (hm : Matches a old new) {j b : Nat} (h : OldPrefix a old new j b)
    (hj : j < new.length) (hk : keptNew a old j = false)
    (hseg : segment a old (new[j], j) = [{ index := j, text := new[j], kind := .add }]) :
    OldPrefix a old new (j + 1) b := by
  refine ⟨?_, fun x y hxy hx => ?_, h.stop⟩
  · rw [take_zipIdx_succ hj, List.flatMap_append, List.filterMap_append, h.slots, List.flatMap_singleton, hseg]
    simp [oldSlot]
  · rw [h.cut x y hxy hx]
    have hne : y ≠ j := by
      rintro rfl
      rw [(keptNew_iff hm y).mpr ⟨x, hxy, hx⟩] at hk
      exact absurd hk (by decide)
    omega

private theorem oldPrefix_context (hm : Matches a old new) {j b i : Nat}
    (h : OldPrefix a old new j b) (hj : j < new.length) (hi : a.patchOf i = some j)
    (hr : removed a old i = false)
    (hseg : segment a old (new[j], j) =
      deletedRun old (removed a old) (old.length + 1) (if i = 0 then none else some (i - 1)) ++
        [{ index := j, text := new[j], kind := .context }]) :
    OldPrefix a old new (j + 1) (i + 1) := by
  have hbi : b ≤ i := by
    have := (h.cut i j hi hr).not.mpr (Nat.lt_irrefl j)
    omega
  have hrun := deletedRun_eq old (removed a old) h.stop i hbi
    (removed_of_oldPrefix hm h hi hr) (old.length + 1)
    (by have := (hm.bound i j hi).1; omega)
  have hj' : a.sourceOf j = some i := (hm.symm i j).mp hi
  refine ⟨?_, fun x y hxy hx => ?_, Or.inr (by simpa using hr)⟩
  · rw [take_zipIdx_succ hj, List.flatMap_append, List.filterMap_append, h.slots, List.flatMap_singleton, hseg,
      hrun, List.filterMap_append, filterMap_oldSlot_deletions, ← List.append_assoc,
      ← List.map_append, range_append_range' hbi]
    simp [oldSlot, hj', List.range_succ]
  · -- the pairs kept before this one are those before it on both sides
    rcases Nat.lt_trichotomy x i with hxi | rfl | hxi
    · have := (lt_iff_of_kept hm hxy hi hx hr).mp hxi
      omega
    · rw [hi] at hxy
      cases hxy
      omega
    · have := (lt_iff_of_kept hm hi hxy hr hx).mp hxi
      omega

private theorem oldPrefix_step (hm : Matches a old new) {j b : Nat} (h : OldPrefix a old new j b)
    (hj : j < new.length) : ∃ b', OldPrefix a old new (j + 1) b' := by
  cases hs : a.sourceOf j with
  | none =>
    have hk : keptNew a old j = false := by simp [keptNew, hs]
    exact ⟨b, oldPrefix_add hm h hj hk (by simp [segment, hs])⟩
  | some i =>
    have hi : a.patchOf i = some j := (hm.symm i j).mpr hs
    by_cases hmv : (movedLines a old.length).contains i = true
    · have hmem : i ∈ movedLines a old.length := by simpa using hmv
      have hk : keptNew a old j = false := by simp [keptNew, hs, removed_of_patchOf hi, hmem]
      exact ⟨b, oldPrefix_add hm h hj hk (by simp only [segment, hs, hmv, if_true])⟩
    · have hr : removed a old i = false := by simpa [removed_of_patchOf hi] using hmv
      exact ⟨i + 1, oldPrefix_context hm h hj hi hr
        (by simp only [segment, hs, hmv, Bool.false_eq_true, if_false])⟩

private theorem oldPrefix_foldl (hm : Matches a old new) :
    ∀ j ≤ new.length, ∃ b, OldPrefix a old new j b
  | 0, _ => ⟨0, by simp, fun x y hxy _ => by simp, Or.inl rfl⟩
  | j + 1, hj => by
    obtain ⟨b, h⟩ := oldPrefix_foldl hm j (by omega)
    exact oldPrefix_step hm h (by omega)

theorem ofAlignment_oldSlots (hm : Matches a old new) :
    (ofAlignment old new a).filterMap (oldSlot a) = (List.range old.length).map Int.ofNat := by
  obtain ⟨b, h⟩ := oldPrefix_foldl hm new.length le_rfl
  have hslots := h.slots
  rw [List.take_of_length_le (by simp)] at hslots
  have hbo : b ≤ old.length := by
    rcases h.stop with rfl | hb
    · exact Nat.zero_le _
    · obtain ⟨y, hy⟩ := linked_of_kept hb
      have := (hm.bound _ _ hy).1
      omega
  -- every pair kept lies before the boundary, so the old lines from it on are removed
  have hdel : ∀ x, b ≤ x → x < old.length → removed a old x = true := by
    intro x hbx _
    by_contra hx
    simp only [Bool.not_eq_true] at hx
    obtain ⟨y, hy⟩ := linked_of_kept hx
    have := (h.cut x y hy hx).mpr (hm.bound x y hy).2
    omega
  have hrun := deletedRun_eq old (removed a old) h.stop old.length hbo hdel (old.length + 1)
    (Nat.le_succ _)
  rw [ofAlignment_eq, List.filterMap_append, hslots, hrun, filterMap_oldSlot_deletions,
    ← List.map_append, range_append_range' hbo]

def Faithful (p : Policy) (a : Alignment) (old : List String) (l : Line) : Prop :=
  (l.kind = .delete → old[l.index.toNat]? = some l.text) ∧
    (l.kind = .context → ∃ i t, a.sourceOf l.index.toNat = some i ∧ old[i]? = some t ∧
      p.normalize t = p.normalize l.text)

theorem faithful_add {p : Policy} {l : Line} (h : l.kind = .add) : Faithful p a old l :=
  ⟨fun hd => by simp [h] at hd, fun hc => by simp [h] at hc⟩

theorem faithful_deletion {p : Policy} {x : Nat} (hx : x < old.length) :
    Faithful p a old (deletion old x) :=
  ⟨fun _ => by simp [deletion, List.getD_eq_getElem?_getD, List.getElem?_eq_getElem hx],
    fun h => by simp [deletion] at h⟩

theorem faithful_segment (p : Policy) (hm : Matches a old new)
    (hq : ∀ i j, a.patchOf i = some j → p.normalize (old.getD i "") = p.normalize (new.getD j ""))
    {t : String} {j : Nat} (hj : new[j]? = some t) :
    ∀ l ∈ segment a old (t, j), Faithful p a old l := by
  intro l hl
  cases hs : a.sourceOf j with
  | none =>
    simp only [segment, hs, List.mem_singleton] at hl
    exact faithful_add (by rw [hl])
  | some i =>
    have hi : a.patchOf i = some j := (hm.symm i j).mpr hs
    have hio : i < old.length := (hm.bound i j hi).1
    by_cases hmv : (movedLines a old.length).contains i = true
    · -- a moved partner: the new line is written as an addition
      simp only [segment, hs, hmv, if_true, List.mem_singleton] at hl
      exact faithful_add (by rw [hl])
    · simp only [segment, hs, hmv, Bool.false_eq_true, if_false] at hl
      rcases List.mem_append.mp hl with hl | hl
      · obtain ⟨x, hx, rfl⟩ := mem_deletedRun_before old _ hl
        exact faithful_deletion (by omega)
      · -- the context line itself, whose texts agree under the policy
        rw [List.mem_singleton.mp hl]
        refine ⟨fun h => by simp at h, fun _ => ⟨i, old[i], by simpa using hs,
          List.getElem?_eq_getElem hio, ?_⟩⟩
        have hnorm := hq i j hi
        simp only [List.getD_eq_getElem?_getD, List.getElem?_eq_getElem hio, hj,
          Option.getD_some] at hnorm
        exact hnorm

theorem ofAlignment_texts (p : Policy) (hm : Matches a old new)
    (hq : ∀ i j, a.patchOf i = some j → p.normalize (old.getD i "") = p.normalize (new.getD j "")) :
    ∀ l ∈ ofAlignment old new a, Faithful p a old l := by
  intro l hl
  rw [ofAlignment_eq] at hl
  rcases List.mem_append.mp hl with hl | hl
  · obtain ⟨⟨t, j⟩, hx, hl⟩ := List.mem_flatMap.mp hl
    exact faithful_segment p hm hq (List.mem_zipIdx_iff_getElem?.mp hx) l hl
  · -- the deletions after the last context line
    obtain ⟨x, hx, rfl⟩ := mem_deletedRun_before old _ hl
    exact faithful_deletion hx

end Layout

/-- Before context is cut, the script that generation lays out from two texts is an edit
script between them. Without its deletions it is the new lines, each with its number and
text, in order; read as old lines it is every old line once, in order; its deletions carry
their old text and its context matches its old line under the policy. -/
theorem ofAlignment_is_edit_script (p : Policy) (oldText newText : String) :
    let old := Text.splitLines oldText
    let new := Text.splitLines newText
    let a := (sidesOf p old new).align.1
    ((ofAlignment old new a).filter (·.kind != .delete)).map (fun l => (l.index, l.text)) =
        new.zipIdx.map (fun (t, j) => ((j : Int), t)) ∧
      (ofAlignment old new a).filterMap (oldSlot a) = (List.range old.length).map Int.ofNat ∧
      ∀ l ∈ ofAlignment old new a, (l.kind = .delete → old[l.index.toNat]? = some l.text) ∧
        (l.kind = .context → ∃ i t, a.sourceOf l.index.toNat = some i ∧ old[i]? = some t ∧
          p.normalize t = p.normalize l.text) := by
  intro old new a
  have hm : Matches a old new := matches_align p old new
  exact ⟨ofAlignment_changes, ofAlignment_oldSlots hm,
    ofAlignment_texts p hm fun i j h => normalize_of_align p old new h⟩

end Script

end LinePatch
