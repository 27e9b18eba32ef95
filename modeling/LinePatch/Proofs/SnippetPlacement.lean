import LinePatch.Apply
import LinePatch.Proofs.ReadBack
import Mathlib.Data.List.Induction

/-!
# Placing a snippet twice

A snippet replaces the source lines from the first one whose normal form is that of its
first line to the last one whose normal form is that of its last line. The lines before
that range hold no start anchor and the lines after it no end anchor, so in the result
the snippet's own first line is the first start anchor and its own last line the last
end anchor: the range found again is the snippet itself, and placing the snippet once
more gives the same text.

Main statement: `applySnippet_idempotent`, a snippet placed twice is placed once, unless the
first placement changed the source into a text that begins with a byte order mark;
`applySnippet_twice_at_mark` is such a text.
-/

namespace LinePatch

namespace Text

theorem cr_not_mem_unifyBreaks (cs : List Char) : '\r' ∉ unifyBreaks cs := by
  -- a broken line pair is read two characters at once
  induction cs using List.twoStepInduction with
  | nil => simp [unifyBreaks]
  | singleton c =>
    by_cases hc : c = '\r'
    · simp [unifyBreaks, hc]
    · simp [unifyBreaks, hc, Ne.symm hc]
  | cons_cons c d r ih ih' =>
    by_cases hpair : c = '\r' ∧ d = '\n'
    · obtain ⟨rfl, rfl⟩ := hpair
      simpa [unifyBreaks] using ih
    · rw [unifyBreaks.eq_3 c (d :: r) (fun r' hc hr => hpair ⟨hc, (List.cons.inj hr).1⟩)]
      have hr := ih' d
      by_cases hc : c = '\r'
      · simp [hc, hr]
      · simp [hc, hr, Ne.symm hc]

theorem mem_cutAt {sep : Char} :
    ∀ {cs l : List Char}, l ∈ cutAt sep cs → sep ∉ l ∧ ∀ c ∈ l, c ∈ cs
  | [], l, h => by
    simp only [cutAt, List.mem_singleton] at h
    subst h
    simp
  | c :: r, l, h => by
    rw [cutAt] at h
    split at h
    · next hcut => exact absurd hcut (cutAt_ne_nil sep r)
    · next l' ls hcut =>
      have ih : ∀ m ∈ l' :: ls, sep ∉ m ∧ ∀ d ∈ m, d ∈ r := fun m hm =>
        mem_cutAt (hcut ▸ hm)
      split at h
      · next hc =>
        rcases List.mem_cons.mp h with rfl | h
        · simp
        · obtain ⟨hsep, hsub⟩ := ih l h
          exact ⟨hsep, fun d hd => List.mem_cons_of_mem _ (hsub d hd)⟩
      · next hc =>
        rcases List.mem_cons.mp h with rfl | h
        · obtain ⟨hsep, hsub⟩ := ih l' List.mem_cons_self
          refine ⟨?_, ?_⟩
          · simp only [List.mem_cons, not_or]
            exact ⟨Ne.symm hc, hsep⟩
          · intro d hd
            rcases List.mem_cons.mp hd with rfl | hd
            · exact List.mem_cons_self
            · exact List.mem_cons_of_mem _ (hsub d hd)
        · obtain ⟨hsep, hsub⟩ := ih l (List.mem_cons_of_mem _ h)
          exact ⟨hsep, fun d hd => List.mem_cons_of_mem _ (hsub d hd)⟩

theorem breaks_not_mem_of_mem_splitLines {t l : String} (h : l ∈ splitLines t) :
    '\n' ∉ l.toList ∧ '\r' ∉ l.toList := by
  obtain ⟨cs, hcs, rfl⟩ := List.mem_map.mp h
  obtain ⟨hsep, hsub⟩ := mem_cutAt hcs
  have hcr : '\r' ∉ (prepare t).toList := by
    simpa [prepare] using cr_not_mem_unifyBreaks _
  exact ⟨by simpa using hsep, fun hm => hcr (hsub _ (by simpa using hm))⟩

theorem splitLines_joinLines {ls : List String} (hne : ls ≠ [])
    (hbreak : ∀ l ∈ ls, '\n' ∉ l.toList ∧ '\r' ∉ l.toList)
    (hhead : (joinLines ls).toList.head? ≠ some byteOrderMark) :
    splitLines (joinLines ls) = ls := by
  have hjoin : (joinLines ls).toList = ['\n'].intercalate (ls.map String.toList) := by
    simp [joinLines]
  rw [← String.ofList_toList (s := joinLines ls), hjoin,
    splitLines_intercalate (by simpa using hne) (by simpa using hbreak) (hjoin ▸ hhead)]
  simp

end Text

section Anchors

variable {α : Type} (f : α → Bool)

theorem firstWhere_eq_findIdx? (xs : List α) : firstWhere f xs = xs.findIdx? f :=
  List.findIdx?_eq_fst_find?_zipIdx.symm

theorem firstWhere_append_of_none {xs : List α} (h : ∀ x ∈ xs, f x = false) (ys : List α) :
    firstWhere f (xs ++ ys) = (firstWhere f ys).map (· + xs.length) := by
  simp only [firstWhere_eq_findIdx?, List.findIdx?_append,
    List.findIdx?_eq_none_iff.mpr h, Option.none_or]

theorem firstWhere_cons_of_true {x : α} (h : f x = true) (xs : List α) :
    firstWhere f (x :: xs) = some 0 := by
  simp [firstWhere_eq_findIdx?, List.findIdx?_cons, h]

theorem firstWhere_spec {xs : List α} {k : Nat} (h : firstWhere f xs = some k) :
    k < xs.length ∧ ∀ x ∈ xs.take k, f x = false := by
  rw [firstWhere_eq_findIdx?, List.findIdx?_eq_some_iff_getElem] at h
  obtain ⟨hk, -, hbefore⟩ := h
  refine ⟨hk, fun x hx => ?_⟩
  obtain ⟨j, hj, rfl⟩ := List.getElem_of_mem hx
  simp only [List.length_take] at hj
  simpa [List.getElem_take] using hbefore j (by omega)

theorem lastWhere_concat (xs : List α) (x : α) :
    lastWhere f (xs ++ [x]) = if f x then some xs.length else lastWhere f xs := by
  unfold lastWhere
  rw [List.zipIdx_append, List.zipIdx_singleton, List.reverse_append]
  by_cases hx : f x <;> simp [hx]

theorem lastWhere_append_of_none (xs : List α) {ys : List α} (h : ∀ y ∈ ys, f y = false) :
    lastWhere f (xs ++ ys) = lastWhere f xs := by
  induction ys using List.reverseRecOn with
  | nil => simp
  | append_singleton ys y ih =>
    have hy : f y = false := h y (by simp)
    rw [← List.append_assoc, lastWhere_concat, if_neg (by simp [hy])]
    exact ih fun z hz => h z (by simp [hz])

theorem lastWhere_spec {xs : List α} {k : Nat} (h : lastWhere f xs = some k) :
    k < xs.length ∧ ∀ x ∈ xs.drop (k + 1), f x = false := by
  induction xs using List.reverseRecOn with
  | nil => simp [lastWhere] at h
  | append_singleton xs x ih =>
    rw [lastWhere_concat] at h
    split at h
    · cases h
      simp
    · next hx =>
      obtain ⟨hk, hafter⟩ := ih h
      refine ⟨by simp; omega, fun y hy => ?_⟩
      rw [List.drop_append_of_le_length (by omega)] at hy
      rcases List.mem_append.mp hy with hy | hy
      · exact hafter y hy
      · simp only [List.mem_singleton] at hy
        simpa [hy] using hx

end Anchors

section Snippet

def snippetLines (patch : String) : List String :=
  (Text.splitLines patch).filter fun l => !Text.isAllBlank l

variable (p : Policy)

theorem applySnippet_eq_of_anchors {source patch first last : String} {start stop : Nat}
    (hfirst : (snippetLines patch).head? = some first)
    (hlast : (snippetLines patch).getLast? = some last)
    (hstart : firstWhere (· == p.normalize first) ((Text.splitLines source).map p.normalize) =
      some start)
    (hstop : lastWhere (· == p.normalize last) ((Text.splitLines source).map p.normalize) =
      some stop)
    (hle : start ≤ stop) :
    applySnippet p source patch = Text.joinLines ((Text.splitLines source).take start ++
      snippetLines patch ++ (Text.splitLines source).drop (stop + 1)) := by
  unfold snippetLines at hfirst hlast ⊢
  simp only [applySnippet, hfirst, hlast, hstart, hstop, if_neg (Nat.not_lt.mpr hle)]

theorem applySnippet_anchored {source patch : String} (h : applySnippet p source patch ≠ source) :
    ∃ first last start stop,
      (snippetLines patch).head? = some first ∧ (snippetLines patch).getLast? = some last ∧
      firstWhere (· == p.normalize first) ((Text.splitLines source).map p.normalize) =
        some start ∧
      lastWhere (· == p.normalize last) ((Text.splitLines source).map p.normalize) =
        some stop ∧ start ≤ stop := by
  dsimp only [applySnippet] at h
  split at h
  · next first last hfirst hlast =>
    split at h
    · next start stop hstart hstop =>
      split at h
      · exact absurd rfl h
      · next hlt => exact ⟨first, last, start, stop, hfirst, hlast, hstart, hstop, by omega⟩
    · exact absurd rfl h
  · exact absurd rfl h

theorem applySnippet_placed {patch first last : String} {pre post : List String}
    (hfirst : (snippetLines patch).head? = some first)
    (hlast : (snippetLines patch).getLast? = some last)
    (hpre : ∀ l ∈ pre, (p.normalize l == p.normalize first) = false)
    (hpost : ∀ l ∈ post, (p.normalize l == p.normalize last) = false)
    (hread : Text.splitLines (Text.joinLines (pre ++ snippetLines patch ++ post)) =
      pre ++ snippetLines patch ++ post) :
    applySnippet p (Text.joinLines (pre ++ snippetLines patch ++ post)) patch =
      Text.joinLines (pre ++ snippetLines patch ++ post) := by
  obtain ⟨rest, hsn⟩ := List.head?_eq_some_iff.mp hfirst
  have hinit : snippetLines patch = (snippetLines patch).dropLast ++ [last] :=
    (List.dropLast_append_getLast? _ hlast).symm
  -- the snippet's own first line is the first start anchor
  have hstart : firstWhere (· == p.normalize first) ((Text.splitLines
      (Text.joinLines (pre ++ snippetLines patch ++ post))).map p.normalize) = some pre.length := by
    rw [hread, hsn]
    simp only [List.map_append, List.map_cons, List.append_assoc, List.cons_append]
    rw [firstWhere_append_of_none _ (by simpa using hpre), firstWhere_cons_of_true _ (by simp)]
    simp
  -- and its own last line the last end anchor
  have hstop : lastWhere (· == p.normalize last) ((Text.splitLines
      (Text.joinLines (pre ++ snippetLines patch ++ post))).map p.normalize) =
        some (pre.length + (snippetLines patch).dropLast.length) := by
    rw [hread, List.map_append, lastWhere_append_of_none _ _ (by simpa using hpost), hinit,
      ← List.append_assoc, List.map_append, List.map_singleton, lastWhere_concat]
    simp
  have hlen : (snippetLines patch).length = (snippetLines patch).dropLast.length + 1 := by
    simp [hsn]
  rw [applySnippet_eq_of_anchors p hfirst hlast hstart hstop (by omega), hread]
  have htake : (pre ++ snippetLines patch ++ post).take pre.length = pre := by
    rw [List.append_assoc]
    exact List.take_left' rfl
  have hdrop : (pre ++ snippetLines patch ++ post).drop
      (pre.length + (snippetLines patch).dropLast.length + 1) = post :=
    List.drop_left' (by simp; omega)
  rw [htake, hdrop]

/-- Placing a snippet a second time changes nothing, unless the first placement changed
the source into a text that begins with a byte order mark. -/
theorem applySnippet_idempotent (source patch : String)
    (h : applySnippet p source patch = source ∨
      (applySnippet p source patch).toList.head? ≠ some Text.byteOrderMark) :
    applySnippet p (applySnippet p source patch) patch = applySnippet p source patch := by
  by_cases hsame : applySnippet p source patch = source
  · rw [hsame]
    exact hsame
  have hbom := h.resolve_left hsame
  obtain ⟨first, last, start, stop, hfirst, hlast, hstart, hstop, hle⟩ :=
    applySnippet_anchored p hsame
  obtain ⟨-, hpre⟩ := firstWhere_spec _ hstart
  obtain ⟨-, hpost⟩ := lastWhere_spec _ hstop
  rw [applySnippet_eq_of_anchors p hfirst hlast hstart hstop hle] at hbom ⊢
  -- every line placed comes from a text read into lines, so none holds a break
  have hbreak : ∀ l ∈ (Text.splitLines source).take start ++ snippetLines patch ++
      (Text.splitLines source).drop (stop + 1), '\n' ∉ l.toList ∧ '\r' ∉ l.toList := by
    intro l hl
    simp only [snippetLines, List.mem_append, List.mem_filter] at hl
    rcases hl with (hl | hl) | hl
    · exact Text.breaks_not_mem_of_mem_splitLines (List.mem_of_mem_take hl)
    · exact Text.breaks_not_mem_of_mem_splitLines hl.1
    · exact Text.breaks_not_mem_of_mem_splitLines (List.mem_of_mem_drop hl)
  have hne : snippetLines patch ≠ [] := by
    intro hnil
    simp [hnil] at hfirst
  refine applySnippet_placed p hfirst hlast ?_ ?_ ?_
  · intro l hl
    exact hpre _ (by rw [← List.map_take]; exact List.mem_map_of_mem hl)
  · intro l hl
    exact hpost _ (by rw [← List.map_drop]; exact List.mem_map_of_mem hl)
  · exact Text.splitLines_joinLines (by simp [hne]) hbreak hbom

theorem applySnippet_idempotent_example :
    (applySnippet .whitespace "a\nb\nc\nd\ne" "b\nX\nd" = "a\nb\nc\nd\ne" ∨
      (applySnippet .whitespace "a\nb\nc\nd\ne" "b\nX\nd").toList.head? ≠
        some Text.byteOrderMark) ∧
    applySnippet .whitespace (applySnippet .whitespace "a\nb\nc\nd\ne" "b\nX\nd") "b\nX\nd" =
      applySnippet .whitespace "a\nb\nc\nd\ne" "b\nX\nd" :=
  ⟨Or.inr (by decide +kernel),
    applySnippet_idempotent .whitespace _ _ (Or.inr (by decide +kernel))⟩

/-- A snippet whose first line begins with a byte order mark, placed at the top of the
source, makes a text that reads back without the mark; placed again, it finds its first
line only further down and comes in a second time. -/
theorem applySnippet_twice_at_mark :
    applySnippet .whitespace " \uFEFFa" "\n\uFEFFa\n\uFEFFa" = "\uFEFFa\n\uFEFFa" ∧
    applySnippet .whitespace (applySnippet .whitespace " \uFEFFa" "\n\uFEFFa\n\uFEFFa")
      "\n\uFEFFa\n\uFEFFa" = "a\n\uFEFFa\n\uFEFFa" := by
  decide +kernel

end Snippet

end LinePatch
