import LinePatch.Script
import LinePatch.Patch
import LinePatch.Proofs.Reorder
import Mathlib.Data.List.TakeWhile
import Mathlib.Data.List.Chain

/-!
# A written script reads back

A script is written one line each, with the lead of its kind, and the blanks at the end of
the text are dropped. Read back as a patch, each written line gives its line again: the
kind from the lead, and the text exactly, except that under the whitespace policy a marked
line keeps the space after its marker, and the last line loses its trailing blanks. The
blank context lines at the end of a script are lost with the trailing blanks. The lines
read back are put in order the way the script's own lines would be, and a generated
script is already in that order, so it reads back in the order it was written.
-/

namespace LinePatch

namespace Text

def trimEnd (cs : List Char) : List Char := (cs.reverse.dropWhile isBlank).reverse

theorem dropTrailingBlanks_eq (s : String) :
    dropTrailingBlanks s = String.ofList (trimEnd s.toList) := rfl

theorem trimEnd_append (a b : List Char) :
    trimEnd (a ++ b) = if b.all isBlank then trimEnd a else a ++ trimEnd b := by
  unfold trimEnd
  rw [List.reverse_append, List.dropWhile_append]
  by_cases h : b.all isBlank = true
  · have hnil : b.reverse.dropWhile isBlank = [] :=
      List.dropWhile_eq_nil_iff.mpr fun c hc => List.all_eq_true.mp h c (List.mem_reverse.mp hc)
    simp [hnil, h]
  · have hne : b.reverse.dropWhile isBlank ≠ [] := by
      intro hnil
      apply h
      exact List.all_eq_true.mpr fun c hc =>
        List.dropWhile_eq_nil_iff.mp hnil c (List.mem_reverse.mpr hc)
    simp [hne, h]

theorem trimEnd_eq_nil {cs : List Char} (h : cs.all isBlank = true) : trimEnd cs = [] := by
  have h' := trimEnd_append [] cs
  rw [if_pos h] at h'
  simpa [trimEnd] using h'

theorem all_blank_of_trimEnd_eq_nil {cs : List Char} (h : trimEnd cs = []) :
    cs.all isBlank = true := by
  have hdrop : cs.reverse.dropWhile isBlank = [] := List.reverse_eq_nil_iff.mp h
  exact List.all_eq_true.mpr fun c hc =>
    List.dropWhile_eq_nil_iff.mp hdrop c (List.mem_reverse.mpr hc)

theorem trimEnd_append_of_not_blank (a : List Char) {b : List Char}
    (h : b.all isBlank = false) : trimEnd (a ++ b) = a ++ trimEnd b := by
  simp [trimEnd_append, h]

theorem trimEnd_cons {c : Char} (hc : isBlank c = false) (cs : List Char) :
    trimEnd (c :: cs) = c :: trimEnd cs := by
  have h := trimEnd_append [c] cs
  by_cases hall : cs.all isBlank = true
  · have hc' : trimEnd [c] = [c] := by simp [trimEnd, hc]
    simpa [hall, hc', trimEnd_eq_nil hall] using h
  · simpa [hall] using h

theorem trimEnd_blank_cons {c : Char} (hc : isBlank c = true) (cs : List Char) :
    (trimEnd (c :: cs)).drop 1 = trimEnd cs ∧
      (trimEnd (c :: cs) = [] ∨ trimEnd (c :: cs) = c :: trimEnd cs) := by
  have h := trimEnd_append [c] cs
  by_cases hall : cs.all isBlank = true
  · have hc' : trimEnd [c] = [] := trimEnd_eq_nil (by simp [hc])
    simp only [List.singleton_append, hall, if_true, hc'] at h
    simp [h, trimEnd_eq_nil hall]
  · simp only [List.singleton_append, hall] at h
    simp [h]

theorem trimEnd_sublist (cs : List Char) : List.Sublist (trimEnd cs) cs := by
  have h : List.Sublist (cs.reverse.dropWhile isBlank) cs.reverse :=
    (List.dropWhile_suffix _).sublist
  simpa [trimEnd] using h.reverse

section Splitting

theorem cutAt_of_not_mem {sep : Char} {cs : List Char} (h : sep ∉ cs) : cutAt sep cs = [cs] := by
  induction cs with
  | nil => rfl
  | cons c cs ih =>
    have hc : c ≠ sep := fun hc => h (hc ▸ List.mem_cons_self)
    rw [cutAt, ih fun hm => h (List.mem_cons_of_mem _ hm)]
    simp [hc]

theorem cutAt_append_sep {sep : Char} {cs : List Char} (h : sep ∉ cs) (rest : List Char) :
    cutAt sep (cs ++ sep :: rest) = cs :: cutAt sep rest := by
  induction cs with
  | nil =>
    obtain ⟨l, ls, hl⟩ := List.exists_cons_of_ne_nil (cutAt_ne_nil sep rest)
    simp [cutAt, hl]
  | cons c cs ih =>
    have hc : c ≠ sep := fun hc => h (hc ▸ List.mem_cons_self)
    rw [List.cons_append, cutAt, ih fun hm => h (List.mem_cons_of_mem _ hm)]
    simp [hc]

theorem cutAt_intercalate {sep : Char} :
    ∀ {ls : List (List Char)}, ls ≠ [] → (∀ l ∈ ls, sep ∉ l) → cutAt sep ([sep].intercalate ls) = ls
  | [], hne, _ => absurd rfl hne
  | [l], _, h => by simpa using cutAt_of_not_mem (h l List.mem_cons_self)
  | l :: l' :: ls, _, h => by
    rw [List.intercalate_cons_cons, List.append_assoc, List.singleton_append,
      cutAt_append_sep (h l List.mem_cons_self),
      cutAt_intercalate (List.cons_ne_nil _ _) fun m hm => h m (List.mem_cons_of_mem _ hm)]

theorem mem_intercalate {sep c : Char} :
    ∀ {ls : List (List Char)}, c ∈ [sep].intercalate ls → c = sep ∨ ∃ l ∈ ls, c ∈ l
  | [], h => by simp at h
  | [l], h => Or.inr ⟨l, List.mem_cons_self, by simpa using h⟩
  | l :: l' :: ls, h => by
    rw [List.intercalate_cons_cons] at h
    simp only [List.mem_append, List.mem_singleton] at h
    rcases h with (h | h) | h
    · exact Or.inr ⟨l, List.mem_cons_self, h⟩
    · exact Or.inl h
    · rcases mem_intercalate h with h | ⟨m, hm, hc⟩
      · exact Or.inl h
      · exact Or.inr ⟨m, List.mem_cons_of_mem _ hm, hc⟩

theorem all_of_all_intercalate {sep : Char} {P : Char → Bool} :
    ∀ {ls : List (List Char)}, ([sep].intercalate ls).all P = true → ∀ l ∈ ls, l.all P = true
  | [], _ => by simp
  | [l], h => by simpa using h
  | l :: l' :: ls, h => by
    rw [List.intercalate_cons_cons] at h
    simp only [List.all_append, Bool.and_eq_true] at h
    intro m hm
    rcases List.mem_cons.mp hm with rfl | hm
    · exact h.1.1
    · exact all_of_all_intercalate h.2 m hm

theorem not_mem_intercalate {sep c : Char} (hc : c ≠ sep) {ls : List (List Char)}
    (h : ∀ l ∈ ls, c ∉ l) : c ∉ [sep].intercalate ls := by
  intro hm
  rcases mem_intercalate hm with hs | ⟨l, hl, hcl⟩
  · exact hc hs
  · exact h l hl hcl

theorem intercalate_append {sep : Char} {as : List (List Char)} (ha : as ≠ []) :
    ∀ {bs : List (List Char)}, bs ≠ [] →
      [sep].intercalate (as ++ bs) = [sep].intercalate as ++ sep :: [sep].intercalate bs := by
  induction as with
  | nil => exact absurd rfl ha
  | cons a as ih =>
    intro bs hb
    cases as with
    | nil =>
      obtain ⟨b, bs, rfl⟩ := List.exists_cons_of_ne_nil hb
      simp
    | cons a' as =>
      have h := ih (List.cons_ne_nil _ _) hb
      rw [List.cons_append] at h
      rw [List.cons_append, List.cons_append, List.intercalate_cons_cons, h,
        List.intercalate_cons_cons]
      simp

theorem trimEnd_intercalate_blank {as bs : List (List Char)} (ha : as ≠ [])
    (hb : ∀ b ∈ bs, b.all isBlank = true) :
    trimEnd (['\n'].intercalate (as ++ bs)) = trimEnd (['\n'].intercalate as) := by
  by_cases hne : bs = []
  · simp [hne]
  · have hall : ('\n' :: ['\n'].intercalate bs).all isBlank = true := by
      refine List.all_eq_true.mpr fun c hc => ?_
      rcases List.mem_cons.mp hc with rfl | hc
      · decide
      · rcases mem_intercalate hc with rfl | ⟨b, hbm, hcb⟩
        · decide
        · exact List.all_eq_true.mp (hb b hbm) c hcb
    rw [intercalate_append ha hne, trimEnd_append, if_pos hall]

theorem trimEnd_intercalate_concat {as : List (List Char)} {x : List Char}
    (hx : x.all isBlank = false) :
    trimEnd (['\n'].intercalate (as ++ [x])) = ['\n'].intercalate (as ++ [trimEnd x]) := by
  by_cases hne : as = []
  · simp [hne]
  · rw [intercalate_append hne (List.cons_ne_nil _ _), intercalate_append hne (List.cons_ne_nil _ _),
      List.intercalate_singleton, List.intercalate_singleton]
    simpa using trimEnd_append_of_not_blank (['\n'].intercalate as ++ ['\n']) hx

theorem unifyBreaks_of_not_mem {cs : List Char} (h : '\r' ∉ cs) : unifyBreaks cs = cs := by
  induction cs with
  | nil => rfl
  | cons c cs ih =>
    have hc : c ≠ '\r' := fun hc => h (hc ▸ List.mem_cons_self)
    have hcs := ih fun hm => h (List.mem_cons_of_mem _ hm)
    rw [unifyBreaks.eq_def]
    split
    next _ heq => exact absurd heq (List.cons_ne_nil _ _)
    next _ r heq => exact absurd (List.cons.inj heq).1 hc
    next _ c' r _ heq =>
      obtain ⟨rfl, rfl⟩ := List.cons.inj heq
      simp [hc, hcs]

theorem splitLines_intercalate {ls : List (List Char)} (hne : ls ≠ [])
    (hbreak : ∀ l ∈ ls, '\n' ∉ l ∧ '\r' ∉ l)
    (hhead : (['\n'].intercalate ls).head? ≠ some byteOrderMark) :
    splitLines (String.ofList (['\n'].intercalate ls)) = ls.map String.ofList := by
  have hdrop : (['\n'].intercalate ls).dropWhile (· == byteOrderMark) = ['\n'].intercalate ls := by
    cases hcs : ['\n'].intercalate ls with
    | nil => rfl
    | cons c r =>
      have hc : c ≠ byteOrderMark := fun hc => hhead (by simp [hcs, hc])
      simp [hc]
  have hcr : '\r' ∉ ['\n'].intercalate ls :=
    not_mem_intercalate (by decide) fun l hl => (hbreak l hl).2
  unfold splitLines prepare
  simp only [String.toList_ofList]
  rw [hdrop, unifyBreaks_of_not_mem hcr, cutAt_intercalate hne fun l hl => (hbreak l hl).1]

end Splitting

end Text

private theorem filterMap_zipIdx_from {α β γ : Type} {f : α × Nat → Option γ}
    {g : Nat → β → γ} : ∀ (xs : List α) (ys : List β) (k : Nat), xs.length = ys.length →
      (∀ i (hx : i < xs.length) (hy : i < ys.length), f (xs[i], i + k) = some (g (i + k) ys[i])) →
      (xs.zipIdx k).filterMap f = ys.mapIdx fun i => g (i + k)
  | [], [], _, _, _ => rfl
  | x :: xs, y :: ys, k, hlen, h => by
    have h₀ := h 0 (by simp) (by simp)
    simp only [List.getElem_cons_zero, Nat.zero_add] at h₀
    have hrest := filterMap_zipIdx_from xs ys (k + 1) (by simpa using hlen) fun i hx hy => by
      have hi := h (i + 1) (by simpa using hx) (by simpa using hy)
      simp only [List.getElem_cons_succ] at hi
      rwa [Nat.add_assoc, Nat.add_comm 1 k] at hi
    rw [List.zipIdx_cons, List.filterMap_cons, h₀, hrest, List.mapIdx_cons]
    simp [Nat.add_assoc, Nat.add_comm 1 k]

private theorem filterMap_zipIdx_eq_mapIdx {α β γ : Type} {f : α × Nat → Option γ}
    {g : Nat → β → γ} (xs : List α) (ys : List β) (hlen : xs.length = ys.length)
    (h : ∀ i (hx : i < xs.length) (hy : i < ys.length), f (xs[i], i) = some (g i ys[i])) :
    xs.zipIdx.filterMap f = ys.mapIdx g := by
  simpa using filterMap_zipIdx_from xs ys 0 hlen (by simpa using h)

namespace Script

/-- A line as a script writes it: its lead, then its text. -/
def written (l : Line) : List Char := (lead l.kind ++ l.text).toList

/-- A context line with a blank text; at the end of a script it goes with the trailing
blanks. -/
def isBlankContext (l : Line) : Bool := l.kind == .context && Text.isAllBlank l.text

/-- The lines of a script that a reader sees: all but the blank context lines at its end. -/
def kept (D : List Line) : List Line := (D.reverse.dropWhile isBlankContext).reverse

/-- A written line, trimmed when it is the last one kept. -/
def row (last : Bool) (l : Line) : List Char :=
  if last then Text.trimEnd (written l) else written l

def readBack (p : Policy) (last : Bool) (l : Line) : String :=
  let t := if p = .whitespace ∧ l.kind ≠ .context then " " ++ l.text else l.text
  if last then Text.dropTrailingBlanks t else t

def readBackAll (p : Policy) (D : List Line) : List Line :=
  D.mapIdx fun k l => { index := k, text := readBack p (k + 1 = D.length) l, kind := l.kind }

section Rows

variable (p : Policy) (keys : List String) (sep : Bool)

theorem readLine_marked {m : Char} {k : LineKind}
    (hm : (m = '+' ∧ k = .add) ∨ (m = '-' ∧ k = .delete)) {pl : List Char}
    (hpl : pl = [] ∨ ∃ t, pl = ' ' :: t) :
    Patch.readLine p keys sep (String.ofList (m :: pl)) =
        some (k, String.ofList (if sep then pl.drop 1 else pl)) ∧
      Patch.markerPayload (String.ofList (m :: pl)) = some pl := by
  rcases hm with ⟨rfl, rfl⟩ | ⟨rfl, rfl⟩ <;> rcases hpl with rfl | ⟨t, rfl⟩ <;>
    simp [Patch.readLine, Patch.markerPayload, Patch.startsWithAny, Patch.commentLeads,
      Patch.envelopeLeads, Text.isBlank]

theorem row_context {last : Bool} {l : Line} (hk : l.kind = .context)
    (hlast : last = true → isBlankContext l = false) :
    row last l = ' ' :: ' ' :: (if last then Text.trimEnd l.text.toList else l.text.toList) := by
  have hw : written l = [' ', ' '] ++ l.text.toList := by simp [written, hk, lead]
  cases last with
  | false => simp [row, hw]
  | true =>
    have hblank : l.text.toList.all Text.isBlank = false := by
      simpa [isBlankContext, hk, Text.isAllBlank] using hlast rfl
    rw [row, if_pos rfl, hw, Text.trimEnd_append_of_not_blank _ hblank]
    simp

theorem row_marked (last : Bool) {l : Line} (hk : l.kind ≠ .context) :
    ∃ m, ((m = '+' ∧ l.kind = .add) ∨ (m = '-' ∧ l.kind = .delete)) ∧
      row last l = m :: (if last then Text.trimEnd (' ' :: l.text.toList)
        else ' ' :: l.text.toList) := by
  have hw : ∀ m, (lead l.kind).toList = [m, ' '] → Text.isBlank m = false →
      row last l = m :: (if last then Text.trimEnd (' ' :: l.text.toList)
        else ' ' :: l.text.toList) := by
    intro m hlead hm
    cases last <;> simp [row, written, hlead, Text.trimEnd_cons hm]
  cases hkind : l.kind with
  | context => exact absurd hkind hk
  | add => exact ⟨'+', Or.inl ⟨rfl, rfl⟩, hw '+' (by simp [hkind, lead]) (by decide)⟩
  | delete => exact ⟨'-', Or.inr ⟨rfl, rfl⟩, hw '-' (by simp [hkind, lead]) (by decide)⟩

theorem payload_shape (last : Bool) (t : List Char) :
    (if last then Text.trimEnd (' ' :: t) else ' ' :: t) = [] ∨
      ∃ u, (if last then Text.trimEnd (' ' :: t) else ' ' :: t) = ' ' :: u := by
  cases last with
  | false => exact Or.inr ⟨t, rfl⟩
  | true =>
    rcases (Text.trimEnd_blank_cons (c := ' ') (by decide) t).2 with h | h
    · exact Or.inl h
    · exact Or.inr ⟨_, h⟩

theorem readLine_row {last : Bool} {l : Line} (hlast : last = true → isBlankContext l = false)
    (hsep : l.kind ≠ .context → sep = (p == .indentation)) :
    Patch.readLine p keys sep (String.ofList (row last l)) = some (l.kind, readBack p last l) := by
  by_cases hk : l.kind = .context
  · rw [row_context hk hlast]
    cases last <;> simp [Patch.readLine, readBack, hk, Text.dropTrailingBlanks_eq]
  · obtain ⟨m, hm, hrow⟩ := row_marked last hk
    rw [hrow, (readLine_marked p keys sep hm (payload_shape last _)).1, hsep hk]
    have hdrop := (Text.trimEnd_blank_cons (c := ' ') (by decide) l.text.toList).1
    cases p <;> cases last <;> simp [readBack, hk, Text.dropTrailingBlanks_eq, hdrop]

theorem markerPayload_row_context {last : Bool} {l : Line} (hk : l.kind = .context)
    (hlast : last = true → isBlankContext l = false) :
    Patch.markerPayload (String.ofList (row last l)) = none := by
  rw [row_context hk hlast]
  simp [Patch.markerPayload]

theorem markerPayload_row_marked (last : Bool) {l : Line} (hk : l.kind ≠ .context) :
    ∃ pl, Patch.markerPayload (String.ofList (row last l)) = some pl ∧
      (pl.isEmpty || pl.head? == some ' ') = true := by
  obtain ⟨m, hm, hrow⟩ := row_marked last hk
  refine ⟨_, hrow ▸ (readLine_marked .whitespace [] false hm (payload_shape last _)).2, ?_⟩
  rcases payload_shape last l.text.toList with h | ⟨u, h⟩ <;> simp [h]

end Rows

def rows (D : List Line) : List (List Char) := D.mapIdx fun k l => row (k + 1 = D.length) l

def EndsVisibly (D : List Line) : Prop :=
  ∀ i (h : i < D.length), i + 1 = D.length → isBlankContext D[i] = false

theorem kept_split {D : List Line} (hsome : ∃ l ∈ D, isBlankContext l = false) :
    ∃ P x T, kept D = P ++ [x] ∧ isBlankContext x = false ∧ D = P ++ [x] ++ T ∧
      ∀ y ∈ T, isBlankContext y = true := by
  have hD : D = kept D ++ (D.reverse.takeWhile isBlankContext).reverse := by
    conv_lhs => rw [← List.reverse_reverse D,
      ← List.takeWhile_append_dropWhile (p := isBlankContext) (l := D.reverse)]
    rw [List.reverse_append, kept]
  cases hdw : D.reverse.dropWhile isBlankContext with
  | nil =>
    obtain ⟨l, hl, hb⟩ := hsome
    have := List.dropWhile_eq_nil_iff.mp hdw l (List.mem_reverse.mpr hl)
    simp [hb] at this
  | cons x rest =>
    have hx : isBlankContext x = false := by
      simpa [hdw] using List.head_dropWhile_not isBlankContext (l := D.reverse) (by simp [hdw])
    have hkept : kept D = rest.reverse ++ [x] := by simp [kept, hdw]
    refine ⟨rest.reverse, x, (D.reverse.takeWhile isBlankContext).reverse, hkept, hx, ?_, ?_⟩
    · rw [← hkept]
      exact hD
    · intro y hy
      exact List.mem_takeWhile_imp (List.mem_reverse.mp hy)

theorem endsVisibly_of_concat {P : List Line} {x : Line} (hx : isBlankContext x = false) :
    EndsVisibly (P ++ [x]) := by
  intro i hi hlast
  have hi' : i = P.length := by simpa using hlast
  subst hi'
  simpa using hx

theorem written_all_blank_iff (l : Line) :
    (written l).all Text.isBlank = isBlankContext l := by
  cases hk : l.kind <;> simp [written, lead, isBlankContext, hk, Text.isAllBlank, Text.isBlank]

theorem toList_render (D : List Line) :
    (render D).toList = Text.trimEnd (['\n'].intercalate (D.map written)) := by
  have hw : written = fun l => (lead l.kind).toList ++ l.text.toList :=
    funext fun l => by simp [written]
  simp [render, Text.dropTrailingBlanks_eq, Text.joinLines, String.toList_intercalate, hw,
    Function.comp_def]

theorem render_eq_empty {D : List Line} (h : render D = "") :
    ∀ l ∈ D, isBlankContext l = true := by
  have hnil : Text.trimEnd (['\n'].intercalate (D.map written)) = [] := by
    rw [← toList_render, h]
    rfl
  intro l hl
  rw [← written_all_blank_iff]
  exact Text.all_of_all_intercalate (Text.all_blank_of_trimEnd_eq_nil hnil) _
    (List.mem_map_of_mem hl)

theorem render_toList {D : List Line} (hsome : ∃ l ∈ D, isBlankContext l = false) :
    (render D).toList = ['\n'].intercalate (rows (kept D)) := by
  obtain ⟨P, x, T, hkept, hx, hD, hT⟩ := kept_split hsome
  have hwT : ∀ b ∈ T.map written, b.all Text.isBlank = true := by
    intro b hb
    obtain ⟨y, hy, rfl⟩ := List.mem_map.mp hb
    rw [written_all_blank_iff]
    exact hT y hy
  have hwx : (written x).all Text.isBlank = false := by rw [written_all_blank_iff, hx]
  have hP : P.mapIdx (fun k l => row (k + 1 = (P ++ [x]).length) l) = P.map written := by
    apply List.ext_getElem (by simp)
    intro i h₁ _
    have hne : i ≠ P.length := by simp at h₁; omega
    simp [row, hne]
  rw [toList_render, hkept, hD, List.map_append, Text.trimEnd_intercalate_blank (by simp) hwT,
    List.map_append, List.map_singleton, Text.trimEnd_intercalate_concat hwx, rows,
    List.mapIdx_concat, hP]
  simp [row]

theorem row_sublist_written (last : Bool) (l : Line) : List.Sublist (row last l) (written l) := by
  cases last
  · exact List.Sublist.refl _
  · exact Text.trimEnd_sublist _

theorem mem_written {l : Line} {c : Char} (hc : c ∈ written l) :
    c = ' ' ∨ c = '+' ∨ c = '-' ∨ c ∈ l.text.toList := by
  cases hk : l.kind <;> simp [written, lead, hk] at hc <;> tauto

theorem row_head {last : Bool} {l : Line} (hlast : last = true → isBlankContext l = false) :
    ∃ c rest, row last l = c :: rest ∧ c ≠ Text.byteOrderMark := by
  by_cases hk : l.kind = .context
  · exact ⟨' ', _, row_context hk hlast, by decide⟩
  · obtain ⟨m, hm, hrow⟩ := row_marked last hk
    refine ⟨m, _, hrow, ?_⟩
    rcases hm with ⟨rfl, -⟩ | ⟨rfl, -⟩ <;> decide

theorem splitLines_render {D : List Line} (hbreak : ∀ l ∈ D, '\n' ∉ l.text.toList ∧ '\r' ∉ l.text.toList)
    (hsome : ∃ l ∈ D, isBlankContext l = false) :
    Text.splitLines (render D) = (rows (kept D)).map String.ofList := by
  obtain ⟨P, x, T, hkept, hx, hD, -⟩ := kept_split hsome
  have hvis : EndsVisibly (kept D) := hkept ▸ endsVisibly_of_concat hx
  rw [← String.ofList_toList (s := render D), render_toList hsome]
  apply Text.splitLines_intercalate (by simp [rows, hkept])
  · intro r hr
    obtain ⟨i, hi, rfl⟩ := List.mem_mapIdx.mp hr
    have hsub : ∀ l ∈ kept D, l ∈ D := by
      intro l hl
      rw [hkept] at hl
      rw [hD]
      exact List.mem_append_left _ hl
    have hl := hbreak _ (hsub _ (List.getElem_mem hi))
    have hsub := (row_sublist_written (decide (i + 1 = (kept D).length)) (kept D)[i]).subset
    constructor <;> intro hm <;> rcases mem_written (hsub hm) with h | h | h | h <;>
      simp_all
  · obtain ⟨l₀, rest, hcons⟩ : ∃ l₀ rest, kept D = l₀ :: rest := by
      cases h : kept D with
      | nil => simp [hkept] at h
      | cons l₀ rest => exact ⟨l₀, rest, rfl⟩
    have hlast : decide (0 + 1 = (kept D).length) = true → isBlankContext l₀ = false := by
      intro h
      simpa [hcons] using hvis 0 (by simp [hcons]) (of_decide_eq_true h)
    obtain ⟨c, cs, hrow, hc⟩ := row_head hlast
    rw [hcons] at hrow
    rw [rows, hcons, List.mapIdx_cons, hrow, List.intercalate_cons_cons_left]
    simp [hc]

theorem usesSeparator_rows {D : List Line} (hvis : EndsVisibly D)
    (hmarked : ∃ l ∈ D, l.kind ≠ .context) :
    Patch.usesSeparator ((rows D).map String.ofList) = true := by
  have hpay : ∀ raw ∈ (rows D).map String.ofList, ∀ pl, Patch.markerPayload raw = some pl →
      (pl.isEmpty || pl.head? == some ' ') = true := by
    intro raw hraw pl hpl
    obtain ⟨r, hr, rfl⟩ := List.mem_map.mp hraw
    obtain ⟨i, hi, rfl⟩ := List.mem_mapIdx.mp hr
    have hlast : decide (i + 1 = D.length) = true → isBlankContext D[i] = false :=
      fun h => hvis i hi (of_decide_eq_true h)
    by_cases hk : D[i].kind = .context
    · rw [markerPayload_row_context hk hlast] at hpl
      cases hpl
    · obtain ⟨pl', hpl', hok⟩ := markerPayload_row_marked _ hk
      rw [hpl', Option.some.injEq] at hpl
      exact hpl ▸ hok
  obtain ⟨l, hl, hk⟩ := hmarked
  obtain ⟨i, hi, rfl⟩ := List.mem_iff_getElem.mp hl
  obtain ⟨pl, hpl, -⟩ := markerPayload_row_marked (decide (i + 1 = D.length)) hk
  have hmem : pl ∈ ((rows D).map String.ofList).filterMap Patch.markerPayload :=
    List.mem_filterMap.mpr ⟨_, List.mem_map.mpr ⟨_, List.mem_mapIdx.mpr ⟨i, hi, rfl⟩, rfl⟩, hpl⟩
  have hall : (((rows D).map String.ofList).filterMap Patch.markerPayload).all
      (fun p => p.isEmpty || p.head? == some ' ') = true := by
    refine List.all_eq_true.mpr fun pl hpl => ?_
    obtain ⟨raw, hraw, h⟩ := List.mem_filterMap.mp hpl
    exact hpay raw hraw pl h
  simp only [Patch.usesSeparator, hall, Bool.and_true, Bool.not_eq_eq_eq_not, Bool.not_true,
    List.isEmpty_eq_false_iff]
  exact List.ne_nil_of_mem hmem

theorem readLines_render (p : Policy) (src : List Line) {D : List Line}
    (hbreak : ∀ l ∈ D, '\n' ∉ l.text.toList ∧ '\r' ∉ l.text.toList)
    (hsome : ∃ l ∈ D, isBlankContext l = false) :
    Patch.readLines p src (render D) = readBackAll p (kept D) := by
  obtain ⟨P, x, T, hkept, hx, -, -⟩ := kept_split hsome
  have hvis : EndsVisibly (kept D) := hkept ▸ endsVisibly_of_concat hx
  unfold Patch.readLines readBackAll
  rw [splitLines_render hbreak hsome]
  dsimp only
  apply filterMap_zipIdx_eq_mapIdx _ _ (by simp [rows])
  intro i hx hy
  have hlast : decide (i + 1 = (kept D).length) = true → isBlankContext (kept D)[i] = false :=
    fun h => hvis i hy (of_decide_eq_true h)
  have hsep : (kept D)[i].kind ≠ .context →
      (p == .indentation && Patch.usesSeparator ((rows (kept D)).map String.ofList)) =
        (p == .indentation) := fun hk => by
    rw [usesSeparator_rows hvis ⟨_, List.getElem_mem hy, hk⟩, Bool.and_true]
  have hrow : ((rows (kept D)).map String.ofList)[i] =
      String.ofList (row (i + 1 = (kept D).length) (kept D)[i]) := by
    simp [rows]
  simp only [hrow, readLine_row p _ _ hlast hsep, Option.map_some]

end Script

namespace Line

def calm : Bool → List Line → Bool
  | _, [] => true
  | seen, l :: ls =>
    match l.kind with
    | .context => calm false ls
    | .add => calm true ls
    | .delete => !seen && calm seen ls

theorem calm_of_seen {ls : List Line} (h : calm true ls = true) : calm false ls = true := by
  cases ls with
  | nil => rfl
  | cons l ls =>
    cases hk : l.kind <;> simp_all [calm]

theorem calm_of_cons {seen : Bool} {l : Line} {ls : List Line} (hk : l.kind ≠ .context)
    (h : calm seen (l :: ls) = true) : calm seen ls = true := by
  cases hkind : l.kind with
  | context => exact absurd hkind hk
  | add =>
    simp only [calm, hkind] at h
    cases seen
    · exact calm_of_seen h
    · exact h
  | delete =>
    simp only [calm, hkind, Bool.and_eq_true] at h
    exact h.2

theorem calm_filter (q : Line × Nat → Bool) :
    ∀ (ls : List Line) (k : Nat) (seen : Bool),
      (∀ pr ∈ ls.zipIdx k, pr.1.kind = .context → q pr = true) → calm seen ls = true →
        calm seen (((ls.zipIdx k).filter q).map (·.1)) = true
  | [], _, _, _, _ => rfl
  | l :: ls, k, seen, hq, h => by
    have hq' : ∀ pr ∈ ls.zipIdx (k + 1), pr.1.kind = .context → q pr = true :=
      fun pr hpr => hq pr (List.mem_cons_of_mem _ hpr)
    rw [List.zipIdx_cons, List.filter_cons]
    by_cases hkeep : q (l, k) = true
    · rw [if_pos hkeep, List.map_cons]
      cases hkind : l.kind <;> simp only [calm, hkind, Bool.and_eq_true] at h ⊢
      · exact calm_filter q ls (k + 1) false hq' h
      · exact calm_filter q ls (k + 1) true hq' h
      · exact ⟨h.1, calm_filter q ls (k + 1) seen hq' h.2⟩
    · rw [if_neg hkeep]
      have hk : l.kind ≠ .context := fun hk => hkeep (hq (l, k) List.mem_cons_self hk)
      exact calm_filter q ls (k + 1) seen hq' (calm_of_cons hk h)

theorem settled_of_calm {seen : Bool} : ∀ {ls : List Line}, calm seen ls = true → Settled ls
  | [], _ => List.IsChain.nil
  | [_], _ => List.IsChain.singleton _
  | l :: m :: ls, h => by
    rw [Settled, List.isChain_cons_cons]
    cases hkind : l.kind <;> simp only [calm, hkind, Bool.and_eq_true] at h
    · exact ⟨by simp, settled_of_calm h⟩
    · refine ⟨fun hm => ?_, settled_of_calm h⟩
      simp [hm.2] at h
    · exact ⟨by simp, settled_of_calm h.2⟩

theorem calm_of_settled : ∀ {ls : List Line} {seen : Bool}, Settled ls →
    (seen = true → ∀ m ∈ ls.head?, m.kind ≠ .delete) → calm seen ls = true
  | [], _, _, _ => rfl
  | l :: ls, seen, h, hseen => by
    have hrest : Settled ls := h.tail
    cases hkind : l.kind with
    | context => simpa [calm, hkind] using calm_of_settled hrest (by simp)
    | add =>
      have hnext : ∀ m ∈ ls.head?, m.kind ≠ .delete := by
        intro m hm hd
        obtain ⟨rest, rfl⟩ : ∃ rest, ls = m :: rest := by
          cases ls with
          | nil => simp at hm
          | cons m' rest => simp at hm; exact ⟨rest, by rw [hm]⟩
        exact (List.isChain_cons_cons.mp h).1 ⟨hkind, hd⟩
      simpa [calm, hkind] using calm_of_settled hrest fun _ => hnext
    | delete =>
      have hs : seen = false := by
        cases seen
        · rfl
        · exact absurd hkind (hseen rfl l rfl)
      subst hs
      simpa [calm, hkind] using calm_of_settled hrest (by simp)

theorem settled_iff_calm {ls : List Line} : Settled ls ↔ calm false ls = true :=
  ⟨fun h => calm_of_settled h (by simp), settled_of_calm⟩

end Line

namespace Script

theorem cancelPairs_kinds (p : Policy) (diff : List Line) :
    ∀ pr ∈ cancelPairs p diff,
      (diff[pr.1]?).map (·.kind) = some .delete ∧ (diff[pr.2]?).map (·.kind) = some .add := by
  unfold cancelPairs
  refine List.foldlRecOn (motive := fun (pairs : List (Nat × Nat)) => ∀ pr ∈ pairs,
    (diff[pr.1]?).map (·.kind) = some .delete ∧ (diff[pr.2]?).map (·.kind) = some .add)
    _ _ (by simp) ?_
  intro pairs hpairs i _ pr hpr
  simp only [List.getElem?_toArray] at hpr
  split at hpr
  next l hl =>
    split at hpr
    next hdel =>
      split at hpr
      next j hj =>
        rcases List.mem_append.mp hpr with hpr | hpr
        · exact hpairs pr hpr
        · obtain rfl := List.mem_singleton.mp hpr
          have hpick := List.find?_some hj
          simp only [Bool.and_eq_true, decide_eq_true_eq] at hdel hpick
          refine ⟨by simp [hl, hdel.1], ?_⟩
          obtain ⟨-, hadd⟩ := hpick
          split at hadd
          next o ho => simp_all
          next => simp at hadd
      next => exact hpairs pr hpr
    next => exact hpairs pr hpr
  next => exact hpairs pr hpr

theorem calm_annihilate (p : Policy) {diff : List Line} (h : Line.calm false diff = true) :
    Line.calm false (annihilate p diff).1 = true := by
  unfold annihilate
  apply Line.calm_filter _ diff 0 false _ h
  rintro ⟨l, i⟩ hpr hctx
  have hget : diff[i]? = some l := List.mem_zipIdx_iff_getElem?.mp hpr
  replace hctx : l.kind = .context := hctx
  simp only [Bool.not_eq_eq_eq_not, Bool.not_true, List.contains_eq_mem, decide_eq_false_iff_not,
    List.mem_flatMap]
  rintro ⟨pr, hmem, hi⟩
  have hk := cancelPairs_kinds p diff pr hmem
  simp only [List.mem_cons, List.not_mem_nil, or_false] at hi
  rcases hi with rfl | rfl
  · simp [hget, hctx] at hk
  · simp [hget, hctx] at hk

theorem settled_build (p : Policy) (oldText newText : String) :
    Line.Settled (build p oldText newText) := by
  unfold build
  rw [Line.settled_iff_calm]
  exact calm_annihilate p (Line.settled_iff_calm.mp (Line.reorder_settled _))

theorem kept_append (D : List Line) :
    kept D ++ (D.reverse.takeWhile isBlankContext).reverse = D := by
  conv_rhs => rw [← List.reverse_reverse D,
    ← List.takeWhile_append_dropWhile (p := isBlankContext) (l := D.reverse)]
  rw [List.reverse_append, kept]

theorem settled_kept_build (p : Policy) (oldText newText : String) :
    Line.Settled (kept (build p oldText newText)) := by
  have hpre : kept (build p oldText newText) <+: build p oldText newText :=
    ⟨_, kept_append _⟩
  exact List.IsChain.prefix (settled_build p oldText newText) hpre

theorem reorder_kept_build (p : Policy) (oldText newText : String) :
    Line.reorder (kept (build p oldText newText)) = (kept (build p oldText newText), 0) :=
  Line.reorder_of_settled (settled_kept_build p oldText newText)

theorem read_lines (p : Policy) (src : List Line) (text : String) :
    (Patch.read p src text).lines = (Line.reorder (Patch.readLines p src text)).1 := by
  simp only [Patch.read, Line.reorder]

theorem kinds_readBackAll (p : Policy) (D : List Line) :
    (readBackAll p D).map (·.kind) = D.map (·.kind) := by
  apply List.ext_getElem (by simp [readBackAll])
  intro i _ _
  simp [readBackAll]

theorem read_render (p : Policy) (src : List Line) {D : List Line}
    (hbreak : ∀ l ∈ D, '\n' ∉ l.text.toList ∧ '\r' ∉ l.text.toList)
    (hsome : ∃ l ∈ D, isBlankContext l = false) :
    (Patch.read p src (render D)).lines =
      (Strand.ofLines (kept D)).reorder.1.order.filterMap ((readBackAll p (kept D))[·]?) := by
  rw [read_lines, readLines_render p src hbreak hsome, Line.reorder_eq_filterMap,
    Line.reorder_order_congr (kinds_readBackAll p (kept D))]

theorem read_generate (p : Policy) (src : List Line) (oldText newText : String)
    (hbreak : ∀ l ∈ build p oldText newText, '\n' ∉ l.text.toList ∧ '\r' ∉ l.text.toList)
    (hsome : ∃ l ∈ build p oldText newText, isBlankContext l = false) :
    (Patch.read p src (generate p oldText newText)).lines =
      readBackAll p (kept (build p oldText newText)) := by
  have hsettled := settled_kept_build p oldText newText
  have hlen : (kept (build p oldText newText)).length =
      (readBackAll p (kept (build p oldText newText))).length := by simp [readBackAll]
  rw [generate, read_render p src hbreak hsome, Line.reorder_ofLines_of_settled hsettled,
    Strand.order_ofLines, hlen, Line.filterMap_range_getElem?]

/-- Writing a script and reading it back gives one line for each line kept, that is, each
line but the blank context lines at the end: of the same kind, with its text as `readBack`
says, and in the order that reordering gives the kept lines. A generated script is
already in that order, so it reads back in the order it was written. -/
theorem render_reads_back (p : Policy) (src : List Line) (D : List Line)
    (hbreak : ∀ l ∈ D, '\n' ∉ l.text.toList ∧ '\r' ∉ l.text.toList)
    (hsome : ∃ l ∈ D, isBlankContext l = false) :
    (∃ σ : List Nat, σ.Perm (List.range (kept D).length) ∧
      (Line.reorder (kept D)).1 = σ.filterMap ((kept D)[·]?) ∧
      (Patch.read p src (render D)).lines = σ.filterMap ((readBackAll p (kept D))[·]?)) ∧
    ∀ oldText newText : String,
      (Line.reorder (kept (build p oldText newText))).1 = kept (build p oldText newText) ∧
      ((∀ l ∈ build p oldText newText, '\n' ∉ l.text.toList ∧ '\r' ∉ l.text.toList) →
        (∃ l ∈ build p oldText newText, isBlankContext l = false) →
        (Patch.read p src (generate p oldText newText)).lines =
          readBackAll p (kept (build p oldText newText))) := by
  refine ⟨⟨_, Line.reorder_order_perm (kept D), Line.reorder_eq_filterMap (kept D),
    read_render p src hbreak hsome⟩, fun oldText newText => ⟨?_, read_generate p src oldText newText⟩⟩
  rw [reorder_kept_build]

theorem render_reads_back_example :
    let D : List Line := [{ index := 0, text := "x", kind := .add },
      { index := 1, text := "y", kind := .delete }, { index := 2, text := " ", kind := .context }]
    (∀ l ∈ D, '\n' ∉ l.text.toList ∧ '\r' ∉ l.text.toList) ∧ (∃ l ∈ D, isBlankContext l = false) ∧
    ((∃ σ : List Nat, σ.Perm (List.range (kept D).length) ∧
      (Line.reorder (kept D)).1 = σ.filterMap ((kept D)[·]?) ∧
      (Patch.read .whitespace [] (render D)).lines =
        σ.filterMap ((readBackAll .whitespace (kept D))[·]?)) ∧
    ∀ oldText newText : String,
      (Line.reorder (kept (build .whitespace oldText newText))).1 =
        kept (build .whitespace oldText newText) ∧
      ((∀ l ∈ build .whitespace oldText newText, '\n' ∉ l.text.toList ∧ '\r' ∉ l.text.toList) →
        (∃ l ∈ build .whitespace oldText newText, isBlankContext l = false) →
        (Patch.read .whitespace [] (generate .whitespace oldText newText)).lines =
          readBackAll .whitespace (kept (build .whitespace oldText newText)))) :=
  ⟨by decide, by decide, render_reads_back _ _ _ (by decide) (by decide)⟩

end Script

end LinePatch
