import LinePatch.Proofs.RunBalance
import Mathlib.Data.List.Nodup

/-!
# The layout of a script

How a script is laid out from two linked texts, before context is cut. An old line that is
linked and not moved is written as context, at the place of its partner among the new
lines, and these pairs go up on both sides. In front of each of them stand the new lines
added since the pair before, and then the old lines deleted since the pair before; after
the last pair come the remaining additions and deletions. A run of a laid-out script is
therefore what lies between two consecutive pairs written as context.
-/

namespace LinePatch

namespace Script

/-- The slots before `n` that pass a test. -/
def countBefore (P : Nat → Bool) (n : Nat) : Nat := ((List.range n).filter P).length

@[simp] theorem countBefore_zero (P : Nat → Bool) : countBefore P 0 = 0 := rfl

theorem countBefore_succ (P : Nat → Bool) (n : Nat) :
    countBefore P (n + 1) = countBefore P n + if P n then 1 else 0 := by
  by_cases h : P n <;> simp [countBefore, List.range_succ, List.filter_append, h]

@[simp] theorem countBefore_true (n : Nat) : countBefore (fun _ => true) n = n := by
  simp [countBefore]

theorem countBefore_split (P Q : Nat → Bool) (n : Nat) :
    countBefore (fun x => P x && Q x) n + countBefore (fun x => !P x && Q x) n =
      countBefore Q n := by
  induction n with
  | zero => rfl
  | succ n ih =>
    rw [countBefore_succ, countBefore_succ, countBefore_succ, ← ih]
    cases P n <;> cases Q n <;> simp <;> omega

section Moved

variable (a : Alignment)

/-- One step of the moved-line scan: the moved lines so far, and the earliest new place
that a later linked old line goes to. -/
def movedStep (acc : List Nat × Option Nat) (i : Nat) : List Nat × Option Nat :=
  let target := (a.patchOf i).getD 0
  (match acc.2 with
    | some e => if e < target then i :: acc.1 else acc.1
    | none => acc.1,
   match acc.2 with
    | some e => some (min e target)
    | none => some target)

theorem movedLines_eq (n : Nat) :
    movedLines a n =
      (((List.range n).filter fun i => (a.patchOf i).isSome).reverse.foldl (movedStep a)
        ([], none)).1 := by
  unfold movedLines
  rfl

private theorem mem_movedStep (acc : List Nat × Option Nat) (x i : Nat) :
    i ∈ (movedStep a acc x).1 ↔
      (i = x ∧ ∃ e, acc.2 = some e ∧ e < (a.patchOf x).getD 0) ∨ i ∈ acc.1 := by
  obtain ⟨m, e⟩ := acc
  cases e with
  | none => simp [movedStep]
  | some e => by_cases h : e < (a.patchOf x).getD 0 <;> simp [movedStep, h]

private theorem earliest_movedStep (acc : List Nat × Option Nat) (x v : Nat) :
    (∃ e, (movedStep a acc x).2 = some e ∧ e < v) ↔
      (a.patchOf x).getD 0 < v ∨ ∃ e, acc.2 = some e ∧ e < v := by
  obtain ⟨m, e⟩ := acc
  cases e with
  | none => simp [movedStep]
  | some e =>
    simp only [movedStep, Option.some.injEq, exists_eq_left']
    omega

private theorem foldr_movedStep_earliest (l : List Nat) (v : Nat) :
    (∃ e, (l.foldr (fun i acc => movedStep a acc i) ([], none)).2 = some e ∧ e < v) ↔
      ∃ i ∈ l, (a.patchOf i).getD 0 < v := by
  induction l with
  | nil => simp
  | cons x l ih =>
    rw [List.foldr_cons, earliest_movedStep, ih]
    simp

private theorem foldr_movedStep_moved (l : List Nat) (hl : l.Pairwise (· < ·)) (i : Nat) :
    i ∈ (l.foldr (fun i acc => movedStep a acc i) ([], none)).1 ↔
      i ∈ l ∧ ∃ i' ∈ l, i < i' ∧ (a.patchOf i').getD 0 < (a.patchOf i).getD 0 := by
  induction l with
  | nil => simp
  | cons x l ih =>
    rw [List.foldr_cons, mem_movedStep, foldr_movedStep_earliest, ih hl.of_cons]
    have hx : ∀ y ∈ l, x < y := fun y hy => List.rel_of_pairwise_cons hl hy
    constructor
    · rintro (⟨rfl, i', hi', hlt⟩ | ⟨hi, i', hi', hii', hlt⟩)
      · exact ⟨List.mem_cons_self, i', List.mem_cons_of_mem _ hi', hx i' hi', hlt⟩
      · exact ⟨List.mem_cons_of_mem _ hi, i', List.mem_cons_of_mem _ hi', hii', hlt⟩
    · rintro ⟨hi, i', hi', hii', hlt⟩
      by_cases hix : i = x
      · subst hix
        have hi'l : i' ∈ l := List.mem_of_ne_of_mem (Nat.ne_of_gt hii') hi'
        exact Or.inl ⟨rfl, i', hi'l, hlt⟩
      · have hil : i ∈ l := List.mem_of_ne_of_mem hix hi
        have hi'l : i' ∈ l := List.mem_of_ne_of_mem (by have := hx i hil; omega) hi'
        exact Or.inr ⟨hil, i', hi'l, hii', hlt⟩

theorem mem_movedLines (n i : Nat) :
    i ∈ movedLines a n ↔ i < n ∧ (a.patchOf i).isSome ∧
      ∃ i', i < i' ∧ i' < n ∧ (a.patchOf i').isSome ∧
        (a.patchOf i').getD 0 < (a.patchOf i).getD 0 := by
  rw [movedLines_eq, List.foldl_reverse,
    foldr_movedStep_moved a _ (List.pairwise_lt_range.filter _)]
  simp only [List.mem_filter, List.mem_range]
  constructor
  · rintro ⟨⟨hi, hsome⟩, i', ⟨hi', hsome'⟩, hii', hlt⟩
    exact ⟨hi, hsome, i', hii', hi', hsome', hlt⟩
  · rintro ⟨hi, hsome, i', hii', hi', hsome', hlt⟩
    exact ⟨⟨hi, hsome⟩, i', ⟨hi', hsome'⟩, hii', hlt⟩

end Moved

/-- An alignment of the lines of `old` with those of `new`: its two views name the same
pairs, and every pair lies within both texts. -/
structure Matches (a : Alignment) (old new : List String) : Prop where
  symm : ∀ i j, a.patchOf i = some j ↔ a.sourceOf j = some i
  bound : ∀ i j, a.patchOf i = some j → i < old.length ∧ j < new.length

/-- An old line written as a deletion: not linked, or moved. -/
def removed (a : Alignment) (old : List String) (i : Nat) : Bool :=
  (a.patchOf i).isNone || (movedLines a old.length).contains i

/-- A new line written as context: linked to an old line that is not removed. -/
def keptNew (a : Alignment) (old : List String) (j : Nat) : Bool :=
  (a.sourceOf j).any fun i => !removed a old i

section Pairs

variable {a : Alignment} {old new : List String}

theorem Matches.inj (hm : Matches a old new) {i i' j : Nat} (h : a.patchOf i = some j)
    (h' : a.patchOf i' = some j) : i = i' := by
  have h₁ := (hm.symm i j).mp h
  rw [(hm.symm i' j).mp h'] at h₁
  exact (Option.some.inj h₁).symm

theorem removed_of_patchOf {i j : Nat} (h : a.patchOf i = some j) :
    removed a old i = (movedLines a old.length).contains i := by
  simp [removed, h]

theorem keptNew_iff (hm : Matches a old new) (j : Nat) :
    keptNew a old j = true ↔ ∃ i, a.patchOf i = some j ∧ removed a old i = false := by
  constructor
  · intro h
    obtain ⟨i, hi, hr⟩ := (Option.any_eq_true _ _).mp h
    exact ⟨i, (hm.symm i j).mpr hi, by simpa using hr⟩
  · rintro ⟨i, hi, hr⟩
    exact (Option.any_eq_true _ _).mpr ⟨i, (hm.symm i j).mp hi, by simp [hr]⟩

theorem lt_iff_of_kept (hm : Matches a old new) {i i' j j' : Nat} (h : a.patchOf i = some j)
    (h' : a.patchOf i' = some j') (hr : removed a old i = false)
    (hr' : removed a old i' = false) : i < i' ↔ j < j' := by
  -- a line that is not moved goes before every later linked line
  have hup : ∀ {x x' y y' : Nat}, a.patchOf x = some y → a.patchOf x' = some y' →
      removed a old x = false → x < x' → y < y' := by
    intro x x' y y' hx hx' hrx hlt
    have hne : y ≠ y' := fun hyy => Nat.ne_of_lt hlt (hm.inj hx (hyy ▸ hx'))
    by_contra hge
    have hmoved : x ∈ movedLines a old.length := by
      rw [mem_movedLines]
      exact ⟨(hm.bound x y hx).1, by simp [hx], x', hlt, (hm.bound x' y' hx').1, by simp [hx'],
        by simp [hx, hx']; omega⟩
    rw [removed_of_patchOf hx] at hrx
    simp [hmoved] at hrx
  constructor
  · exact hup h h' hr
  · intro hjj
    rcases Nat.lt_trichotomy i i' with hlt | rfl | hgt
    · exact hlt
    · rw [h] at h'
      cases h'
      omega
    · have := hup h' h hr' hgt
      omega

end Pairs

section Runs

theorem deletedRun_spec (old : List String) (deleted : Nat → Bool) (q : String → Bool)
    {b : Nat} (hstop : b = 0 ∨ deleted (b - 1) = false) :
    ∀ i, b ≤ i → (∀ x, b ≤ x → x < i → deleted x = true) → ∀ fuel, i ≤ fuel →
      (∀ l ∈ deletedRun old deleted fuel (if i = 0 then none else some (i - 1)),
          l.kind = .delete) ∧
        totalWeight q (deletedRun old deleted fuel (if i = 0 then none else some (i - 1))) +
            countBefore (fun x => deleted x && q (old.getD x "")) i =
          countBefore (fun x => deleted x && q (old.getD x "")) b := by
  intro i hbi
  induction i, hbi using Nat.le_induction with
  | base =>
    intro _ fuel hfuel
    have hnil : deletedRun old deleted fuel (if b = 0 then none else some (b - 1)) = [] := by
      by_cases hb : b = 0
      · subst hb
        cases fuel <;> rfl
      · obtain ⟨f, rfl⟩ : ∃ f, fuel = f + 1 := ⟨fuel - 1, by omega⟩
        have hd : deleted (b - 1) = false := hstop.resolve_left hb
        simp [deletedRun, hb, hd]
    simp [hnil]
  | succ i hbi ih =>
    intro hdel fuel hfuel
    obtain ⟨f, rfl⟩ : ∃ f, fuel = f + 1 := ⟨fuel - 1, by omega⟩
    have hi : deleted i = true := hdel i hbi (Nat.lt_succ_self i)
    obtain ⟨hkinds, hweight⟩ := ih (fun x hx hxi => hdel x hx (by omega)) f (by omega)
    have hrun : deletedRun old deleted (f + 1) (if i + 1 = 0 then none else some (i + 1 - 1)) =
        deletedRun old deleted f (if i = 0 then none else some (i - 1)) ++
          [{ index := i, text := old.getD i "", kind := .delete }] := by
      simp [deletedRun, hi]
    rw [hrun]
    refine ⟨fun l hl => ?_, ?_⟩
    · rcases List.mem_append.mp hl with hl | hl
      · exact hkinds l hl
      · rw [List.mem_singleton.mp hl]
    · rw [totalWeight_append, countBefore_succ, hi, Bool.true_and, ← hweight, totalWeight_cons,
        totalWeight_nil]
      by_cases hq : q (old.getD i "") = true
      · simp only [weight, hq, if_true]
        omega
      · simp only [weight, hq, Bool.false_eq_true, if_false]
        omega

end Runs

section Layout

/-- The lines a script writes for one new line: an addition, or the deleted old lines in
front of its partner and then the line itself as context. -/
def segment (a : Alignment) (old : List String) : String × Nat → List Line
  | (t, j) =>
    match a.sourceOf j with
    | some i =>
      if (movedLines a old.length).contains i then [{ index := j, text := t, kind := .add }]
      else deletedRun old (removed a old) (old.length + 1) (if i = 0 then none else some (i - 1)) ++
        [{ index := j, text := t, kind := .context }]
    | none => [{ index := j, text := t, kind := .add }]

theorem ofAlignment_eq (old new : List String) (a : Alignment) :
    ofAlignment old new a = new.zipIdx.flatMap (segment a old) ++
      deletedRun old (removed a old) (old.length + 1)
        (if old.length = 0 then none else some (old.length - 1)) := by
  unfold ofAlignment
  rfl

def addedBefore (a : Alignment) (old new : List String) (q : String → Bool) : Nat → Nat :=
  countBefore fun y => !keptNew a old y && q (new.getD y "")

def deletedBefore (a : Alignment) (old : List String) (q : String → Bool) : Nat → Nat :=
  countBefore fun x => removed a old x && q (old.getD x "")

/-- What reading the script of the new lines before `j` leaves. The last pair written as
context is `(b - 1, e - 1)`, or there is none yet and `b = e = 0`; the new lines from `e`
on are additions, and the open run weighs what they weigh; and as long as every run came
out even, in front of the boundary and of each pair written as context, as many lines were
added as deleted. -/
private structure LayoutRead (a : Alignment) (old new : List String) (q : String → Bool)
    (j : Nat) (st : Bool × Int) (b e : Nat) : Prop where
  le : e ≤ j
  sync : b = 0 ∧ e = 0 ∨
    0 < b ∧ 0 < e ∧ a.patchOf (b - 1) = some (e - 1) ∧ removed a old (b - 1) = false
  adds : ∀ y, e ≤ y → y < j → keptNew a old y = false
  open_run : st.2 = (addedBefore a old new q j : Int) - addedBefore a old new q e
  even : st.1 = true → addedBefore a old new q e = deletedBefore a old q b ∧
    ∀ i y, y < j → a.patchOf i = some y → removed a old i = false →
      addedBefore a old new q y = deletedBefore a old q i

variable {a : Alignment} {old new : List String} (q : String → Bool)

private theorem removed_between (hm : Matches a old new) {j b e : Nat} {st : Bool × Int}
    (h : LayoutRead a old new q j st b e) {i : Nat}
    (hi : ∀ x y, a.patchOf x = some y → removed a old x = false → x < i → y < j) :
    ∀ x, b ≤ x → x < i → removed a old x = true := by
  intro x hbx hxi
  by_contra hx
  simp only [Bool.not_eq_true] at hx
  obtain ⟨y, hy⟩ : ∃ y, a.patchOf x = some y := by
    cases h' : a.patchOf x with
    | none => simp [removed, h'] at hx
    | some y => exact ⟨y, rfl⟩
  have hey : e ≤ y := by
    rcases h.sync with ⟨rfl, rfl⟩ | ⟨hb, he, hbe, hrb⟩
    · exact Nat.zero_le _
    · have := (lt_iff_of_kept hm hbe hy hrb hx).mp (by omega)
      omega
  have hadd := h.adds y hey (hi x y hy hx hxi)
  rw [(keptNew_iff hm y).mpr ⟨x, hy, hx⟩] at hadd
  exact absurd hadd (by decide)

private theorem layoutRead_add (hm : Matches a old new) {j b e : Nat} {st : Bool × Int}
    (h : LayoutRead a old new q j st b e) (hj : j < new.length)
    (hk : keptNew a old j = false) :
    LayoutRead a old new q (j + 1)
      (balanceStep q st { index := j, text := new[j], kind := .add }) b e := by
  have hadd : addedBefore a old new q (j + 1) =
      addedBefore a old new q j + if q new[j] then 1 else 0 := by
    simp [addedBefore, countBefore_succ, hk, hj]
  rw [balanceStep_change q (by simp)]
  refine ⟨Nat.le_succ_of_le h.le, h.sync, fun y hey hyj => ?_, ?_, fun hok => ?_⟩
  · rcases Nat.lt_succ_iff_lt_or_eq.mp hyj with hyj | rfl
    · exact h.adds y hey hyj
    · exact hk
  · rw [h.open_run, hadd]
    by_cases hq : q new[j] = true
    · simp [weight, hq]
      omega
    · simp [weight, hq]
  · obtain ⟨hbe, hpairs⟩ := h.even hok
    refine ⟨hbe, fun i y hyj hiy hr => ?_⟩
    rcases Nat.lt_succ_iff_lt_or_eq.mp hyj with hyj | rfl
    · exact hpairs i y hyj hiy hr
    · rw [(keptNew_iff hm y).mpr ⟨i, hiy, hr⟩] at hk
      exact absurd hk (by decide)

private theorem layoutRead_context (hm : Matches a old new) {j b e : Nat} {st : Bool × Int}
    (h : LayoutRead a old new q j st b e) (hj : j < new.length)
    {i : Nat} (hi : a.patchOf i = some j) (hr : removed a old i = false) :
    LayoutRead a old new q (j + 1)
      ((deletedRun old (removed a old) (old.length + 1) (if i = 0 then none else some (i - 1)) ++
        [({ index := j, text := new[j], kind := .context } : Line)]).foldl (balanceStep q) st)
      (i + 1) (j + 1) := by
  have hbi : b ≤ i := by
    rcases h.sync with ⟨rfl, -⟩ | ⟨hb, he, hbe, hrb⟩
    · exact Nat.zero_le _
    · have := (lt_iff_of_kept hm hbe hi hrb hr).mpr (by have := h.le; omega)
      omega
  have hdel := removed_between q hm h fun x y hxy hrx hxi =>
    (lt_iff_of_kept hm hxy hi hrx hr).mp hxi
  have hstop : b = 0 ∨ removed a old (b - 1) = false := by
    rcases h.sync with ⟨rfl, -⟩ | ⟨-, -, -, hrb⟩
    · exact Or.inl rfl
    · exact Or.inr hrb
  obtain ⟨hkinds, hweight⟩ := deletedRun_spec old (removed a old) q hstop i hbi hdel
    (old.length + 1) (by have := (hm.bound i j hi).1; omega)
  have hk : keptNew a old j = true := (keptNew_iff hm j).mpr ⟨i, hi, hr⟩
  have hadd : addedBefore a old new q (j + 1) = addedBefore a old new q j := by
    simp [addedBefore, countBefore_succ, hk]
  have hdels : deletedBefore a old q (i + 1) = deletedBefore a old q i := by
    simp [deletedBefore, countBefore_succ, hr]
  have hchanges : ∀ l ∈ deletedRun old (removed a old) (old.length + 1)
      (if i = 0 then none else some (i - 1)), l.kind ≠ .context := fun l hl => by
    rw [hkinds l hl]
    decide
  rw [List.foldl_append, foldl_balanceStep_changes q hchanges, List.foldl_cons, List.foldl_nil,
    balanceStep_context q rfl]
  refine ⟨le_rfl, Or.inr ⟨by omega, by omega, by simpa using hi, by simpa using hr⟩,
    fun y hy hy' => absurd hy' (by omega), by simp, fun hok => ?_⟩
  simp only [Bool.and_eq_true, beq_iff_eq] at hok
  obtain ⟨hbe, hpairs⟩ := h.even hok.1
  -- the run in front of this pair came out even, so the pair is balanced too
  have hpair : addedBefore a old new q j = deletedBefore a old q i := by
    have := h.open_run
    have := hok.2
    unfold deletedBefore at hbe ⊢
    omega
  refine ⟨by rw [hadd, hdels, hpair], fun i' y hyj hiy hr' => ?_⟩
  rcases Nat.lt_succ_iff_lt_or_eq.mp hyj with hyj | rfl
  · exact hpairs i' y hyj hiy hr'
  · rw [hm.inj hiy hi]
    exact hpair

private theorem layoutRead_step (hm : Matches a old new) {j b e : Nat} {st : Bool × Int}
    (h : LayoutRead a old new q j st b e) (hj : j < new.length) :
    ∃ b' e', LayoutRead a old new q (j + 1)
      ((segment a old (new[j], j)).foldl (balanceStep q) st) b' e' := by
  cases hs : a.sourceOf j with
  | none =>
    have hk : keptNew a old j = false := by simp [keptNew, hs]
    simp only [segment, hs, List.foldl_cons, List.foldl_nil]
    exact ⟨b, e, layoutRead_add q hm h hj hk⟩
  | some i =>
    have hi : a.patchOf i = some j := (hm.symm i j).mpr hs
    by_cases hmv : (movedLines a old.length).contains i = true
    · have hmem : i ∈ movedLines a old.length := by simpa using hmv
      have hk : keptNew a old j = false := by simp [keptNew, hs, removed_of_patchOf hi, hmem]
      simp only [segment, hs, hmv, if_true, List.foldl_cons, List.foldl_nil]
      exact ⟨b, e, layoutRead_add q hm h hj hk⟩
    · have hr : removed a old i = false := by simpa [removed_of_patchOf hi] using hmv
      simp only [segment, hs, hmv, Bool.false_eq_true, if_false]
      exact ⟨i + 1, j + 1, layoutRead_context q hm h hj hi hr⟩

private theorem layoutRead_foldl (hm : Matches a old new) :
    ∀ j ≤ new.length, ∃ b e, LayoutRead a old new q j
      ((new.zipIdx.take j).foldl (fun st x => (segment a old x).foldl (balanceStep q) st)
        (true, 0)) b e
  | 0, _ => ⟨0, 0, le_rfl, Or.inl ⟨rfl, rfl⟩, fun _ _ hy => absurd hy (Nat.not_lt_zero _),
      by simp, fun _ => ⟨rfl, fun _ _ hy => absurd hy (Nat.not_lt_zero _)⟩⟩
  | j + 1, hj => by
    obtain ⟨b, e, h⟩ := layoutRead_foldl hm j (by omega)
    have hlt : j < new.length := by omega
    have htake : new.zipIdx.take (j + 1) = new.zipIdx.take j ++ [(new[j], j)] := by
      rw [List.take_add_one, List.getElem?_zipIdx, List.getElem?_eq_getElem hlt]
      simp
    rw [htake, List.foldl_append, List.foldl_cons, List.foldl_nil]
    exact layoutRead_step q hm h hlt

theorem added_eq_deleted (hm : Matches a old new)
    (h : runBalance q (ofAlignment old new a) = (true, 0)) :
    (∀ i j, a.patchOf i = some j → removed a old i = false →
        addedBefore a old new q j = deletedBefore a old q i) ∧
      addedBefore a old new q new.length = deletedBefore a old q old.length := by
  obtain ⟨b, e, hread⟩ := layoutRead_foldl q hm new.length le_rfl
  rw [List.take_of_length_le (by simp)] at hread
  rw [ofAlignment_eq, runBalance_append, runBalance, List.foldl_flatMap] at h
  have hbo : b ≤ old.length := by
    rcases hread.sync with ⟨rfl, -⟩ | ⟨hb, -, hbe, -⟩
    · exact Nat.zero_le _
    · have := (hm.bound _ _ hbe).1
      omega
  have hdel := removed_between q hm hread (i := old.length) fun x y hxy _ _ => (hm.bound x y hxy).2
  have hstop : b = 0 ∨ removed a old (b - 1) = false := by
    rcases hread.sync with ⟨rfl, -⟩ | ⟨-, -, -, hrb⟩
    · exact Or.inl rfl
    · exact Or.inr hrb
  obtain ⟨hkinds, hweight⟩ := deletedRun_spec old (removed a old) q hstop old.length hbo hdel
    (old.length + 1) (Nat.le_succ _)
  have hchanges : ∀ l ∈ deletedRun old (removed a old) (old.length + 1)
      (if old.length = 0 then none else some (old.length - 1)), l.kind ≠ .context := by
    intro l hl
    rw [hkinds l hl]
    decide
  rw [foldl_balanceStep_changes q hchanges] at h
  simp only [Prod.mk.injEq] at h
  obtain ⟨hbe, hpairs⟩ := hread.even h.1
  refine ⟨fun i j hij hr => hpairs i j (hm.bound i j hij).2 hij hr, ?_⟩
  have := hread.open_run
  have := h.2
  unfold deletedBefore at hbe ⊢
  omega

theorem countBefore_kept (hm : Matches a old new)
    (hq : ∀ i j, a.patchOf i = some j → q (old.getD i "") = q (new.getD j ""))
    {i j : Nat}
    (hcut : ∀ x y, a.patchOf x = some y → removed a old x = false → (x < i ↔ y < j)) :
    countBefore (fun x => !removed a old x && q (old.getD x "")) i =
      countBefore (fun y => keptNew a old y && q (new.getD y "")) j := by
  let target := fun x => (a.patchOf x).getD 0
  have hlinked : ∀ x, removed a old x = false → a.patchOf x = some (target x) := by
    intro x hx
    cases h : a.patchOf x with
    | none => simp [removed, h] at hx
    | some y => simp [target, h]
  -- the partners of the kept lines before `i` are the kept lines before `j`
  have hperm : (((List.range i).filter fun x => !removed a old x && q (old.getD x "")).map
      target).Perm ((List.range j).filter fun y => keptNew a old y && q (new.getD y "")) := by
    refine (List.perm_ext_iff_of_nodup ?_ (List.nodup_range.filter _)).mpr ?_
    · refine List.Nodup.map_on (fun x hx x' hx' heq => ?_) (List.nodup_range.filter _)
      simp only [List.mem_filter, Bool.and_eq_true, Bool.not_eq_true'] at hx hx'
      exact hm.inj (hlinked x hx.2.1) (by rw [heq]; exact hlinked x' hx'.2.1)
    · intro y
      simp only [List.mem_map, List.mem_filter, List.mem_range, Bool.and_eq_true,
        Bool.not_eq_true']
      constructor
      · rintro ⟨x, ⟨hxi, hx, hqx⟩, rfl⟩
        have hxy := hlinked x hx
        refine ⟨(hcut x _ hxy hx).mp hxi, (keptNew_iff hm _).mpr ⟨x, hxy, hx⟩, ?_⟩
        rw [← hq x _ hxy]
        exact hqx
      · rintro ⟨hyj, hk, hqy⟩
        obtain ⟨x, hxy, hx⟩ := (keptNew_iff hm y).mp hk
        refine ⟨x, ⟨(hcut x y hxy hx).mpr hyj, hx, ?_⟩, by simp [target, hxy]⟩
        rw [hq x y hxy]
        exact hqy
  simp only [countBefore]
  rw [← hperm.length_eq, List.length_map]

theorem countBefore_eq_of_balanced (hm : Matches a old new)
    (hq : ∀ i j, a.patchOf i = some j → q (old.getD i "") = q (new.getD j ""))
    (h : runBalance q (ofAlignment old new a) = (true, 0)) :
    (∀ i j, a.patchOf i = some j → removed a old i = false →
        countBefore (fun x => q (old.getD x "")) i = countBefore (fun y => q (new.getD y "")) j) ∧
      countBefore (fun x => q (old.getD x "")) old.length =
        countBefore (fun y => q (new.getD y "")) new.length := by
  obtain ⟨hpairs, hend⟩ := added_eq_deleted q hm h
  -- each count is the lines written as changes and the lines kept as context
  have hold : ∀ i, countBefore (fun x => q (old.getD x "")) i = deletedBefore a old q i +
      countBefore (fun x => !removed a old x && q (old.getD x "")) i := fun i => by
    rw [deletedBefore, countBefore_split]
  have hnew : ∀ j, countBefore (fun y => q (new.getD y "")) j = addedBefore a old new q j +
      countBefore (fun y => keptNew a old y && q (new.getD y "")) j := fun j => by
    rw [addedBefore, Nat.add_comm, countBefore_split]
  refine ⟨fun i j hij hr => ?_, ?_⟩
  · rw [hold, hnew, hpairs i j hij hr,
      countBefore_kept q hm hq fun x y hxy hrx => lt_iff_of_kept hm hxy hij hrx hr]
  · rw [hold, hnew, hend, countBefore_kept q hm hq fun x y hxy _ =>
      iff_of_true (hm.bound x y hxy).1 (hm.bound x y hxy).2]

end Layout

end Script

end LinePatch
