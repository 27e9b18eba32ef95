import LinePatch.Proofs.CancelPairs
import Mathlib

/-!
# The runs of a script and their balance

A run of a script is what stands between two context lines. Reading a script line by line,
`balanceStep` keeps the balance of the open run, additions against deletions among the lines
whose text a test picks, and whether every run closed so far came out even.
-/

namespace LinePatch

namespace Script

section Reading

variable (q : String → Bool)

/-- A line's share in the balance of its run: an addition that the test picks counts one, a
deletion that it picks minus one, and anything else nothing. -/
def weight (l : Line) : Int :=
  match l.kind with
  | .context => 0
  | .add => if q l.text then 1 else 0
  | .delete => if q l.text then -1 else 0

/-- Reads one more line: a context line closes the open run, which has to come out even. -/
def balanceStep (st : Bool × Int) (l : Line) : Bool × Int :=
  if l.kind = .context then (st.1 && st.2 == 0, 0) else (st.1, st.2 + weight q l)

/-- The reading of a whole script. -/
def runBalance (ls : List Line) : Bool × Int := ls.foldl (balanceStep q) (true, 0)

/-- The balance of a stretch of lines taken together. -/
def totalWeight (ls : List Line) : Int := (ls.map (weight q)).sum

theorem weight_context {l : Line} (h : l.kind = .context) : weight q l = 0 := by
  simp [weight, h]

theorem balanceStep_context {l : Line} (h : l.kind = .context) (st : Bool × Int) :
    balanceStep q st l = (st.1 && st.2 == 0, 0) := by
  simp [balanceStep, h]

theorem balanceStep_change {l : Line} (h : l.kind ≠ .context) (st : Bool × Int) :
    balanceStep q st l = (st.1, st.2 + weight q l) := by
  simp [balanceStep, h]

theorem balanceStep_swap {x y : Line} (hx : x.kind ≠ .context) (hy : y.kind ≠ .context)
    (st : Bool × Int) :
    balanceStep q (balanceStep q st x) y = balanceStep q (balanceStep q st y) x := by
  rw [balanceStep_change q hx, balanceStep_change q hy, balanceStep_change q hy,
    balanceStep_change q hx, Int.add_right_comm]

theorem foldl_balanceStep_false (X : List Line) (c : Int) :
    (X.foldl (balanceStep q) (false, c)).1 = false := by
  induction X generalizing c with
  | nil => rfl
  | cons l X ih =>
    rw [List.foldl_cons]
    by_cases h : l.kind = .context
    · rw [balanceStep_context q h]
      exact ih 0
    · rw [balanceStep_change q h]
      exact ih _

theorem foldl_balanceStep_closed {B : List Line} (hB : ∀ l ∈ B, l.kind = .context) (b : Bool) :
    B.foldl (balanceStep q) (b, 0) = (b, 0) := by
  induction B with
  | nil => rfl
  | cons l B ih =>
    rw [List.foldl_cons, balanceStep_context q (hB l List.mem_cons_self)]
    simpa using ih fun m hm => hB m (List.mem_cons_of_mem _ hm)

theorem foldl_balanceStep_context {B : List Line} (hB : ∀ l ∈ B, l.kind = .context)
    (hne : B ≠ []) (st : Bool × Int) :
    B.foldl (balanceStep q) st = (st.1 && st.2 == 0, 0) := by
  obtain ⟨l, B', rfl⟩ := List.exists_cons_of_ne_nil hne
  rw [List.foldl_cons, balanceStep_context q (hB l List.mem_cons_self)]
  exact foldl_balanceStep_closed q (fun m hm => hB m (List.mem_cons_of_mem _ hm)) _

theorem foldl_balanceStep_changes {X : List Line} (hX : ∀ l ∈ X, l.kind ≠ .context)
    (st : Bool × Int) : X.foldl (balanceStep q) st = (st.1, st.2 + totalWeight q X) := by
  induction X generalizing st with
  | nil => simp [totalWeight]
  | cons l X ih =>
    rw [List.foldl_cons, balanceStep_change q (hX l List.mem_cons_self),
      ih (fun m hm => hX m (List.mem_cons_of_mem _ hm))]
    simp only [totalWeight, List.map_cons, List.sum_cons, Int.add_assoc]

@[simp] theorem totalWeight_nil : totalWeight q [] = 0 := rfl

@[simp] theorem totalWeight_cons (l : Line) (ls : List Line) :
    totalWeight q (l :: ls) = weight q l + totalWeight q ls := by
  rw [totalWeight, List.map_cons, List.sum_cons, totalWeight]

@[simp] theorem totalWeight_append (ls ms : List Line) :
    totalWeight q (ls ++ ms) = totalWeight q ls + totalWeight q ms := by
  rw [totalWeight, List.map_append, List.sum_append, totalWeight, totalWeight]

private theorem forall_cut_cons (l : Line) (X : List Line) (c : Int) :
    (∀ n ≤ (l :: X).length, (∀ m ∈ (l :: X)[n]?, m.kind = .context) →
        c + totalWeight q ((l :: X).take n) = 0) ↔
      (l.kind = .context → c = 0) ∧
        ∀ n ≤ X.length, (∀ m ∈ X[n]?, m.kind = .context) →
          c + weight q l + totalWeight q (X.take n) = 0 := by
  constructor
  · intro h
    refine ⟨fun hl => by simpa using h 0 (by simp) (by simpa using hl), fun n hn hcut => ?_⟩
    have := h (n + 1) (by simpa using hn) (by simpa using hcut)
    simp only [List.take_succ_cons, totalWeight_cons] at this
    omega
  · rintro ⟨h0, h⟩ n hn hcut
    cases n with
    | zero => simpa using h0 (hcut l (by simp))
    | succ n =>
      have := h n (by simpa using hn) (by simpa using hcut)
      simp only [List.take_succ_cons, totalWeight_cons]
      omega

theorem foldl_balanceStep_eq_iff (X : List Line) (c : Int) :
    X.foldl (balanceStep q) (true, c) = (true, 0) ↔
      ∀ n ≤ X.length, (∀ l ∈ X[n]?, l.kind = .context) →
        c + totalWeight q (X.take n) = 0 := by
  induction X generalizing c with
  | nil =>
    simp only [List.foldl_nil, Prod.mk.injEq, true_and, List.length_nil, Nat.le_zero,
      List.take_nil, totalWeight, List.map_nil, List.sum_nil, Int.add_zero]
    exact ⟨fun h n _ _ => h, fun h => h 0 rfl (by simp)⟩
  | cons l X ih =>
    rw [List.foldl_cons, forall_cut_cons]
    by_cases hl : l.kind = .context
    · -- a context line closes the run, which is even exactly when `c = 0`
      rw [balanceStep_context q hl, weight_context q hl, Int.add_zero]
      by_cases hc : c = 0
      · subst hc
        simp only [beq_self_eq_true, Bool.and_self]
        rw [ih 0]
        exact ⟨fun h => ⟨fun _ => trivial, h⟩, fun h => h.2⟩
      · have hfalse : (c == 0) = false := by simpa using hc
        simp only [hfalse, Bool.and_false]
        constructor
        · intro h
          have := foldl_balanceStep_false q X 0
          rw [h] at this
          exact absurd this (by decide)
        · rintro ⟨h0, -⟩
          exact absurd (h0 hl) hc
    · rw [balanceStep_change q hl, ih]
      exact ⟨fun h => ⟨fun h' => absurd h' hl, h⟩, fun h => h.2⟩

theorem runBalance_append (X Y : List Line) :
    runBalance q (X ++ Y) = Y.foldl (balanceStep q) (runBalance q X) := by
  rw [runBalance, List.foldl_append, runBalance]

end Reading

section Reorder

variable (q : String → Bool)

theorem runBalance_reorder (ls : List Line) :
    runBalance q (Line.reorder ls).1 = runBalance q ls :=
  Line.foldl_reorder (balanceStep q) (fun st _ _ hx hy =>
    balanceStep_swap q (by rw [hx]; decide) (by rw [hy]; decide) st) ls (true, 0)

end Reorder

section Truncate

/-- What a change writes of the context in front of it: a long buffer is cut down to its
ends, with a placeholder between them once something has been written. -/
def cutBuffer (k : Int) (out buf : List Line) : List Line :=
  if (buf.length : Int) > k * 2 then
    (if out.isEmpty then [] else leading k buf ++ [placeholder]) ++ trailing k buf
  else buf

/-- One step of cutting context: context goes to the buffer; a change writes the buffer,
cut down when it is long, and then itself. -/
def truncateStep (k : Int) (acc : List Line × List Line) (l : Line) : List Line × List Line :=
  if l.kind = .context then (acc.1, acc.2 ++ [l])
  else (acc.1 ++ cutBuffer k acc.1 acc.2 ++ [l], [])

theorem truncate_eq (k : Int) (diff : List Line) :
    truncate k diff =
      if (diff.foldl (truncateStep k) ([], [])).1.isEmpty then []
      else (diff.foldl (truncateStep k) ([], [])).1 ++
        leading k (diff.foldl (truncateStep k) ([], [])).2 := by
  -- the step of the fold is `truncateStep`, up to the eta rule of pairs
  unfold truncate
  rfl

theorem mem_of_mem_leading {k : Int} {buf : List Line} {l : Line} (h : l ∈ leading k buf) :
    l ∈ buf := by
  unfold leading at h
  split at h <;> exact List.mem_of_mem_take h

theorem mem_of_mem_trailing {k : Int} {buf : List Line} {l : Line} (h : l ∈ trailing k buf) :
    l ∈ buf := by
  unfold trailing at h
  split at h <;> exact List.mem_of_mem_drop h

theorem leading_eq_nil {k : Int} (hk : 0 < k) {buf : List Line} :
    leading k buf = [] ↔ buf = [] := by
  have hk' : 0 < k.toNat := by omega
  rw [leading, if_pos (Int.le_of_lt hk), List.take_eq_nil_iff]
  constructor
  · rintro (h | h)
    · omega
    · exact h
  · exact Or.inr

theorem trailing_eq_nil {k : Int} (hk : 0 < k) {buf : List Line} :
    trailing k buf = [] ↔ buf = [] := by
  have hk' : 0 < k.toNat := by omega
  rw [trailing, if_pos hk, List.drop_eq_nil_iff, ← List.length_eq_zero_iff]
  omega

variable (q : String → Bool)

private def Tracks (P out buf : List Line) : Prop :=
  (∀ l ∈ buf, l.kind = .context) ∧ (out = [] → ∀ l ∈ P, l.kind = .context) ∧
    (out ≠ [] → ∀ B : List Line, (∀ l ∈ B, l.kind = .context) →
      (B = [] ↔ buf = []) → runBalance q (out ++ B) = runBalance q P)

theorem cutBuffer_context {k : Int} {out buf : List Line}
    (hbuf : ∀ l ∈ buf, l.kind = .context) :
    ∀ l ∈ cutBuffer k out buf, l.kind = .context := by
  intro m hm
  unfold cutBuffer at hm
  split at hm
  · rcases List.mem_append.mp hm with hm | hm
    · split at hm
      · simp at hm
      · rcases List.mem_append.mp hm with hm | hm
        · exact hbuf m (mem_of_mem_leading hm)
        · rw [List.mem_singleton.mp hm]
          rfl
    · exact hbuf m (mem_of_mem_trailing hm)
  · exact hbuf m hm

theorem cutBuffer_eq_nil {k : Int} (hk : 0 < k) (out buf : List Line) :
    cutBuffer k out buf = [] ↔ buf = [] := by
  unfold cutBuffer
  split
  · next hlong =>
    rw [List.append_eq_nil_iff, trailing_eq_nil hk]
    constructor
    · exact fun h => h.2
    · intro h
      subst h
      simp at hlong
      omega
  · exact Iff.rfl

private theorem tracks_step {k : Int} (hk : 0 < k) {P out buf : List Line} (l : Line)
    (h : Tracks q P out buf) :
    Tracks q (P ++ [l]) (truncateStep k (out, buf) l).1 (truncateStep k (out, buf) l).2 := by
  obtain ⟨hbuf, hfirst, hafter⟩ := h
  by_cases hl : l.kind = .context
  · have hall : ∀ m ∈ buf ++ [l], m.kind = .context := by
      intro m hm
      rcases List.mem_append.mp hm with hm | hm
      · exact hbuf m hm
      · rw [List.mem_singleton.mp hm]
        exact hl
    simp only [truncateStep, hl, if_true]
    refine ⟨hall, fun hout m hm => ?_, fun hout B hB hBnil => ?_⟩
    · rcases List.mem_append.mp hm with hm | hm
      · exact hfirst hout m hm
      · rw [List.mem_singleton.mp hm]
        exact hl
    · -- the buffer has grown, and any nonempty stretch of context reads like it
      have hBne : B ≠ [] := fun hnil => by simpa using hBnil.mp hnil
      rw [runBalance_append, foldl_balanceStep_context q hB hBne, runBalance_append,
        ← hafter hout buf hbuf Iff.rfl, ← runBalance_append, List.append_assoc,
        runBalance_append q out, foldl_balanceStep_context q hall (by simp)]
  · simp only [truncateStep, hl, if_false]
    refine ⟨by simp, fun hout => by simp at hout, fun _ B _ hBnil => ?_⟩
    obtain rfl : B = [] := hBnil.mpr rfl
    rw [List.append_nil, runBalance_append q (out ++ _), runBalance_append q P]
    congr 1
    by_cases hout : out = []
    · subst hout
      rw [List.nil_append, runBalance, foldl_balanceStep_closed q (cutBuffer_context hbuf),
        runBalance, foldl_balanceStep_closed q (hfirst rfl)]
    · exact hafter hout (cutBuffer k out buf) (cutBuffer_context hbuf) (cutBuffer_eq_nil hk _ _)

private theorem tracks_foldl {k : Int} (hk : 0 < k) (L : List Line) :
    ∀ (P out buf : List Line), Tracks q P out buf →
      Tracks q (P ++ L) (L.foldl (truncateStep k) (out, buf)).1
        (L.foldl (truncateStep k) (out, buf)).2 := by
  induction L with
  | nil =>
    intro P out buf h
    simpa using h
  | cons l L ih =>
    intro P out buf h
    have h' := ih _ _ _ (tracks_step q hk l h)
    rw [List.append_assoc, List.singleton_append] at h'
    exact h'

theorem runBalance_truncate {k : Int} (hk : 0 < k) (diff : List Line) :
    runBalance q (truncate k diff) = runBalance q diff := by
  have h := tracks_foldl q hk diff [] [] [] ⟨by simp, by simp, by simp⟩
  rw [List.nil_append] at h
  obtain ⟨hbuf, hfirst, hafter⟩ := h
  rw [truncate_eq]
  split
  · next hout =>
    rw [runBalance, runBalance, List.foldl_nil, foldl_balanceStep_closed q
      (hfirst (List.isEmpty_iff.mp hout))]
  · next hout =>
    have hne : (diff.foldl (truncateStep k) ([], [])).1 ≠ [] := fun h => by simp [h] at hout
    exact hafter hne _ (fun m hm => hbuf m (mem_of_mem_leading hm)) (leading_eq_nil hk)

end Truncate

section Cancel

def weightAt (q : String → Bool) (diff : List Line) (x : Nat) : Int :=
  (diff[x]?.map (weight q)).getD 0

theorem totalWeight_take (q : String → Bool) (diff : List Line) (n : Nat) :
    totalWeight q (diff.take n) = ((List.range n).map (weightAt q diff)).sum := by
  induction n with
  | zero => simp
  | succ n ih =>
    rw [List.take_add_one, totalWeight_append, ih, List.range_succ, List.map_append,
      List.sum_append]
    cases h : diff[n]? <;> simp [weightAt, h]

private theorem sum_filter_of_vanish {f : Nat → Int} {P : Nat → Bool} (L : List Nat)
    (h : ∀ x ∈ L, f x ≠ 0 → P x = true) : ((L.filter P).map f).sum = (L.map f).sum := by
  induction L with
  | nil => rfl
  | cons x L ih =>
    have ih' := ih fun y hy => h y (List.mem_cons_of_mem _ hy)
    rw [List.filter_cons]
    by_cases hx : P x = true
    · simp [hx, ih']
    · have hzero : f x = 0 := by
        by_contra hne
        exact hx (h x List.mem_cons_self hne)
      simp [hx, ih', hzero]

private theorem sum_filter_flatMap_pairs (f : Nat → Int) (n : Nat) (P : List (Nat × Nat)) :
    (((P.flatMap fun pr => [pr.1, pr.2]).filter (· < n)).map f).sum =
      (P.map fun pr =>
        (if pr.1 < n then f pr.1 else 0) + (if pr.2 < n then f pr.2 else 0)).sum := by
  induction P with
  | nil => rfl
  | cons pr P ih =>
    rw [List.flatMap_cons, List.filter_append, List.map_append, List.sum_append, ih,
      List.map_cons, List.sum_cons]
    congr 1
    by_cases h1 : pr.1 < n <;> by_cases h2 : pr.2 < n <;> simp [h1, h2]

theorem weight_pair_before_cut {p : Policy} {q : String → Bool}
    (hq : ∀ x y, p.normalize x = p.normalize y → q x = q y) {diff : List Line} {n : Nat}
    (hcut : ∀ l ∈ diff[n]?, l.kind = .context) {pr : Nat × Nat}
    (hpr : pr ∈ cancelPairs p diff) :
    (if pr.1 < n then weightAt q diff pr.1 else 0) +
      (if pr.2 < n then weightAt q diff pr.2 else 0) = 0 := by
  have hF := pairsFound_cancelPairs p diff
  have hkinds := cancelPairs_kinds p diff pr hpr
  obtain ⟨hlt, hlen⟩ := hF.lt pr hpr
  have hside : pr.1 < n ↔ pr.2 < n := by
    constructor
    · intro h₁
      by_contra h₂
      have hn' : n < diff.length := by omega
      have hget : diff[n] ∈ diff[n]? := by simp [hn']
      exact hF.within pr hpr n h₁ (by omega) _ hget (hcut _ hget)
    · intro h₂
      omega
  obtain ⟨x, hx, hxk⟩ := Option.map_eq_some_iff.mp hkinds.1
  obtain ⟨y, hy, hyk⟩ := Option.map_eq_some_iff.mp hkinds.2
  have hqxy : q x.text = q y.text := hq _ _ (hF.same pr hpr x hx y hy)
  have hwx : weightAt q diff pr.1 = if q x.text then -1 else 0 := by
    simp [weightAt, hx, weight, hxk]
  have hwy : weightAt q diff pr.2 = if q y.text then 1 else 0 := by
    simp [weightAt, hy, weight, hyk]
  rw [hwx, hwy, hqxy]
  by_cases h₂ : pr.2 < n
  · rw [if_pos (hside.mpr h₂), if_pos h₂]
    split <;> simp
  · rw [if_neg (fun h₁ => h₂ (hside.mp h₁)), if_neg h₂, Int.add_zero]

theorem runBalance_of_cancelled {p : Policy} {q : String → Bool}
    (hq : ∀ x y, p.normalize x = p.normalize y → q x = q y) {diff : List Line}
    (h : ∀ l ∈ (annihilate p diff).1, l.kind = .context) : runBalance q diff = (true, 0) := by
  let gone := (cancelPairs p diff).flatMap fun pr => [pr.1, pr.2]
  have hfree : ∀ x (hx : x < diff.length), x ∉ gone → diff[x].kind = .context := by
    intro x hx hx'
    apply h
    simp only [annihilate, List.mem_map, List.mem_filter]
    refine ⟨(diff[x], x), ⟨List.mem_zipIdx_iff_getElem?.mpr (by simp), ?_⟩, rfl⟩
    simpa [gone] using hx'
  -- only the paired lines weigh anything
  have hw : ∀ x, weightAt q diff x ≠ 0 → x ∈ gone := by
    intro x hx
    by_contra hx'
    apply hx
    by_cases hlt : x < diff.length
    · simp [weightAt, List.getElem?_eq_getElem hlt, weight_context q (hfree x hlt hx')]
    · simp [weightAt, List.getElem?_eq_none (Nat.le_of_not_lt hlt)]
  rw [runBalance, foldl_balanceStep_eq_iff]
  intro n hn hcut
  -- the weight in front of the cut is a sum over the paired lines, taken pair by pair
  have hperm :
      ((List.range n).filter fun x => decide (x ∈ gone)).Perm (gone.filter (· < n)) := by
    apply (List.perm_ext_iff_of_nodup (List.nodup_range.filter _)
      ((nodup_paired p diff).filter _)).mpr
    intro x
    simp only [List.mem_filter, List.mem_range, decide_eq_true_eq]
    exact And.comm
  rw [Int.zero_add, totalWeight_take,
    ← sum_filter_of_vanish (List.range n) (fun x _ hx => decide_eq_true (hw x hx)),
    (hperm.map _).sum_eq, sum_filter_flatMap_pairs]
  exact List.sum_eq_zero fun z hz => by
    obtain ⟨pr, hpr, rfl⟩ := List.mem_map.mp hz
    exact weight_pair_before_cut hq hcut hpr

end Cancel

end Script

end LinePatch
