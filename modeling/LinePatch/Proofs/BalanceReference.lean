import LinePatch.Balance
import Mathlib.Data.List.Count
import Mathlib.Data.List.Induction

/-!
# The balance checks decide their definitions

A text keeps a pair of brackets when no prefix of it closes more than it opens and the
whole text closes as many as it opens. It keeps a quote when the quotes that are not
escaped come out even, a quote being escaped when the run of backslashes right in front
of it is odd.
-/

namespace LinePatch

namespace Balance

def PairsBalanced (opener closer : Char) (cs : List Char) : Prop :=
  (∀ n ≤ cs.length, (cs.take n).count closer ≤ (cs.take n).count opener) ∧
    cs.count opener = cs.count closer

def backslashRun (cs : List Char) : Nat :=
  (cs.reverse.takeWhile (· == '\\')).length

def countedQuotes (q : Char) (cs : List Char) : Nat :=
  ((List.range cs.length).filter fun i =>
    cs[i]? == some q && backslashRun (cs.take i) % 2 == 0).length

def QuotesBalanced (q : Char) (cs : List Char) : Prop :=
  countedQuotes q cs % 2 = 0

def Reference : Balance → String → Prop
  | curly, code => PairsBalanced '\x7b' '\x7d' code.toList
  | square, code => PairsBalanced '[' ']' code.toList
  | parenthesis, code => PairsBalanced '(' ')' code.toList
  | quote, code => QuotesBalanced '"' code.toList
  | singleQuote, code => QuotesBalanced '\'' code.toList

instance (opener closer : Char) (cs : List Char) : Decidable (PairsBalanced opener closer cs) :=
  inferInstanceAs (Decidable (_ ∧ _))

instance (q : Char) (cs : List Char) : Decidable (QuotesBalanced q cs) :=
  inferInstanceAs (Decidable (_ = _))

instance (b : Balance) (code : String) : Decidable (b.Reference code) :=
  match b with
  | curly => inferInstanceAs (Decidable (PairsBalanced _ _ _))
  | square => inferInstanceAs (Decidable (PairsBalanced _ _ _))
  | parenthesis => inferInstanceAs (Decidable (PairsBalanced _ _ _))
  | quote => inferInstanceAs (Decidable (QuotesBalanced _ _))
  | singleQuote => inferInstanceAs (Decidable (QuotesBalanced _ _))

section Pairs

private theorem forall_take_cons {P : List Char → Prop} (x : Char) (r : List Char) :
    (∀ n ≤ (x :: r).length, P ((x :: r).take n)) ↔ P [] ∧ ∀ n ≤ r.length, P (x :: r.take n) := by
  constructor
  · intro h
    exact ⟨h 0 (Nat.zero_le _), fun n hn => h (n + 1) (by simpa using hn)⟩
  · rintro ⟨h0, h⟩ n hn
    cases n with
    | zero => exact h0
    | succ n => exact h n (by simpa using hn)

theorem pairsClose_iff {opener closer : Char} (hne : opener ≠ closer) (d : Nat)
    (cs : List Char) :
    pairsClose opener closer d cs = true ↔
      (∀ n ≤ cs.length, (cs.take n).count closer ≤ d + (cs.take n).count opener) ∧
        d + cs.count opener = cs.count closer := by
  induction cs generalizing d with
  | nil => simp [pairsClose]
  | cons x r ih =>
    rw [forall_take_cons (P := fun p => p.count closer ≤ d + p.count opener), List.count_nil,
      List.count_nil]
    by_cases hopen : x = opener
    · -- an open is one more waiting
      subst hopen
      simp only [pairsClose, if_true, ih, List.count_cons_self, List.count_cons_of_ne hne]
      constructor
      · rintro ⟨hpre, htotal⟩
        exact ⟨⟨Nat.zero_le _, fun n hn => by have := hpre n hn; omega⟩, by omega⟩
      · rintro ⟨⟨-, hpre⟩, htotal⟩
        exact ⟨fun n hn => by have := hpre n hn; omega, by omega⟩
    by_cases hclose : x = closer
    · subst hclose
      cases d with
      | zero =>
        -- a close with nothing open fails at once, and the prefix `[x]` shows it
        simp only [pairsClose, hopen, if_false, if_true, Bool.false_eq_true, false_iff]
        rintro ⟨⟨-, hpre⟩, -⟩
        have := hpre 0 (Nat.zero_le _)
        simp [List.count_cons_of_ne (Ne.symm hne)] at this
      | succ d =>
        -- a close takes one of the waiting opens
        simp only [pairsClose, hopen, if_false, if_true, ih, List.count_cons_self,
          List.count_cons_of_ne (Ne.symm hne)]
        constructor
        · rintro ⟨hpre, htotal⟩
          exact ⟨⟨Nat.zero_le _, fun n hn => by have := hpre n hn; omega⟩, by omega⟩
        · rintro ⟨⟨-, hpre⟩, htotal⟩
          exact ⟨fun n hn => by have := hpre n hn; omega, by omega⟩
    · -- any other character changes nothing
      simp only [pairsClose, hopen, hclose, if_false, ih, List.count_cons_of_ne hopen,
        List.count_cons_of_ne hclose]
      exact ⟨fun h => ⟨⟨Nat.zero_le _, h.1⟩, h.2⟩, fun h => ⟨h.1.2, h.2⟩⟩

theorem pairsClose_zero_iff {opener closer : Char} (hne : opener ≠ closer) (cs : List Char) :
    pairsClose opener closer 0 cs = true ↔ PairsBalanced opener closer cs := by
  rw [pairsClose_iff hne, PairsBalanced]
  simp only [Nat.zero_add]

end Pairs

section Quotes

def quoteStep (q : Char) (st : Bool × Bool) (c : Char) : Bool × Bool :=
  if c = '\\' then (st.1, !st.2)
  else if c = q && !st.2 then (!st.1, st.2)
  else (st.1, false)

theorem quotesEven_eq_foldl (q : Char) (odd escaped : Bool) (cs : List Char) :
    quotesEven q odd escaped cs = !(cs.foldl (quoteStep q) (odd, escaped)).1 := by
  induction cs generalizing odd escaped with
  | nil => rfl
  | cons c r ih =>
    rw [List.foldl_cons]
    by_cases hb : c = '\\'
    · rw [quotesEven, if_pos hb, quoteStep, if_pos hb, ih]
    · by_cases hq : (c = q && !escaped) = true
      · rw [quotesEven, if_neg hb, if_pos hq, quoteStep, if_neg hb, if_pos hq, ih]
      · rw [quotesEven, if_neg hb, if_neg hq, quoteStep, if_neg hb, if_neg hq, ih]

theorem backslashRun_concat (cs : List Char) (c : Char) :
    backslashRun (cs ++ [c]) = if c = '\\' then backslashRun cs + 1 else 0 := by
  by_cases hb : c = '\\' <;> simp [backslashRun, hb]

theorem countedQuotes_concat (q : Char) (cs : List Char) (c : Char) :
    countedQuotes q (cs ++ [c]) =
      countedQuotes q cs + if c = q ∧ backslashRun cs % 2 = 0 then 1 else 0 := by
  unfold countedQuotes
  rw [List.length_append, List.length_singleton, List.range_succ, List.filter_append,
    List.length_append]
  congr 1
  · -- the positions of `cs` read the same in `cs ++ [c]`
    congr 1
    apply List.filter_congr
    intro i hi
    have hi : i < cs.length := List.mem_range.mp hi
    rw [List.getElem?_append_left hi, List.take_append_of_le_length (Nat.le_of_lt hi)]
  · by_cases h : c = q ∧ backslashRun cs % 2 = 0 <;> simp [h]

theorem foldl_quoteStep {q : Char} (hq : q ≠ '\\') (cs : List Char) :
    cs.foldl (quoteStep q) (false, false) =
      (countedQuotes q cs % 2 == 1, backslashRun cs % 2 == 1) := by
  induction cs using List.reverseRecOn with
  | nil => rfl
  | append_singleton cs c ih =>
    rw [List.foldl_append, List.foldl_cons, List.foldl_nil, ih, countedQuotes_concat,
      backslashRun_concat]
    by_cases hb : c = '\\'
    · -- a backslash is no quote, and it lengthens the run
      have hcq : ¬(c = q ∧ backslashRun cs % 2 = 0) := fun h => hq (h.1 ▸ hb)
      rw [quoteStep, if_pos hb, if_pos hb, if_neg hcq]
      simp only [Nat.add_zero, Prod.mk.injEq, true_and]
      cases h : backslashRun cs % 2 == 1 <;> simp at h ⊢ <;> omega
    · by_cases hcount : c = q ∧ backslashRun cs % 2 = 0
      · -- a quote after an even run is counted
        have hflag : (c = q && !(backslashRun cs % 2 == 1)) = true := by
          simp [hcount.1, hcount.2]
        rw [quoteStep, if_neg hb, if_pos hflag, if_neg hb, if_pos hcount]
        simp only [Prod.mk.injEq]
        refine ⟨?_, by simp [hcount.2]⟩
        cases h : countedQuotes q cs % 2 == 1 <;> simp at h ⊢ <;> omega
      · have hflag : ¬(c = q && !(backslashRun cs % 2 == 1)) = true := by
          simpa using hcount
        rw [quoteStep, if_neg hb, if_neg hflag, if_neg hb, if_neg hcount]
        simp

theorem quotesEven_iff {q : Char} (hq : q ≠ '\\') (cs : List Char) :
    quotesEven q false false cs = true ↔ QuotesBalanced q cs := by
  rw [quotesEven_eq_foldl, foldl_quoteStep hq, QuotesBalanced]
  simp only [Bool.not_eq_true', beq_eq_false_iff_ne, ne_eq]
  omega

end Quotes

theorem holds_iff (b : Balance) (code : String) : b.holds code = true ↔ b.Reference code := by
  cases b with
  | curly => exact pairsClose_zero_iff (by decide) _
  | square => exact pairsClose_zero_iff (by decide) _
  | parenthesis => exact pairsClose_zero_iff (by decide) _
  | quote => exact quotesEven_iff (by decide) _
  | singleQuote => exact quotesEven_iff (by decide) _

/-- The checks match what the balances mean: each one decides its balance, and the report,
the failing checks and the regressions list exactly the balances that the definitions
say, in check order. -/
theorem checks_decide_balances (code before after : String) :
    (∀ b : Balance, b.holds code = true ↔ b.Reference code) ∧
      report code = all.map (fun b => (b.name, decide (b.Reference code))) ∧
      failing code = all.filter (fun b => ¬b.Reference code) ∧
      regressions before after =
        all.filter (fun b => b.Reference before ∧ ¬b.Reference after) := by
  have hdec : ∀ b : Balance, ∀ s, b.holds s = decide (b.Reference s) := fun b s => by
    rw [Bool.eq_iff_iff, holds_iff, decide_eq_true_iff]
  refine ⟨fun b => holds_iff b code, ?_, ?_, ?_⟩
  · simp only [report, hdec]
  · simp only [failing, hdec, decide_not]
  · simp only [regressions, hdec, Bool.decide_and, decide_not]

example : ¬Reference quote "say \"hi\\\"" ∧ Reference quote "say \"hi\\\"\"" := by decide

end Balance

end LinePatch
