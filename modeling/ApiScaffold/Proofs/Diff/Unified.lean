/-
When a difference is shown. Two lists of lines that are not the same differ by at least one change: the comparison
splits them where their first lines differ (`Differs`), and no later step loses the last change. The same lines have
none. So a unified difference is empty exactly if both texts are the same (`unified_eq_empty_iff`).
-/
import ApiScaffold.Diff.Unified
import Mathlib.Tactic

namespace ApiScaffold.Diff

/-- An edit that does more than to keep lines. -/
def Edit.isChange : Edit → Bool
  | .keep .. => false
  | _ => true

/-- Some lines change. -/
def Changes (es : List Edit) : Prop := ∃ e ∈ es, e.isChange = true

theorem Changes.cons {e : Edit} {es : List Edit} (h : Changes es) : Changes (e :: es) :=
  h.imp fun _ => .imp_left (List.mem_cons_of_mem _)

theorem Changes.append_left {es fs : List Edit} (h : Changes es) : Changes (es ++ fs) :=
  h.imp fun _ => .imp_left (List.mem_append_left _)

theorem Changes.append_right {es fs : List Edit} (h : Changes fs) : Changes (es ++ fs) :=
  h.imp fun _ => .imp_left (List.mem_append_right _)

theorem Changes.of_head {e : Edit} {es : List Edit} (h : e.isChange = true) : Changes (e :: es) :=
  ⟨e, List.mem_cons_self .., h⟩

theorem Changes.tail {old new len : Nat} {es : List Edit} (h : Changes (.keep old new len :: es)) : Changes es := by
  obtain ⟨e, he, hchange⟩ := h
  rcases List.mem_cons.1 he with rfl | he
  · cases hchange
  · exact ⟨e, he, hchange⟩

theorem not_changes_nil : ¬ Changes [] := fun ⟨_, he, _⟩ => List.not_mem_nil he

/-! ## Common lines -/

section

variable {old new : Lines} {a b : Span}

theorem commonStart_le : ∀ n i j : Nat, commonStart old new n i j ≤ n
  | 0, _, _ => Nat.le_refl 0
  | n + 1, i, j => by
    unfold commonStart
    split
    · exact Nat.succ_le_succ (commonStart_le n _ _)
    · exact Nat.zero_le _

theorem commonEnd_le : ∀ n i j : Nat, commonEnd old new n i j ≤ n
  | 0, _, _ => Nat.le_refl 0
  | n + 1, i, j => by
    unfold commonEnd
    split
    · exact Nat.succ_le_succ (commonEnd_le n _ _)
    · exact Nat.zero_le _

/-- The lines behind those that agree do not agree. -/
theorem commonStart_stops : ∀ {n i j : Nat}, commonStart old new n i j < n →
    old[i + commonStart old new n i j]? ≠ new[j + commonStart old new n i j]?
  | n + 1, i, j, h => by
    unfold commonStart at h ⊢
    split at h
    · rename_i hsame
      rw [if_pos hsame, ← Nat.add_assoc, ← Nat.add_assoc, Nat.add_right_comm i, Nat.add_right_comm j]
      exact commonStart_stops (Nat.lt_of_succ_lt_succ h)
    · rename_i hdiff
      rw [if_neg hdiff]
      simpa using hdiff

theorem commonStart_full : ∀ {n i j : Nat}, commonStart old new n i j = n →
    ∀ k < n, old[i + k]? = new[j + k]?
  | n + 1, i, j, h, k, hk => by
    unfold commonStart at h
    split at h
    · rename_i hsame
      rcases k with _ | k
      · simpa using hsame
      · rw [← Nat.add_assoc, ← Nat.add_assoc, Nat.add_right_comm i, Nat.add_right_comm j]
        exact commonStart_full (Nat.succ.inj h) k (Nat.lt_of_succ_lt_succ hk)
    · cases h

theorem commonStart_self (lines : Lines) : ∀ n i : Nat, commonStart lines lines n i i = n
  | 0, _ => rfl
  | n + 1, i => by
    unfold commonStart
    rw [if_pos (beq_self_eq_true _), commonStart_self lines n (i + 1)]

theorem commonEnd_full : ∀ {n i j : Nat}, commonEnd old new n i j = n → ∀ k < n, old[i - 1 - k]? = new[j - 1 - k]?
  | n + 1, i, j, h, k, hk => by
    unfold commonEnd at h
    split at h
    · rename_i hsame
      rcases k with _ | k
      · simpa using hsame
      · rw [Nat.add_comm k 1, ← Nat.sub_sub, ← Nat.sub_sub]
        exact commonEnd_full (Nat.succ.inj h) k (Nat.lt_of_succ_lt_succ hk)
    · cases h

/-! ## Stretches that differ -/

/-- Two stretches that are not both empty and, if neither is, begin with different lines. -/
def Differs (old new : Lines) (a b : Span) : Prop :=
  (0 < a.length ∨ 0 < b.length) ∧ (0 < a.length → 0 < b.length → old[a.lo]? ≠ new[b.lo]?)

theorem Differs.commonPrefix_eq (h : Differs old new a b) : commonPrefix old new a b = 0 := by
  unfold commonPrefix
  rcases hn : min a.length b.length with _ | n
  · rfl
  · unfold commonStart
    rw [if_neg]
    simpa using h.2 (by omega) (by omega)

/-- Without the lines that they have in common at their starts, stretches differ or are both empty. -/
theorem differs_dropStart (h : ¬ (a.length = commonPrefix old new a b ∧ b.length = commonPrefix old new a b)) :
    Differs old new ⟨a.lo + commonPrefix old new a b, a.hi⟩ ⟨b.lo + commonPrefix old new a b, b.hi⟩ := by
  have hle : commonPrefix old new a b ≤ min a.length b.length := commonStart_le ..
  have hstops : commonPrefix old new a b < min a.length b.length →
      old[a.lo + commonPrefix old new a b]? ≠ new[b.lo + commonPrefix old new a b]? := commonStart_stops
  unfold Span.length at *
  constructor
  · simp only [Span.length]
    omega
  · simp only [Span.length]
    exact fun ha hb => hstops (by omega)

/-- Without the lines that they have in common at their ends, stretches that differ still differ. -/
theorem Differs.dropEnd (h : Differs old new a b) :
    Differs old new ⟨a.lo, a.hi - commonSuffix old new a b⟩ ⟨b.lo, b.hi - commonSuffix old new a b⟩ := by
  have hle : commonSuffix old new a b ≤ min a.length b.length := commonEnd_le ..
  have hfull : commonSuffix old new a b = min a.length b.length →
      ∀ k < min a.length b.length, old[a.hi - 1 - k]? = new[b.hi - 1 - k]? := commonEnd_full
  obtain ⟨hsome, hfirst⟩ := h
  constructor
  · by_contra hnone
    -- all lines would agree, the first ones too
    have ha : a.length = commonSuffix old new a b := by unfold Span.length at *; simp only at hnone; omega
    have hb : b.length = commonSuffix old new a b := by unfold Span.length at *; simp only at hnone; omega
    have hsame := hfull (by omega) (a.length - 1) (by omega)
    have hlo : a.hi - 1 - (a.length - 1) = a.lo := by unfold Span.length at *; omega
    have hlo' : b.hi - 1 - (a.length - 1) = b.lo := by unfold Span.length at *; omega
    rw [hlo, hlo'] at hsame
    exact hfirst (by omega) (by omega) hsame
  · unfold Span.length at *
    simp only
    exact fun ha hb => hfirst (by omega) (by omega)

/-- Where stretches that differ are split, the lines before the split differ or those behind it do. -/
theorem Differs.split (h : Differs old new a b) (ha : 0 < a.length) (hb : 0 < b.length) {x y : Nat} (hx : a.lo ≤ x)
    (hy : b.lo ≤ y) : Differs old new ⟨a.lo, x⟩ ⟨b.lo, y⟩ ∨ Differs old new ⟨x, a.hi⟩ ⟨y, b.hi⟩ := by
  have hfirst := h.2 ha hb
  by_cases hsplit : a.lo < x ∨ b.lo < y
  · refine .inl ⟨?_, fun _ _ => hfirst⟩
    unfold Span.length
    simp only
    omega
  · obtain rfl : x = a.lo := by omega
    obtain rfl : y = b.lo := by omega
    exact .inr h

/-! ## Comparing -/

section

variable {f g : Front} {d : Nat}

/-- A walk over the diagonals that stops at a place stops at one that a step found. -/
theorem foldlM_error {α σ ε : Type} {step : σ → α → Except ε σ} {P : ε → Prop}
    (h : ∀ s x e, step s x = .error e → P e) : ∀ {xs : List α} {s : σ} {e : ε}, xs.foldlM step s = .error e → P e
  | [], s, e, he => by cases he
  | x :: xs, s, e, he => by
    rw [List.foldlM_cons] at he
    rcases hx : step s x with e' | s'
    · rw [hx] at he
      cases he
      exact h s x e hx
    · rw [hx] at he
      exact foldlM_error h he

theorem error_of_ite {ε σ : Type} {c : Prop} [Decidable c] {p q : ε} {s : σ}
    (h : (if c then .error p else .ok s : Except ε σ) = .error q) : p = q := by
  split at h <;> cases h
  rfl

theorem le_of_forward {p : Nat × Nat} (h : forward old new a b g d f = .error p) : a.lo ≤ p.1 ∧ b.lo ≤ p.2 := by
  refine foldlM_error (P := fun p => a.lo ≤ p.1 ∧ b.lo ≤ p.2) (fun s k p hp => ?_) h
  obtain rfl := error_of_ite hp
  exact ⟨Nat.le_add_left .., Nat.le_add_left ..⟩

theorem le_of_backward {p : Nat × Nat} (h : backward old new a b f d g = .error p) : a.lo ≤ p.1 ∧ b.lo ≤ p.2 := by
  refine foldlM_error (P := fun p => a.lo ≤ p.1 ∧ b.lo ≤ p.2) (fun s k p hp => ?_) h
  obtain rfl := error_of_ite hp
  exact ⟨Nat.le_add_left .., Nat.le_add_left ..⟩

theorem le_of_meet : ∀ {fuel d : Nat} {f g : Front} {p : Nat × Nat}, meet old new a b fuel d f g = some p →
    a.lo ≤ p.1 ∧ b.lo ≤ p.2
  | 0, _, _, _, _, h => by cases h
  | fuel + 1, d, f, g, p, h => by
    unfold meet at h
    split at h
    · rename_i hforward
      cases h
      exact le_of_forward hforward
    split at h
    · rename_i hbackward
      cases h
      exact le_of_backward hbackward
    · exact le_of_meet h

end

/-- Stretches that are not the same line by line differ by a change. -/
theorem changes_compare : ∀ (fuel : Nat) {a b : Span},
    ¬ (a.length = commonPrefix old new a b ∧ b.length = commonPrefix old new a b) → Changes (compare old new fuel a b)
  | 0, a, b, _ => .of_head rfl
  | fuel + 1, a, b, h => by
    have hdiffers := (differs_dropStart h).dropEnd
    have hinner : ∀ {a b : Span}, Differs old new a b → Changes (compare old new fuel a b) := by
      intro a b hdiffers
      refine changes_compare fuel fun hsame => ?_
      rw [hdiffers.commonPrefix_eq] at hsame
      have := hdiffers.1
      omega
    unfold compare
    refine .append_left (.append_right ?_)
    -- what is left between the common lines differs
    dsimp only at hdiffers ⊢
    split
    · rename_i hnone
      have := hdiffers.1
      simp at hnone
      omega
    split
    · exact .of_head rfl
    split
    · exact .of_head rfl
    split
    · rename_i hb ha found x y hsplit
      obtain ⟨hx, hy⟩ := le_of_meet hsplit
      simp only [beq_iff_eq] at ha hb
      rcases hdiffers.split (Nat.pos_of_ne_zero ha) (Nat.pos_of_ne_zero hb) hx hy with hdiffers | hdiffers
      · exact .append_left (hinner hdiffers)
      · exact .append_right (hinner hdiffers)
    · exact .of_head rfl

end

/-! ## Sliding and joining -/

section

variable {old new : Lines}

/-- The edit that slides remains a change. -/
theorem isChange_slideUp : ∀ {fuel : Nat} {z : Focus}, z.this.isChange = true →
    (slideUp old new fuel z).this.isChange = true
  | 0, _, h => h
  | fuel + 1, ⟨before, this, after⟩, h => by
    unfold slideUp
    rcases before with _ | ⟨prev, before⟩
    · exact h
    simp only
    split
    case _ => exact isChange_slideUp rfl
    case _ => exact isChange_slideUp rfl
    case _ => exact isChange_slideUp h
    case _ => exact isChange_slideUp h
    case _ =>
      split
      · refine isChange_slideUp ?_
        cases this <;> first | rfl | cases h
      split
      · exact isChange_slideUp h
      · exact h

theorem isChange_slideDown : ∀ {fuel : Nat} {z : Focus}, z.this.isChange = true →
    (slideDown old new fuel z).this.isChange = true
  | 0, _, h => h
  | fuel + 1, ⟨before, this, after⟩, h => by
    unfold slideDown
    rcases after with _ | ⟨next, after⟩
    · exact h
    simp only
    split
    case _ => exact isChange_slideDown rfl
    case _ => exact isChange_slideDown rfl
    case _ => exact isChange_slideDown h
    case _ => exact isChange_slideDown h
    case _ =>
      split
      · refine isChange_slideDown ?_
        cases this <;> first | rfl | cases h
      split
      · exact isChange_slideDown h
      · exact h

/-- Sliding changes loses none of them altogether. -/
theorem changes_slideEach {p : Edit → Bool} (hp : ∀ e, p e = true → e.isChange = true) {fuel : Nat}
    {done es : List Edit} (h : Changes (done.reverse ++ es)) : Changes (slideEach old new p fuel done es) := by
  fun_induction slideEach old new p fuel done es with
  | case1 => exact h
  | case2 => simpa using h
  | case3 fuel done e es passes bound z ih =>
    refine ih (.append_left ⟨z.this, ?_, isChange_slideDown (isChange_slideUp (hp e passes))⟩)
    simp
  | case4 fuel done e es fails ih =>
    refine ih ?_
    simpa using h

theorem slideEach_of_not_changes {p : Edit → Bool} (hp : ∀ e, p e = true → e.isChange = true) {fuel : Nat}
    {done es : List Edit} (h : ¬ Changes es) : slideEach old new p fuel done es = done.reverse ++ es := by
  fun_induction slideEach old new p fuel done es with
  | case1 => rfl
  | case2 => simp
  | case3 fuel done e es passes => exact absurd (.of_head (hp e passes)) h
  | case4 fuel done e es fails ih =>
    rw [ih fun hrest => h hrest.cons]
    simp

theorem isChange_of_isDeletion (e : Edit) (h : isDeletion e = true) : e.isChange = true := by
  cases e <;> first | rfl | cases h

theorem isChange_of_isInsertion (e : Edit) (h : isInsertion e = true) : e.isChange = true := by
  cases e <;> first | rfl | cases h

theorem changes_slide {es : List Edit} (h : Changes es) : Changes (slide old new es) :=
  changes_slideEach isChange_of_isInsertion (changes_slideEach isChange_of_isDeletion h)

theorem slide_of_not_changes {es : List Edit} (h : ¬ Changes es) : slide old new es = es := by
  unfold slide
  dsimp only
  rw [slideEach_of_not_changes isChange_of_isDeletion h, List.reverse_nil, List.nil_append,
    slideEach_of_not_changes isChange_of_isInsertion h, List.reverse_nil, List.nil_append]

/-- A change is pending. -/
def Pending.Holds (p : Pending) : Prop := p.deleted.isSome = true ∨ p.inserted.isSome = true

theorem Pending.Holds.changes {p : Pending} (h : p.Holds) : Changes p.changes := by
  rcases p with ⟨kept, deleted, inserted⟩
  unfold Pending.changes
  rcases deleted with _ | d <;> rcases inserted with _ | i
  · rcases h with h | h <;> cases h
  all_goals exact .of_head rfl

theorem changes_joinFrom {p : Pending} {es : List Edit} (h : p.Holds ∨ Changes es) : Changes (joinFrom p es) := by
  fun_induction joinFrom p es with
  | case1 p =>
    rcases h with h | h
    · exact .append_right h.changes
    · exact absurd h not_changes_nil
  | case2 p old new len es ih =>
    rcases h with h | h
    · exact .append_left h.changes
    · exact .append_right (ih (.inr h.tail))
  | case3 p old new len es ih =>
    refine .append_right (ih (.inl (.inl ?_)))
    cases p.deleted <;> rfl
  | case4 p old new len es ih =>
    refine .append_right (ih (.inl (.inr ?_)))
    cases p.inserted <;> rfl
  | case5 p e es notKeep notDelete notInsert ih =>
    refine .append_right (.of_head ?_)
    cases e with
    | keep => exact (notKeep _ _ _ rfl).elim
    | _ => rfl

/-- The edits between the same lines keep them all. -/
theorem edits_self (lines : Lines) : edits lines lines = [] ∨ edits lines lines = [.keep 0 0 lines.size] := by
  have hstart : commonPrefix lines lines ⟨0, lines.size⟩ ⟨0, lines.size⟩ = lines.size := by
    unfold commonPrefix
    simp only [commonStart_self, Nat.min_self]
    rfl
  have hend : commonSuffix lines lines ⟨0 + lines.size, lines.size⟩ ⟨0 + lines.size, lines.size⟩ = 0 := by
    unfold commonSuffix Span.length
    simp [commonEnd]
  have hfound : compare lines lines (lines.size + lines.size + 1) ⟨0, lines.size⟩ ⟨0, lines.size⟩ =
      if lines.size == 0 then [] else [.keep 0 0 lines.size] := by
    unfold compare
    dsimp only
    rw [hstart, hend]
    simp [Span.length]
  unfold edits
  dsimp only
  rw [hfound]
  split
  · rw [slide_of_not_changes not_changes_nil]
    exact .inl rfl
  · rw [slide_of_not_changes fun h => not_changes_nil h.tail]
    exact .inr rfl

/-- Lists of lines that are not the same differ by a change. -/
theorem changes_edits (hne : old ≠ new) : Changes (edits old new) := by
  refine changes_joinFrom (.inr (changes_slide (changes_compare _ ?_)))
  rintro ⟨hold, hnew⟩
  have hsize : old.size = new.size := hold.trans hnew.symm
  have hfull : ∀ k < old.size, old[0 + k]? = new[0 + k]? := by
    refine commonStart_full ?_
    refine Eq.trans ?_ hold.symm
    unfold commonPrefix Span.length
    simp only [Nat.sub_zero, hsize, Nat.min_self]
  refine hne (Array.ext hsize fun k hk hk' => ?_)
  have hsame := hfull k hk
  rw [Nat.zero_add, Array.getElem?_eq_getElem hk, Array.getElem?_eq_getElem hk'] at hsame
  exact Option.some.inj hsame

end

/-! ## Hunks -/

theorem changes_trimStart {es : List Edit} (h : Changes es) : Changes (trimStart es) := by
  unfold trimStart
  split
  · exact h.tail.cons
  · exact h

theorem changes_trimEnd {es : List Edit} (h : Changes es) : Changes (trimEnd es) := by
  fun_induction trimEnd es with
  | case1 => exact h
  | case2 old new len => exact absurd h.tail not_changes_nil
  | case3 e es _ ih =>
    obtain ⟨d, hd, hchange⟩ := h
    rcases List.mem_cons.1 hd with rfl | hd
    · exact .of_head hchange
    · exact (ih ⟨d, hd, hchange⟩).cons

theorem hunksFrom_ne_nil (pending : List Edit) {es : List Edit} (h : Changes (pending.reverse ++ es)) :
    hunksFrom pending es ≠ [] := by
  fun_induction hunksFrom pending es with
  | case1 => exact absurd h not_changes_nil
  | case2 old new len => exact absurd h.tail not_changes_nil
  | case3 => exact List.cons_ne_nil _ _
  | case4 => exact List.cons_ne_nil _ _
  | case5 pending old new len es _ ih => exact ih (by simpa using h)
  | case6 pending e es _ ih => exact ih (by simpa using h)

/-- There is a hunk where lines are not the same, and none where they are. -/
theorem hunks_eq_nil_iff {old new : Lines} : hunks (edits old new) = [] ↔ old = new := by
  constructor
  · intro h
    by_contra hne
    exact hunksFrom_ne_nil [] (changes_trimEnd (changes_trimStart (changes_edits hne))) h
  · rintro rfl
    rcases edits_self old with h | h <;> rw [h]
    · rfl
    · unfold hunks trimStart trimEnd hunksFrom context
      rw [if_neg (by omega)]
      rfl

/-! ## Texts -/

theorem flatMap_linesFrom (current cs : List Char) :
    (linesFrom current cs).flatMap String.toList = current.reverse ++ cs := by
  fun_induction linesFrom current cs with
  | case1 current empty => simpa using empty
  | case2 current nonempty => simp
  | case3 current cs ih => simp [ih]
  | case4 current c cs _ hends ih => simp [ih]
  | case5 current c cs _ hgoes ih => simp [ih]

/-- The lines of a text make up the text. -/
theorem lines_inj {s t : String} : lines s = lines t ↔ s = t := by
  constructor
  · intro h
    have hchars := congrArg (List.flatMap String.toList) (Array.toList_inj.2 h)
    unfold lines at hchars
    rw [flatMap_linesFrom, flatMap_linesFrom] at hchars
    exact String.toList_inj.1 hchars
  · rintro rfl
    rfl

/-- The difference between two texts is empty exactly if they are the same. -/
theorem unified_eq_empty_iff {oldName newName old new : String} : unified oldName newName old new = "" ↔ old = new := by
  refine Iff.trans ?_ (hunks_eq_nil_iff.trans lines_inj)
  unfold unified
  dsimp only
  rcases hunks (edits (lines old) (lines new)) with _ | ⟨h, hs⟩
  · simp only
  · simp only [String.append_eq_empty_iff, reduceCtorEq, iff_false]
    rintro ⟨⟨⟨⟨⟨h, -⟩, -⟩, -⟩, -⟩, -⟩
    exact absurd h (by decide)

end ApiScaffold.Diff
