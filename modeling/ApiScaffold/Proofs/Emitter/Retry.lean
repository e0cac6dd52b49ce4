/-
What an emit that fails leaves behind: the emitter as it was, but that the key of the path stays taken.
Later calls are compared by their replies, over files that may change between them; `Marked.replies_iff` says
which of them can tell that the failed one was made.
-/
import ApiScaffold.Proofs.Emitter.Step

namespace ApiScaffold.Emitter

/-! ## Calls and replies -/

/-- A call made of an emitter; an emit finds the files as they are by then. -/
inductive Call where
  | emit (t : FileTree) (text : String) (path : Path)
  | prune
  | decisions
  | summary

/-- What a call gives back. -/
inductive Reply where
  /-- With the files and with all questions asked so far. -/
  | emitted (t : FileTree) (asked : List Question) (result : Except EmitError Decision)
  | pruned (dropped : Nat)
  | decided (decisions : List (Path × Decision))
  | counted (summary : RunSummary)

def reply (e : Emitter) : Call → Reply × Emitter
  | .emit t text path =>
    (.emitted (e.emit t text path).2.1 (e.emit t text path).1.asked (e.emit t text path).2.2, (e.emit t text path).1)
  | .prune => (.pruned (e.ledger.size - e.prune.ledger.size), e.prune)
  | .decisions => (.decided (e.emissions.map fun m => (m.path, m.decision)), e)
  | .summary => (.counted e.summary, e)

/-- The replies to calls made one after the other. -/
def replies (e : Emitter) : List Call → List Reply
  | [] => []
  | c :: cs => (e.reply c).1 :: (e.reply c).2.replies cs

/-- The emitter after calls made one after the other. -/
def afterCalls (e : Emitter) (cs : List Call) : Emitter := cs.foldl (fun e c => (e.reply c).2) e

/-- A call that gives another reply when a key is taken: an emit to a path of that key, or a prune while the
ledger has an entry for it. -/
def Call.Tells (l : Ledger) (key : String) : Call → Prop
  | .emit _ _ path => ledgerKey path = key
  | .prune => ∃ digest, l.get? key = some digest
  | .decisions => False
  | .summary => False

/-- The key that a call takes. -/
def Call.key? : Call → Option String
  | .emit _ _ path => some (ledgerKey path)
  | .prune => none
  | .decisions => none
  | .summary => none

theorem Call.tells_congr {l l' : Ledger} {key : String} (h : l'.get? key = l.get? key) (c : Call) :
    c.Tells l' key ↔ c.Tells l key := by
  cases c <;> simp [Call.Tells, h]

/-! ## Keys that are taken -/

variable {e e₁ e₂ : Emitter} {t : FileTree} {text key : String} {path : Path}

theorem write_emitted (e : Emitter) (t : FileTree) (text : String) (path : Path) (taken : List String) (d : Decision) :
    ({ e with emitted := taken } : Emitter).write t text path d =
      ({ (e.write t text path d).1 with emitted := taken }, (e.write t text path d).2) := by
  unfold write
  rcases t.writeDeep path text.toUTF8 with ⟨u, f | ⟨⟩⟩ <;> rfl

/-- Carrying out a plan does not look at the keys that are taken. -/
theorem carryOut_emitted (e : Emitter) (t : FileTree) (text : String) (path : Path) (taken : List String) (p : Plan) :
    ({ e with emitted := taken } : Emitter).carryOut t text path p =
      ({ (e.carryOut t text path p).1 with emitted := taken }, (e.carryOut t text path p).2) := by
  cases p with
  | skip d => rfl
  | adopt => rfl
  | write d => exact write_emitted e t text path taken d
  | ask c =>
    simp only [carryOut]
    rcases e.prompt (e.asked ++ [question text path c]) with _ | _ | reason
    · exact write_emitted { e with asked := e.asked ++ [question text path c] } t text path taken .overwritten
    · rfl
    · rfl

/-- What an emit does with a path that was not taken up before. -/
theorem emit_of_fresh (t : FileTree) (text : String) (fresh : ledgerKey path ∉ e.emitted) :
    e.emit t text path = match e.plan t text path with
      | .error f => (e.takeUp path [], t, .error (.io f))
      | .ok p =>
        match (e.takeUp path []).carryOut t text path p with
        | (e', u, .ok d) => (e'.conclude text path d, u, .ok d)
        | (e', u, .error err) => (e', u, .error err) := by
  have hdup : ¬ e.emitted.contains (ledgerKey path) = true := by simpa using fresh
  unfold emit
  rw [if_neg hdup, ← takeUp_nil]
  rfl

/-- Nor does an emit look at them, but for the key of its own path. -/
theorem emit_emitted {taken : List String} (t : FileTree) (text : String) (fresh : ledgerKey path ∉ e.emitted)
    (fresh' : ledgerKey path ∉ taken) :
    ({ e with emitted := taken } : Emitter).emit t text path =
      ({ (e.emit t text path).1 with emitted := ledgerKey path :: taken }, (e.emit t text path).2) := by
  have hplan : ({ e with emitted := taken } : Emitter).plan t text path = e.plan t text path := rfl
  have htake : ({ e with emitted := taken } : Emitter).takeUp path [] =
      { e.takeUp path [] with emitted := ledgerKey path :: taken } := rfl
  rw [emit_of_fresh t text fresh, emit_of_fresh t text (e := { e with emitted := taken }) fresh', hplan, htake]
  rcases e.plan t text path with f | p
  · rfl
  · simp only [carryOut_emitted]
    rcases (e.takeUp path []).carryOut t text path p with ⟨e', u, err | d⟩ <;> rfl

theorem write_ne_duplicate (e : Emitter) (t : FileTree) (text : String) (path : Path) (d : Decision) (q : Path) :
    (e.write t text path d).2.2 ≠ .error (.duplicateOutput q) := by
  unfold write
  rcases t.writeDeep path text.toUTF8 with ⟨u, f | ⟨⟩⟩ <;> simp

/-- A plan that fails does so because of the files or the prompt. -/
theorem carryOut_ne_duplicate (e : Emitter) (t : FileTree) (text : String) (path : Path) (p : Plan) (q : Path) :
    (e.carryOut t text path p).2.2 ≠ .error (.duplicateOutput q) := by
  cases p with
  | skip d => simp [carryOut]
  | adopt => simp [carryOut]
  | write d => exact write_ne_duplicate e t text path d q
  | ask c =>
    simp only [carryOut]
    rcases e.prompt (e.asked ++ [question text path c]) with _ | _ | reason
    · exact write_ne_duplicate _ t text path .overwritten q
    · simp
    · simp

/-- A path is refused exactly if its key is taken. -/
theorem emit_refused_iff : (e.emit t text path).2.2 = .error (.duplicateOutput path) ↔ ledgerKey path ∈ e.emitted := by
  constructor
  · intro h
    by_contra fresh
    rw [emit_of_fresh t text fresh] at h
    rcases hp : e.plan t text path with f | p <;> rw [hp] at h
    · cases h
    · have hne := carryOut_ne_duplicate (e.takeUp path []) t text path p path
      simp only at h
      rcases hc : (e.takeUp path []).carryOut t text path p with ⟨e', u, err | d⟩ <;> rw [hc] at h hne
      · exact hne h
      · cases h
  · intro taken
    rw [emit_of_taken taken]

/-- The first emitter has taken one key that the second has not; that is all they differ in. -/
structure Marked (key : String) (e₁ e₂ : Emitter) : Prop where
  same : e₁ = { e₂ with emitted := e₁.emitted }
  taken : ∀ k, k ∈ e₁.emitted ↔ k = key ∨ k ∈ e₂.emitted
  fresh : key ∉ e₂.emitted

namespace Marked

theorem ledger (m : Marked key e₁ e₂) : e₁.ledger = e₂.ledger := by rw [m.same]

theorem asked (m : Marked key e₁ e₂) : e₁.asked = e₂.asked := by rw [m.same]

theorem emissions (m : Marked key e₁ e₂) : e₁.emissions = e₂.emissions := by rw [m.same]

/-- An emit to a path of another key does the same for both. -/
theorem emit (m : Marked key e₁ e₂) (t : FileTree) (text : String) (hne : ledgerKey path ≠ key) :
    (e₁.emit t text path).2 = (e₂.emit t text path).2 ∧
      Marked key (e₁.emit t text path).1 (e₂.emit t text path).1 := by
  by_cases hdup : ledgerKey path ∈ e₂.emitted
  · have hdup' : ledgerKey path ∈ e₁.emitted := (m.taken _).2 (.inr hdup)
    rw [emit_of_taken hdup, emit_of_taken hdup']
    exact ⟨rfl, m⟩
  · have hfree : ledgerKey path ∉ e₁.emitted := fun h => ((m.taken _).1 h).elim hne hdup
    have hemit := emit_emitted t text hdup hfree
    rw [← m.same] at hemit
    rw [hemit]
    refine ⟨rfl, rfl, fun k => ?_, ?_⟩
    · rw [mem_emitted_emit, List.mem_cons, m.taken k]
      exact or_left_comm
    · rw [mem_emitted_emit]
      exact fun h => h.elim hne.symm m.fresh

/-- A prune that finds no entry for the key does the same for both. -/
theorem prune (m : Marked key e₁ e₂) (unknown : ∀ d, e₂.ledger.get? key ≠ some d) :
    Marked key e₁.prune e₂.prune := by
  have hledger : e₂.ledger.retain e₁.emitted.contains = e₂.ledger.retain e₂.emitted.contains := by
    apply Ledger.retain_congr
    intro k d hk
    have hne : k ≠ key := by
      rintro rfl
      exact unknown d hk
    rw [Bool.eq_iff_iff]
    simp [m.taken k, hne]
  refine ⟨?_, m.taken, m.fresh⟩
  have hprune : e₁.prune =
      { e₂ with ledger := e₂.ledger.retain e₁.emitted.contains, emitted := e₁.emitted } := by
    unfold Emitter.prune
    rw [m.ledger, m.same]
  rw [hprune, hledger]
  rfl

/-- A prune that finds an entry for the key drops it for the second emitter only. -/
theorem size_prune (m : Marked key e₁ e₂) {digest : String} (known : e₂.ledger.get? key = some digest) :
    e₂.prune.ledger.size < e₁.prune.ledger.size := by
  show (e₂.ledger.retain _).size < (e₁.ledger.retain _).size
  rw [m.ledger]
  refine Ledger.size_retain_lt (fun k hk => ?_) known ?_ ?_
  · simp only [List.contains_iff_mem] at hk ⊢
    exact (m.taken k).2 (.inr hk)
  · simpa using m.fresh
  · simpa using (m.taken key).2 (.inl rfl)

/-! ## Replies -/

/-- A call that tells is answered differently. -/
theorem reply_ne (m : Marked key e₁ e₂) {c : Call} (tells : c.Tells e₂.ledger key) :
    (e₁.reply c).1 ≠ (e₂.reply c).1 := by
  cases c with
  | emit t text path =>
    obtain rfl : ledgerKey path = key := tells
    have refused : (e₁.emit t text path).2.2 = .error (.duplicateOutput path) :=
      emit_refused_iff.2 ((m.taken _).2 (.inl rfl))
    have accepted : (e₂.emit t text path).2.2 ≠ .error (.duplicateOutput path) :=
      fun h => m.fresh (emit_refused_iff.1 h)
    intro h
    injection h with _ _ hresult
    exact accepted (hresult ▸ refused)
  | prune =>
    obtain ⟨digest, known⟩ := tells
    have hlt := m.size_prune known
    have hle : e₁.prune.ledger.size ≤ e₁.ledger.size := Ledger.size_retain_le ..
    intro h
    injection h with hdropped
    rw [m.ledger] at hdropped hle
    omega
  | decisions => exact absurd tells id
  | summary => exact absurd tells id

/-- Any other call is answered alike, and the emitters stay apart by the key only. -/
theorem reply_eq (m : Marked key e₁ e₂) {c : Call} (silent : ¬ c.Tells e₂.ledger key) :
    (e₁.reply c).1 = (e₂.reply c).1 ∧ Marked key (e₁.reply c).2 (e₂.reply c).2 ∧
      (e₂.reply c).2.ledger.get? key = e₂.ledger.get? key := by
  cases c with
  | emit t text path =>
    obtain ⟨hresult, hnext⟩ := m.emit t text silent
    refine ⟨?_, hnext, get?_emit_ne (Ne.symm silent)⟩
    unfold reply
    simp only
    rw [hresult, hnext.asked]
  | prune =>
    have unknown : ∀ d, e₂.ledger.get? key ≠ some d := fun d hd => silent ⟨d, hd⟩
    have hnext := m.prune unknown
    refine ⟨?_, hnext, ?_⟩
    · unfold reply
      simp only
      rw [hnext.ledger, m.ledger]
    · have hnone := Option.eq_none_iff_forall_ne_some.2 unknown
      show e₂.prune.ledger.get? key = _
      rw [get?_prune, hnone]
      simp
  | decisions =>
    refine ⟨?_, m, rfl⟩
    unfold reply
    simp only
    rw [m.emissions]
  | summary =>
    refine ⟨?_, m, rfl⟩
    unfold reply summary
    simp only
    rw [m.emissions]

/-- Calls are answered alike exactly if none of them tells. -/
theorem replies_iff : ∀ (cs : List Call) {e₁ e₂ : Emitter}, Marked key e₁ e₂ →
    (e₁.replies cs = e₂.replies cs ↔ ∀ c ∈ cs, ¬ c.Tells e₂.ledger key)
  | [], _, _, _ => by simp [replies]
  | c :: cs, e₁, e₂, m => by
    unfold replies
    rw [List.cons.injEq, List.forall_mem_cons]
    by_cases htells : c.Tells e₂.ledger key
    · constructor
      · exact fun h => absurd h.1 (m.reply_ne htells)
      · exact fun h => absurd htells h.1
    · obtain ⟨hreply, hnext, hledger⟩ := m.reply_eq htells
      -- no call so far has touched the entry of the key
      have ih := replies_iff cs hnext
      simp only [Call.tells_congr hledger] at ih
      rw [ih]
      exact ⟨fun h => ⟨htells, h.2⟩, fun h => ⟨hreply, h.2⟩⟩

end Marked

/-! ## Keys that calls take -/

theorem mem_emitted_reply {k : String} (c : Call) :
    k ∈ (e.reply c).2.emitted ↔ k ∈ e.emitted ∨ c.key? = some k := by
  cases c with
  | emit t text path =>
    unfold reply Call.key?
    simp only [Option.some.injEq]
    rw [mem_emitted_emit, or_comm, @eq_comm _ k]
  | prune => simp [reply, prune, Call.key?]
  | decisions => simp [reply, Call.key?]
  | summary => simp [reply, Call.key?]

theorem mem_emitted_afterCalls (k : String) :
    ∀ (cs : List Call) (e : Emitter), k ∈ (e.afterCalls cs).emitted ↔ k ∈ e.emitted ∨ ∃ c ∈ cs, c.key? = some k
  | [], e => by simp [afterCalls]
  | c :: cs, e => by
    have ih := mem_emitted_afterCalls k cs (e.reply c).2
    rw [mem_emitted_reply] at ih
    rw [List.exists_mem_cons_iff, ← or_assoc]
    exact ih

/-! ## Emits that fail -/

/-- What an emit that fails leaves of an emitter. -/
structure LeftBehind (e : Emitter) (t : FileTree) (text : String) (path : Path) (e' : Emitter) : Prop where
  /-- Only the keys that are taken and the questions asked can be others. -/
  kept : e' = { e with emitted := e'.emitted, asked := e'.asked }
  asked : ∃ qs, Founded e t text path qs ∧ e'.asked = e.asked ++ qs
  /-- Later calls are answered as if the emit had not been made, by a prompt that was asked all the same, exactly
  if the key was taken before or no call tells. -/
  replies : ∀ cs, e'.replies cs = ({ e with asked := e'.asked } : Emitter).replies cs ↔
    ledgerKey path ∈ e.emitted ∨ ∀ c ∈ cs, ¬ c.Tells e.ledger (ledgerKey path)
  /-- After any calls, a path is refused exactly if its key was taken before the emit or is that of the emit, or if
  a call was an emit with this key, even one that failed. -/
  refused : ∀ cs t' text' path', ((e'.afterCalls cs).emit t' text' path').2.2 = .error (.duplicateOutput path') ↔
    ledgerKey path' ∈ e.emitted ∨ ledgerKey path' = ledgerKey path ∨ ∃ c ∈ cs, c.key? = some (ledgerKey path')

/-- An emit that fails leaves the emitter as it was but for the key of its path, which only an emit to that key
and a prune of its entry can tell. -/
theorem failed_emit_leaves {err : EmitError} (failed : (e.emit t text path).2.2 = .error err) :
    LeftBehind e t text path (e.emit t text path).1 := by
  have hs := emit_spec e t text path
  generalize e.emit t text path = r at hs failed ⊢
  cases hs with
  | duplicate again =>
    refine ⟨rfl, ⟨[], founded_nil, by simp⟩, fun cs => ?_, fun cs t' text' path' => ?_⟩
    · exact ⟨fun _ => .inl again, fun _ => rfl⟩
    · rw [emit_refused_iff, mem_emitted_afterCalls]
      constructor
      · exact Or.imp_right .inr
      · rintro (taken | hkey | later)
        · exact .inl taken
        · exact .inl (hkey ▸ again)
        · exact .inr later
  | @failed u qs _ fresh founded _ =>
    have marked : Marked (ledgerKey path) (e.takeUp path qs) { e with asked := e.asked ++ qs } :=
      ⟨rfl, fun k => List.mem_cons, fresh⟩
    refine ⟨rfl, ⟨qs, founded, rfl⟩, fun cs => ?_, fun cs t' text' path' => ?_⟩
    · rw [or_iff_right fresh]
      exact marked.replies_iff cs
    · rw [emit_refused_iff, mem_emitted_afterCalls]
      show ledgerKey path' ∈ ledgerKey path :: e.emitted ∨ _ ↔ _
      rw [List.mem_cons, or_assoc, or_left_comm]
  | kept _ _ => cases failed
  | adopted _ _ _ => cases failed
  | wrote _ _ _ => cases failed

/-- A file where a directory is needed. -/
def blockedTree : FileTree := ⟨[(⟨.above 0, ["d"]⟩, .file "x".toUTF8)]⟩

/-- Knows the file that is to be written. -/
def knowing : Emitter :=
  .start ⟨⟨"ledger"⟩, SortedMap.empty.insert "d/a.ts" (Digest.ofText "old")⟩ ⟨false, ⟨[]⟩, .prompt⟩ .alwaysDecline

theorem failed_emit_leaves_blocked :
    (knowing.emit blockedTree "new" ⟨"d/a.ts"⟩).2.2 = .error (.io ⟨⟨"d"⟩, .alreadyExists⟩) ∧
    LeftBehind knowing blockedTree "new" ⟨"d/a.ts"⟩ (knowing.emit blockedTree "new" ⟨"d/a.ts"⟩).1 := by
  have failed : (knowing.emit blockedTree "new" ⟨"d/a.ts"⟩).2.2 = .error (.io ⟨⟨"d"⟩, .alreadyExists⟩) := by
    decide +kernel
  exact ⟨failed, failed_emit_leaves failed⟩

/-- The path stays refused when the file is gone, though it would be written had the emit not been tried before,
and its entry stays in the ledger through a prune. -/
theorem retry_refused :
    (knowing.emit blockedTree "new" ⟨"d/a.ts"⟩).2.2 = .error (.io ⟨⟨"d"⟩, .alreadyExists⟩) ∧
    ((knowing.emit blockedTree "new" ⟨"d/a.ts"⟩).1.emit .empty "new" ⟨"d/a.ts"⟩).2.2 =
      .error (.duplicateOutput ⟨"d/a.ts"⟩) ∧
    (knowing.emit .empty "new" ⟨"d/a.ts"⟩).2.2 = .ok .written ∧
    (knowing.emit blockedTree "new" ⟨"d/a.ts"⟩).1.prune.ledger.size = 1 ∧ knowing.prune.ledger.size = 0 := by
  refine ⟨?_, ?_, ?_, ?_, ?_⟩ <;> decide +kernel

end ApiScaffold.Emitter
