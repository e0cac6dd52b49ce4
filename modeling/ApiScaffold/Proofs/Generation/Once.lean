/-
Calls on one emitter. The key of a path is taken once, so of two paths with one key the second is refused; and a call
writes no file but that of its path. Files are therefore written once as far as paths that denote one file are spelled
alike: the emitter compares the keys of paths, not their places.
-/
import ApiScaffold.Proofs.Generation.History

namespace ApiScaffold

open Emitter (ledgerKey)

namespace Call

variable (c : Call)

/-- The emitter after the call. -/
def next : Emitter := (c.emitter.emit c.tree c.text c.path).1

def result : Except EmitError Decision := (c.emitter.emit c.tree c.text c.path).2.2

/-- Whether the call succeeded by writing its file. -/
def writes : Bool :=
  match c.result with
  | .ok d => d.writes
  | .error _ => false

/-- The path was taken before, and the call left everything as it was. -/
structure Refused : Prop where
  result : c.result = .error (.duplicateOutput c.path)
  after : c.after = c.tree
  next : c.next = c.emitter

variable {c}

theorem refused_of_taken (h : ledgerKey c.path ∈ c.emitter.emitted) : c.Refused := by
  have hemit : c.emitter.emit c.tree c.text c.path = (c.emitter, c.tree, .error (.duplicateOutput c.path)) :=
    Emitter.emit_of_taken h
  exact ⟨congrArg (·.2.2) hemit, congrArg (·.2.1) hemit, congrArg (·.1) hemit⟩

theorem Refused.writes (h : c.Refused) : c.writes = false := by
  unfold Call.writes
  rw [h.result]

/-- A file that a call changed is that of its path, and the call succeeded by writing it. -/
theorem changed {p : Place} (h : c.after.fileAt p ≠ c.tree.fileAt p) : c.path.place = p ∧ c.writes = true := by
  have hs := Emitter.emit_spec c.emitter c.tree c.text c.path
  unfold after at h
  unfold Call.writes result
  generalize c.emitter.emit c.tree c.text c.path = r at hs h ⊢
  cases hs with
  | failed _ _ adds => exact absurd (adds.fileAt p) h
  | wrote _ why done => exact ⟨by_contra fun hp => h (FileTree.writeDeep_fileAt_ne done (Ne.symm hp)), why.writes⟩
  | _ => exact absurd rfl h

end Call

/-- Calls one after the other on one emitter, on whatever trees they find. -/
def OnOneEmitter (cs : List Call) : Prop := cs.IsChain fun c c' => c'.emitter = c.next

/-- What one call has taken stays taken in all calls after it. -/
theorem OnOneEmitter.taken {cs : List Call} (h : OnOneEmitter cs) :
    cs.Pairwise fun c c' => ledgerKey c.path ∈ c'.emitter.emitted ∧ c.emitter.emitted ⊆ c'.emitter.emitted := by
  let taken (c c' : Call) : Prop := ledgerKey c.path ∈ c'.emitter.emitted ∧ c.emitter.emitted ⊆ c'.emitter.emitted
  -- that what was taken stays taken is what makes this hold beyond neighbours
  have : Trans taken taken taken := ⟨fun h h' => ⟨h'.2 h.1, List.Subset.trans h.2 h'.2⟩⟩
  refine List.IsChain.pairwise (h.imp fun c c' hnext => ?_)
  show ledgerKey c.path ∈ c'.emitter.emitted ∧ c.emitter.emitted ⊆ c'.emitter.emitted
  rw [hnext]
  exact Emitter.emitted_emit ..

/-- When of two calls for one file the second is refused, at most one of them writes it. -/
theorem writes_of_refused {cs : List Call} (refused : cs.Pairwise fun c c' => c.path.place = c'.path.place → c'.Refused)
    (p : Place) : (cs.filter fun c => c.path.place = p ∧ c.writes).length ≤ 1 := by
  have hpairs := refused.filter fun c => c.path.place = p ∧ c.writes
  have mem : ∀ c ∈ cs.filter fun c => c.path.place = p ∧ c.writes, c.path.place = p ∧ c.writes = true :=
    fun c hc => of_decide_eq_true (List.mem_filter.1 hc).2
  generalize (cs.filter fun c => c.path.place = p ∧ c.writes) = written at hpairs mem ⊢
  match written with
  | [] => exact Nat.zero_le 1
  | [_] => exact Nat.le_refl 1
  | c :: c' :: rest =>
    -- both are for the same file, so the second was refused and wrote nothing
    obtain ⟨hc, -⟩ := mem c (List.mem_cons_self ..)
    obtain ⟨hc', hwrites⟩ := mem c' (List.mem_cons_of_mem _ (List.mem_cons_self ..))
    have hrefused : c'.Refused := List.rel_of_pairwise_cons hpairs (List.mem_cons_self ..) (hc.trans hc'.symm)
    exact absurd (hrefused.writes.symm.trans hwrites) Bool.false_ne_true

/-- What it means that calls write a file once. -/
structure WriteOnce (cs : List Call) : Prop where
  /-- Of two calls for one file the second is refused. -/
  refused : cs.Pairwise fun c c' => c.path.place = c'.path.place → c'.Refused
  once : ∀ p, (cs.filter fun c => c.path.place = p ∧ c.writes).length ≤ 1
  /-- No file is written in another way. -/
  changed : ∀ c ∈ cs, ∀ p, c.after.fileAt p ≠ c.tree.fileAt p → c.path.place = p ∧ c.writes = true

/-- On one emitter every file is written at most once, if paths that denote one file are spelled alike. -/
theorem written_once {cs : List Call} (h : OnOneEmitter cs)
    (spelled : ∀ c ∈ cs, ∀ c' ∈ cs, c.path.place = c'.path.place → ledgerKey c.path = ledgerKey c'.path) :
    WriteOnce cs := by
  have refused : cs.Pairwise fun c c' => c.path.place = c'.path.place → c'.Refused := by
    refine h.taken.imp_of_mem fun {c c'} hc hc' htaken hplace => Call.refused_of_taken ?_
    rw [← spelled c hc c' hc' hplace]
    exact htaken.1
  exact ⟨refused, writes_of_refused refused, fun c _ p => Call.changed⟩

/-! ## Calls with force -/

/-- Brings a text to some paths, on one emitter and one tree. -/
def callsFor (text : String) : Emitter → FileTree → List Path → List Call
  | _, _, [] => []
  | e, t, p :: ps =>
    let c : Call := ⟨e, t, text, p⟩
    c :: callsFor text c.next c.after ps

theorem callsFor_onOneEmitter (text : String) :
    ∀ (ps : List Path) (e : Emitter) (t : FileTree), OnOneEmitter (callsFor text e t ps)
  | [], _, _ => .nil
  | [_], _, _ => .singleton _
  | _ :: q :: ps, _, _ => .cons_cons rfl (callsFor_onOneEmitter text (q :: ps) _ _)

/-- Calls that replace files without asking, in an empty tree. -/
def forcedCalls (paths : List String) : List Call :=
  callsFor "x" (.start ⟨⟨"ledger"⟩, .empty⟩ ⟨true, .ofTexts [], .prompt⟩ .alwaysDecline) .empty (paths.map Path.mk)

theorem written_once_forced : WriteOnce (forcedCalls ["a", "b/../c", "a"]) :=
  written_once (callsFor_onOneEmitter ..) (by decide +kernel)

/-- Two paths that are spelled differently may denote one file, and then it is written twice. -/
theorem written_twice : ¬ ∀ cs, OnOneEmitter cs → WriteOnce cs := by
  intro claim
  have honce := (claim (forcedCalls ["a", "./a"]) (callsFor_onOneEmitter ..)).once (Path.mk "a").place
  have htwice : ((forcedCalls ["a", "./a"]).filter fun c => c.path.place = (Path.mk "a").place ∧ c.writes).length = 2 := by
    decide +kernel
  exact absurd (htwice ▸ honce) (by decide)

end ApiScaffold
