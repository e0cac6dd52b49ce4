/-
Tasks that all succeed: they are about paths with distinct ledger keys, and each of them is rendered, emitted and
taken up. What every emit keeps holds after them.
-/
import ApiScaffold.Proofs.Generation.History

namespace ApiScaffold

open Emitter (ledgerKey)

/-- A first task that succeeds renders a text and emits it. -/
theorem performAll_cons_ok {k : Task} {ks : List Task} {w w' : Workspace}
    (h : performAll (k :: ks) w = (.ok (), w')) :
    ∃ text library e t d, w.library.render w.tree k.template k.context.frame = .ok (text, library) ∧
      w.emitter.emit w.tree text k.path = (e, t, .ok d) ∧ performAll ks ⟨library, t, e⟩ = (.ok (), w') := by
  unfold performAll Task.perform at h
  rcases hr : w.library.render w.tree k.template k.context.frame with err | ⟨text, library⟩ <;> rw [hr] at h
  · cases h
  · simp only at h
    rcases he : w.emitter.emit w.tree text k.path with ⟨e, t, err | d⟩ <;> rw [he] at h
    · cases h
    · exact ⟨text, library, e, t, d, rfl, he, h⟩

theorem perform_of_emit {k : Task} {w : Workspace} {text : String} {library : Template.Library} {e : Emitter}
    {t : FileTree} {d : Decision} (hr : w.library.render w.tree k.template k.context.frame = .ok (text, library))
    (he : w.emitter.emit w.tree text k.path = (e, t, .ok d)) : (k.perform w).2 = ⟨library, t, e⟩ := by
  unfold Task.perform
  rw [hr]
  simp only [he]

theorem performAll_cons_of {k : Task} {ks : List Task} {w : Workspace} {text : String} {library : Template.Library}
    {e : Emitter} {t : FileTree} {d : Decision}
    (hr : w.library.render w.tree k.template k.context.frame = .ok (text, library))
    (he : w.emitter.emit w.tree text k.path = (e, t, .ok d)) :
    performAll (k :: ks) w = performAll ks ⟨library, t, e⟩ := by
  rw [performAll, Task.perform, hr]
  simp only [he]

/-- Tasks that succeed are about paths that were not taken up before. -/
theorem fresh_of_ok :
    ∀ {ks : List Task} {w w' : Workspace}, performAll ks w = (.ok (), w') →
      ∀ k ∈ ks, ledgerKey k.path ∉ w.emitter.emitted
  | [], _, _, _, _, hk' => by cases hk'
  | k :: ks, w, w', h, k', hk' => by
    obtain ⟨text, library, e, t, d, -, he, hrest⟩ := performAll_cons_ok h
    rcases List.mem_cons.1 hk' with rfl | hk'
    · exact (Emitter.emit_ok he).1
    · intro hold
      refine fresh_of_ok hrest k' hk' ?_
      show _ ∈ e.emitted
      rw [(Emitter.emit_ok he).2.1]
      exact List.mem_cons_of_mem _ hold

/-- The ledger keys of tasks that succeed are distinct. -/
theorem head_key_ne {k : Task} {ks : List Task} {w w' : Workspace} (h : performAll (k :: ks) w = (.ok (), w')) :
    ∀ k' ∈ ks, ledgerKey k'.path ≠ ledgerKey k.path := by
  obtain ⟨text, library, e, t, d, -, he, hrest⟩ := performAll_cons_ok h
  intro k' hk' heq
  refine fresh_of_ok hrest k' hk' ?_
  show _ ∈ e.emitted
  rw [(Emitter.emit_ok he).2.1, heq]
  exact List.mem_cons_self ..

section

variable {ks : List Task} {w w' : Workspace}

theorem performAll_induction {P : Emitter → FileTree → Prop} (h : performAll ks w = (.ok (), w'))
    (start : P w.emitter w.tree) (kept : Kept (ks.map (·.path)) P) : P w'.emitter w'.tree := by
  have hkept := performAll_kept kept (fun k (hk : k ∈ ks) => List.mem_map_of_mem hk) start
  rw [h] at hkept
  exact hkept

theorem performAll_grows (h : performAll ks w = (.ok (), w')) : FileTree.Grows w.tree w'.tree :=
  performAll_induction h (P := fun _ t => FileTree.Grows w.tree t) (.refl _)
    fun e t text path _ ht => ht.trans (Emitter.emit_grows e t text path)

theorem performAll_fileAt (h : performAll ks w = (.ok (), w')) {p : Place} (hp : ∀ k ∈ ks, k.path.place ≠ p) :
    w'.tree.fileAt p = w.tree.fileAt p := by
  refine performAll_induction h (P := fun _ t => t.fileAt p = w.tree.fileAt p) rfl ?_
  intro e t text path hpath ht
  obtain ⟨k, hk, rfl⟩ := List.mem_map.1 hpath
  exact (Emitter.fileAt_emit_ne text (hp k hk).symm).trans ht

theorem performAll_get? (h : performAll ks w = (.ok (), w')) {key : String} (hkey : ∀ k ∈ ks, ledgerKey k.path ≠ key) :
    w'.emitter.ledger.get? key = w.emitter.ledger.get? key := by
  refine performAll_induction h (P := fun e _ => e.ledger.get? key = w.emitter.ledger.get? key) rfl ?_
  intro e t text path hpath ht
  obtain ⟨k, hk, rfl⟩ := List.mem_map.1 hpath
  exact (Emitter.get?_emit_ne (hkey k hk).symm).trans ht

end

/-- Tasks that succeed make one emission each, in order. -/
theorem emissions_of_ok :
    ∀ {ks : List Task} {w w' : Workspace}, performAll ks w = (.ok (), w') →
      w'.emitter.emissions.map (·.path) = w.emitter.emissions.map (·.path) ++ ks.map (·.path)
  | [], _, _, h => by
    cases h
    exact (List.append_nil _).symm
  | k :: ks, w, w', h => by
    obtain ⟨text, library, e, t, d, -, he, hrest⟩ := performAll_cons_ok h
    rw [emissions_of_ok hrest]
    show e.emissions.map (·.path) ++ _ = _
    rw [(Emitter.emit_ok he).2.2.2, List.map_append, List.append_assoc]
    rfl

/-- The paths of tasks that succeed are taken up, and no others. -/
theorem mem_emitted_of_ok :
    ∀ {ks : List Task} {w w' : Workspace}, performAll ks w = (.ok (), w') →
      ∀ {key : String}, key ∈ w'.emitter.emitted ↔ key ∈ w.emitter.emitted ∨ ∃ k ∈ ks, ledgerKey k.path = key
  | [], _, _, h, key => by
    cases h
    simp
  | k :: ks, w, w', h, key => by
    obtain ⟨text, library, e, t, d, -, he, hrest⟩ := performAll_cons_ok h
    rw [mem_emitted_of_ok hrest]
    show key ∈ e.emitted ∨ _ ↔ _
    rw [(Emitter.emit_ok he).2.1, List.mem_cons, List.exists_mem_cons_iff, eq_comm]
    tauto

theorem emitted_of_ok {ks : List Task} {w w' : Workspace} (h : performAll ks w = (.ok (), w')) :
    ∀ k ∈ ks, ledgerKey k.path ∈ w'.emitter.emitted :=
  fun k hk => (mem_emitted_of_ok h).2 (.inr ⟨k, hk, rfl⟩)

end ApiScaffold
