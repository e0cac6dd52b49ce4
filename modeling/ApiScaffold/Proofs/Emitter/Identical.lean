/-
Files that hold their text already. The prompt is asked about a file exactly if that is in doubt (`plan_eq_ask_iff`),
and what it is shown is empty exactly if the file reads as the text (`diff_eq_empty_iff`). So of the files that hold
their text just those are asked about for which the ledger has another digest, and all keep their bytes
(`identical_asked_iff`).
-/
import ApiScaffold.Proofs.Diff.Unified
import ApiScaffold.Proofs.Emitter.Step

namespace ApiScaffold.Emitter

variable {e : Emitter} {t : FileTree} {text : String} {path : Path} {c : ByteArray}

/-! ## Questions -/

/-- The plan is to ask about the files that are in doubt. -/
theorem plan_eq_ask_iff : e.plan t text path = .ok (.ask c) ↔ Doubts e t text path c := by
  have hplan := plan_spec e t text path
  constructor
  · intro h
    rw [h] at hplan
    cases hplan with
    | ask doubts => exact doubts
  · intro doubts
    generalize e.plan t text path = p at hplan ⊢
    cases hplan with
    | unreadable _ _ _ unread => rw [doubts.read] at unread; cases unread
    | keep why =>
      cases why with
      | guarded covered => rw [doubts.uncovered] at covered; cases covered
      | unchanged _ known => exact absurd rfl (doubts.edited _ known).1
    | adopt looked unknown => exact absurd (looked.unique doubts.read) (doubts.unknown unknown.1).2
    | write why =>
      cases why with
      | missing _ absent => rw [FileTree.pathExists_of_read doubts.read] at absent; cases absent
      | forced _ force => rw [doubts.unforced] at force; cases force
      | untracked _ unknown =>
        rw [(doubts.unknown unknown.1).1] at unknown
        cases unknown.2
      | unedited looked known _ =>
        obtain rfl := looked.unique doubts.read
        exact absurd rfl (doubts.edited _ known).2
    | ask doubts' => rw [doubts'.toCompares.unique doubts.read]

/-- A file in doubt is asked about, whatever comes of it. -/
theorem asked_of_doubts (fresh : ledgerKey path ∉ e.emitted) (doubts : Doubts e t text path c) :
    (e.emit t text path).1.asked = e.asked ++ [question text path c] := by
  have hdup : ¬ e.emitted.contains (ledgerKey path) = true := by simpa using fresh
  unfold emit
  rw [if_neg hdup]
  have hplan : ({ e with emitted := ledgerKey path :: e.emitted } : Emitter).plan t text path =
      e.plan t text path := rfl
  simp only [hplan, plan_eq_ask_iff.2 doubts, carryOut, write]
  rcases e.prompt (e.asked ++ [question text path c]) with _ | _ | reason
  · rcases t.writeDeep path text.toUTF8 with ⟨u, f | ⟨⟩⟩ <;> rfl
  · rfl
  · rfl

/-- Without doubt nothing is asked. -/
theorem asked_of_certain (certain : ∀ c, ¬ Doubts e t text path c) : (e.emit t text path).1.asked = e.asked := by
  have none : ∀ {qs}, Founded e t text path qs → e.asked ++ qs = e.asked := by
    intro qs founded
    rcases qs with _ | ⟨q, qs⟩
    · exact List.append_nil _
    · obtain ⟨c, doubts, -⟩ := founded q (List.mem_cons_self ..)
      exact absurd doubts (certain c)
  have hs := emit_spec e t text path
  generalize e.emit t text path = r at hs ⊢
  cases hs with
  | duplicate _ => rfl
  | failed _ founded _ => exact none founded
  | kept _ why => exact none why.founded
  | adopted _ _ _ => exact none founded_nil
  | wrote _ why _ => exact none why.founded

/-- The prompt is shown nothing exactly if the file reads as the text. -/
theorem diff_eq_empty_iff : (question text path c).diff = "" ↔ Text.decodeLossy c = text := by
  unfold question
  dsimp only
  rw [Diff.unified_eq_empty_iff]

theorem decodeLossy_toUTF8 (text : String) : Text.decodeLossy text.toUTF8 = text := by
  unfold Text.decodeLossy
  rw [fromUTF8?_toUTF8]
  rfl

/-! ## Files that hold their text -/

/-- The ledger has a digest of another text for a path. -/
def Stale (e : Emitter) (text : String) (path : Path) : Prop :=
  ∃ old, e.ledger.get? (ledgerKey path) = some old ∧ old ≠ Digest.ofText text

/-- A file that holds its text is in doubt exactly if the ledger has another digest. -/
theorem doubts_iff_stale (looked : Compares e t path text.toUTF8) :
    Doubts e t text path text.toUTF8 ↔ e.Stale text path := by
  constructor
  · intro doubts
    rcases hentry : e.ledger.get? (ledgerKey path) with _ | old
    · exact absurd rfl (doubts.unknown hentry).2
    · exact ⟨old, hentry, (doubts.edited old hentry).1.symm⟩
  · rintro ⟨old, hold, hne⟩
    refine ⟨looked, fun hnone => ?_, fun d hd => ?_⟩
    · rw [hold] at hnone
      cases hnone
    · rw [hold] at hd
      cases hd
      exact ⟨hne.symm, hne.symm⟩

/-- An emit leaves the bytes of a file that holds its text, even if it writes them anew. -/
theorem fileAt_emit_of_identical (identical : t.read path = .ok text.toUTF8) (p : Place) :
    (e.emit t text path).2.1.fileAt p = t.fileAt p := by
  by_cases hp : p = path.place
  swap
  · exact fileAt_emit_ne text hp
  subst hp
  have hs := emit_spec e t text path
  generalize e.emit t text path = r at hs ⊢
  cases hs with
  | failed _ _ adds => exact adds.fileAt _
  | wrote _ _ done =>
    rw [(FileTree.read_ok.1 (FileTree.writeDeep_read done)).2, (FileTree.read_ok.1 identical).2]
  | _ => rfl

/-- Without force, a file that holds its text is asked about exactly if the ledger has another digest for it, and then
once and with nothing to show. It keeps its bytes in any case. What the prompt is shown about a path is empty exactly if
the file there reads as the text. -/
theorem identical_asked_iff (fresh : ledgerKey path ∉ e.emitted)
    (uncovered : e.options.protection.covers (ledgerKey path) = false) (unforced : e.options.force = false)
    (identical : t.read path = .ok text.toUTF8) :
    (∀ p, (e.emit t text path).2.1.fileAt p = t.fileAt p) ∧
      ((e.emit t text path).1.asked = e.asked ↔ ¬ e.Stale text path) ∧
      (e.Stale text path →
        ∃ q, (e.emit t text path).1.asked = e.asked ++ [q] ∧ q.path = path ∧ q.diff = "") ∧
      ∀ content, (question text path content).diff = "" ↔ Text.decodeLossy content = text := by
  have looked : Compares e t path text.toUTF8 := ⟨uncovered, unforced, identical⟩
  have asks : e.Stale text path → (e.emit t text path).1.asked = e.asked ++ [question text path text.toUTF8] :=
    fun stale => asked_of_doubts fresh ((doubts_iff_stale looked).2 stale)
  refine ⟨fileAt_emit_of_identical identical, ⟨fun unasked stale => ?_, fun current => ?_⟩, fun stale => ?_,
    fun content => diff_eq_empty_iff⟩
  · rw [asks stale] at unasked
    simp at unasked
  · refine asked_of_certain fun c doubts => current ?_
    obtain rfl := doubts.toCompares.unique identical
    exact (doubts_iff_stale looked).1 doubts
  · exact ⟨_, asks stale, rfl, diff_eq_empty_iff.2 (decodeLossy_toUTF8 text)⟩

/-- A file that a run wrote. -/
def writtenTree : FileTree := ⟨[(⟨.above 0, ["a.ts"]⟩, .file "new".toUTF8)]⟩

/-- Does not know the file, and overwrites what it does not know. -/
def overwriting : Emitter := .start ⟨⟨"ledger"⟩, .empty⟩ ⟨false, ⟨[]⟩, .overwrite⟩ .alwaysDecline

theorem identical_asked_iff_overwriting : ledgerKey ⟨"a.ts"⟩ ∉ overwriting.emitted ∧
    overwriting.options.protection.covers (ledgerKey ⟨"a.ts"⟩) = false ∧ overwriting.options.force = false ∧
    writtenTree.read ⟨"a.ts"⟩ = .ok "new".toUTF8 ∧ (overwriting.emit writtenTree "new" ⟨"a.ts"⟩).1.asked = [] ∧
    ∀ p, (overwriting.emit writtenTree "new" ⟨"a.ts"⟩).2.1.fileAt p = writtenTree.fileAt p := by
  have fresh : ledgerKey ⟨"a.ts"⟩ ∉ overwriting.emitted := List.not_mem_nil
  have uncovered : overwriting.options.protection.covers (ledgerKey ⟨"a.ts"⟩) = false := rfl
  have identical : writtenTree.read ⟨"a.ts"⟩ = .ok "new".toUTF8 := rfl
  obtain ⟨bytes, asked, -⟩ := identical_asked_iff fresh uncovered rfl identical
  refine ⟨fresh, uncovered, rfl, identical, asked.2 ?_, bytes⟩
  rintro ⟨old, hold, -⟩
  cases hold

/-- Knows the text before, since the run that wrote the file did not come to its end. -/
def behind : Emitter :=
  .start ⟨⟨"ledger"⟩, SortedMap.empty.insert "a.ts" (Digest.ofText "old")⟩ ⟨false, ⟨[]⟩, .prompt⟩ .alwaysDecline

/-- A file that holds its text is asked about, with nothing to show, when the ledger is behind. -/
theorem identical_asked_about : ledgerKey ⟨"a.ts"⟩ ∉ behind.emitted ∧
    behind.options.protection.covers (ledgerKey ⟨"a.ts"⟩) = false ∧ behind.options.force = false ∧
    writtenTree.read ⟨"a.ts"⟩ = .ok "new".toUTF8 ∧ behind.asked = [] ∧
    (behind.emit writtenTree "new" ⟨"a.ts"⟩).1.asked = [⟨⟨"a.ts"⟩, ""⟩] := by
  refine ⟨List.not_mem_nil, rfl, rfl, rfl, rfl, ?_⟩
  decide +kernel

end ApiScaffold.Emitter
