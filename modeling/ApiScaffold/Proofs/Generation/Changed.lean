/-
What the summary of a run counts as changed. A file counts when its bytes changed, but also when a text was written to
it that it held already (`Emission.restates`), and nothing else does (`Job.Counts`). The second happens only where a
file is written without being compared with the new text: by force, by overwriting a file that the ledger does not
know, by an answer of the prompt, or behind a path that leads nowhere yet (`Emission.Blind`).
-/
import ApiScaffold.CommandLine.Reply
import ApiScaffold.Proofs.Generation.EditSafety
import ApiScaffold.Proofs.Generation.Outputs
import ApiScaffold.Proofs.Generation.Tracking
import Mathlib

namespace ApiScaffold

open Emitter (ledgerKey)

/-! ## Counting -/

/-- Whether a path has other bytes in the second tree, or a file in only one of them. -/
def FileTree.changes (t u : FileTree) (p : Path) : Bool := t.fileAt p.place ≠ u.fileAt p.place

/-- Whether a text was written to a file that held it already. -/
def Emission.restates (found : FileTree) (m : Emission) : Bool :=
  m.decision.writes && decide (found.fileAt m.path.place = some m.text.toUTF8)

/-- What is counted in one of two ways that exclude each other. -/
theorem countP_eq_add {α : Type} {p q r : α → Bool} :
    ∀ {l : List α}, (∀ a ∈ l, (p a).toNat = (q a).toNat + (r a).toNat) → l.countP p = l.countP q + l.countP r
  | [], _ => rfl
  | a :: l, h => by
    have ha := h a (List.mem_cons_self ..)
    have ih := countP_eq_add fun b hb => h b (List.mem_cons_of_mem _ hb)
    rw [List.countP_cons, List.countP_cons, List.countP_cons]
    cases hp : p a <;> cases hq : q a <;> cases hr : r a <;> simp [hp, hq, hr] at ha ⊢ <;> omega

/-! ## Writing without looking -/

/-- Why a run may write a text to a file that holds it already, given the questions asked so far. -/
inductive Emission.Blind (j : Job) (found : FileTree) (asked : List Question) (m : Emission) : Prop
  | forced (h : j.config.overwrite = true)
  | untracked (unknown : (j.ledger found).get? (ledgerKey m.path) = none) (h : j.config.untracked = .overwrite)
  | accepted {d : String} {qs : List Question} {q : Question}
      (known : (j.ledger found).get? (ledgerKey m.path) = some d) (outdated : Digest.ofText m.text ≠ d)
      (about : q.path = m.path) (asks : qs ++ [q] <+: asked) (answer : j.prompt (qs ++ [q]) = .accept)
  | hidden (h : found.pathExists m.path = false)

theorem Emission.Blind.mono {j : Job} {found : FileTree} {asked asked' : List Question} {m : Emission}
    (h : m.Blind j found asked) (more : asked <+: asked') : m.Blind j found asked' := by
  cases h with
  | forced h => exact .forced h
  | untracked unknown h => exact .untracked unknown h
  | accepted known outdated about asks answer => exact .accepted known outdated about (asks.trans more) answer
  | hidden h => exact .hidden h

/-- An emitter on the way through a job, with a reason for every text that was written to a file that held it. -/
structure Emitter.Accounts (j : Job) (found : FileTree) (e : Emitter) (t : FileTree) : Prop where
  progress : Progress (· ∈ j.outputs) (j.ledger found) found e t
  grows : FileTree.Grows found t
  options : e.options = j.config.emitOptions
  prompt : e.prompt = j.prompt
  blind : ∀ m ∈ e.emissions, m.restates found = true → m.Blind j found e.asked

namespace Emitter.Accounts

variable {j : Job} {found t : FileTree} {e : Emitter} {text : String} {path : Path} {d : Decision} {qs : List Question}

/-- A file that holds the text and is written all the same was not compared with it. -/
theorem blind_of_writes (h : Accounts j found e t) (hpath : path ∈ j.outputs) (fresh : ledgerKey path ∉ e.emitted)
    (why : Writes e t text path d qs) (hheld : found.fileAt path.place = some text.toUTF8) :
    (⟨path, text, d⟩ : Emission).Blind j found (e.asked ++ qs) := by
  have hentry := h.progress.fresh path hpath fresh
  have hcontent : ∀ {c}, Compares e t path c → c = text.toUTF8 := fun looked =>
    Option.some.inj ((FileTree.read_ok.1 looked.read).2.symm.trans ((h.progress.fileAt_fresh hpath fresh).trans hheld))
  cases why with
  | missing _ habsent =>
    refine .hidden ((Bool.eq_false_or_eq_true _).resolve_left fun hthere => ?_)
    exact Bool.false_ne_true (habsent.symm.trans (h.grows.pathExists hthere))
  | forced _ hforce => exact .forced ((congrArg EmitOptions.force h.options).symm.trans hforce)
  | untracked _ unknown =>
    exact .untracked (hentry.symm.trans unknown.1) ((congrArg EmitOptions.untracked h.options).symm.trans unknown.2)
  | unedited looked _ outdated =>
    cases hcontent looked
    exact absurd rfl outdated
  | accepted doubts answer =>
    cases hcontent doubts.toCompares
    rcases hknown : e.ledger.get? (ledgerKey path) with _ | old
    · exact absurd rfl (doubts.unknown hknown).2
    · have hknown' := hentry.symm.trans hknown
      exact .accepted hknown' (doubts.edited old hknown).1 rfl (List.prefix_refl _) (h.prompt ▸ answer)

theorem emit (h : Accounts j found e t) (apart : Apart (· ∈ j.outputs) j.config.ledgerPath) (hpath : path ∈ j.outputs)
    (text : String) : Accounts j found (e.emit t text path).1 (e.emit t text path).2.1 := by
  refine ⟨h.progress.emit apart hpath text, h.grows.trans (emit_grows ..), (options_emit ..).trans h.options,
    (prompt_emit ..).trans h.prompt, ?_⟩
  have older : ∀ {qs}, ∀ m ∈ e.emissions, m.restates found = true → m.Blind j found (e.asked ++ qs) :=
    fun m hm hheld => (h.blind m hm hheld).mono (List.prefix_append ..)
  have hs := emit_spec e t text path
  generalize e.emit t text path = r at hs ⊢
  cases hs with
  | duplicate _ => exact h.blind
  | failed _ _ _ => exact older
  | kept _ why =>
    intro m hm hheld
    rcases List.mem_append.1 hm with hm | hm
    · exact older m hm hheld
    · cases List.mem_singleton.1 hm
      rw [Emission.restates, why.writes] at hheld
      cases hheld
  | adopted _ _ _ =>
    intro m hm hheld
    rcases List.mem_append.1 hm with hm | hm
    · exact older m hm hheld
    · cases List.mem_singleton.1 hm
      cases hheld
  | wrote fresh why _ =>
    intro m hm hheld
    rcases List.mem_append.1 hm with hm | hm
    · exact older m hm hheld
    · cases List.mem_singleton.1 hm
      exact h.blind_of_writes hpath fresh why (of_decide_eq_true (Bool.and_eq_true_iff.1 hheld).2)

end Emitter.Accounts

/-! ## The summary of a run -/

section

variable {j : Job} {t : FileTree} {s : RunSummary}

/-- The outputs of a run that succeeds have keys of their own. -/
theorem Job.apart_of_ok (hplaces : ∀ p ∈ j.outputs, ∀ q ∈ j.outputs, p.place = q.place → p = q)
    (hledger : ∀ p ∈ j.outputs, p.place ≠ j.config.ledgerPath.place) (hok : (j.run t).result = .ok s) :
    Apart (· ∈ j.outputs) j.config.ledgerPath where
  place := fun hp hq => hplaces _ hp _ hq
  key := fun hp hq => List.inj_on_of_nodup_map (keys_nodup_of_ok (Job.run_saved hok).1) hp hq
  ledger := fun hp => hledger _ hp

theorem Job.final_accounts (t : FileTree) (apart : Apart (· ∈ j.outputs) j.config.ledgerPath) :
    (j.final t).emitter.Accounts j t (j.final t).tree := by
  refine j.final_induction t (P := fun e u => e.Accounts j t u) ?_ fun _ _ text path hpath h => h.emit apart hpath text
  exact ⟨.start _ _, .refl t, rfl, rfl, fun m hm => by cases hm⟩

/-- The summary of a run that succeeds counts the texts that it wrote. -/
theorem Job.changed_of_ok (hok : (j.run t).result = .ok s) :
    s.changed = (j.run t).emissions.countP (·.decision.writes) := by
  rw [Job.result_summary hok, j.run_emissions t, Emitter.summary, RunSummary.changed_ofDecisions, List.countP_map]
  rfl

/-- Once a run has succeeded, a file that it wrote holds its text, and the others are as they were. -/
theorem Job.left_of_ok (apart : Apart (· ∈ j.outputs) j.config.ledgerPath) (hok : (j.run t).result = .ok s)
    {m : Emission} (hm : m ∈ (j.run t).emissions) :
    (j.run t).tree.fileAt m.path.place = if m.decision.writes then some m.text.toUTF8 else t.fileAt m.path.place := by
  have hprogress := (j.final_accounts t apart).progress
  have hm' : m ∈ (j.final t).emitter.emissions := j.run_emissions t ▸ hm
  have hout := (hprogress.emissions m hm').1
  rw [j.run_fileAt_of_ne (apart.ledger hout)]
  rcases hwrites : m.decision.writes with _ | _
  · refine (hprogress.spared m.path hout fun m' hm'' hpath => ?_).1
    -- keys are distinct, so this is the only emission to its path
    have hkeys : ((j.final t).emitter.emissions.map (ledgerKey ·.path)).Nodup := by
      have hnodup := keys_nodup_of_ok (Job.run_saved hok).1
      rw [show j.tasks.map (·.path) = (j.final t).emitter.emissions.map (·.path) from
        (emissions_of_ok (Job.run_saved hok).1).symm, List.map_map] at hnodup
      exact hnodup
    cases List.inj_on_of_nodup_map hkeys hm'' hm' (congrArg ledgerKey hpath)
    exact hwrites
  · exact (hprogress.written m hm' hwrites).1

theorem Job.changed_eq (apart : Apart (· ∈ j.outputs) j.config.ledgerPath) (hok : (j.run t).result = .ok s) :
    s.changed = j.outputs.countP (t.changes (j.run t).tree) + (j.run t).emissions.countP (·.restates t) := by
  rw [Job.changed_of_ok hok, ← Job.map_path_emissions hok, List.countP_map]
  refine countP_eq_add fun m hm => ?_
  have hleft := Job.left_of_ok apart hok hm
  simp only [Function.comp_apply, FileTree.changes, Emission.restates, hleft]
  generalize t.fileAt m.path.place = before, m.text.toUTF8 = c
  by_cases hheld : before = some c <;> cases m.decision.writes <;> simp [hheld]

/-- A careful run compares every file that its paths lead to. -/
theorem Job.Careful.not_blind (careful : j.Careful j.config.ledgerPath) {m : Emission} {asked : List Question}
    (visible : t.pathExists m.path = true) : ¬ m.Blind j t asked := by
  intro h
  cases h with
  | forced h => exact Bool.false_ne_true (careful.unforced.symm.trans h)
  | untracked _ h => cases careful.prompts.symm.trans h
  | accepted _ _ _ _ answer => exact careful.declines _ answer
  | hidden h => exact Bool.false_ne_true (h.symm.trans visible)

end

/-! ## What the command line says -/

/-- The line that ends what is said of a run that changed nothing. -/
def CommandLine.idleLine : String := "Nothing to do, output is up to date.\n"

/-- Whether a reply ends by saying that there was nothing to do. -/
def CommandLine.Reply.SaysIdle (r : Reply) : Prop := idleLine.toList <:+ r.messages.toList

/-- What the command line runs for a document. -/
def CommandLine.jobOf (doc : Document) (config : Config) (yes : Bool) : Job :=
  ⟨doc, config.implementation.backend, config, if yes then .alwaysAccept else .alwaysDecline⟩

theorem CommandLine.messages_generate {t : FileTree} {doc : Document} {config : Config} {yes : Bool} {s : RunSummary}
    (hdoc : loadDocument t config.spec = .ok doc) (hok : ((jobOf doc config yes).run t).result = .ok s) :
    ∃ before, (generate t config yes).messages =
      before ++ ("  " ++ s.text ++ "\n" ++ if s.changed = 0 then idleLine else "") := by
  have hresult : (Generation.run t doc config.implementation.backend config
      (if yes then .alwaysAccept else .alwaysDecline)).result = .ok s := hok
  unfold generate
  rw [hdoc]
  simp only [hresult, Reply.told, Reply.after]
  refine ⟨_, congrArg _ ?_⟩
  by_cases hchanged : s.changed = 0
  · simp [hchanged, String.join_cons, idleLine, toString]
  · simp [hchanged, String.join_cons, toString]

/-- A run ends by saying that there was nothing to do just when its summary counts no change. -/
theorem CommandLine.saysIdle_generate {t : FileTree} {doc : Document} {config : Config} {yes : Bool} {s : RunSummary}
    (hdoc : loadDocument t config.spec = .ok doc) (hok : ((jobOf doc config yes).run t).result = .ok s) :
    (generate t config yes).SaysIdle ↔ s.changed = 0 := by
  obtain ⟨before, hmessages⟩ := messages_generate hdoc hok
  unfold Reply.SaysIdle
  rw [hmessages]
  constructor
  · intro hidle
    by_contra hchanged
    rw [if_neg hchanged, String.append_empty] at hidle
    -- the line of the summary ends with another word
    have hword : " declined\n".toList <:+ (before ++ ("  " ++ s.text ++ "\n")).toList := by
      obtain ⟨front, hfront⟩ : ∃ front, s.text = front ++ " declined" := ⟨_, rfl⟩
      exact ⟨(before ++ "  " ++ front).toList, by simp [hfront]⟩
    have hdate : " to date.\n".toList <:+ idleLine.toList := by decide
    have hsame := (List.suffix_of_suffix_length_le (hdate.trans hidle) hword (by decide)).eq_of_length (by decide)
    revert hsame
    decide
  · intro hchanged
    rw [if_pos hchanged, String.toList_append, String.toList_append]
    exact List.suffix_append_of_suffix (List.suffix_append ..)

/-! ## What is counted -/

/-- What a summary counts as changed. -/
structure Job.Counts (j : Job) (t : FileTree) (s : RunSummary) : Prop where
  /-- The files whose bytes changed, and those to which a text was written that they held already. -/
  changed : s.changed = j.outputs.countP (t.changes (j.run t).tree) + (j.run t).emissions.countP (·.restates t)
  /-- The latter were written without being compared with the text. -/
  blind : ∀ m ∈ (j.run t).emissions, m.restates t = true → m.Blind j t (j.run t).asked
  /-- A careful run whose paths lead to the files that are there counts those that changed. -/
  careful : j.Careful j.config.ledgerPath → (∀ p ∈ j.outputs, t.fileAt p.place ≠ none → t.pathExists p = true) →
    s.changed = j.outputs.countP (t.changes (j.run t).tree)
  /-- The command line says that there was nothing to do when no file changed and no text was written. -/
  idle : ∀ doc yes, j = CommandLine.jobOf doc j.config yes → CommandLine.loadDocument t j.config.spec = .ok doc →
    ((CommandLine.generate t j.config yes).SaysIdle ↔
      (∀ p ∈ j.outputs, t.changes (j.run t).tree p = false) ∧ ∀ m ∈ (j.run t).emissions, m.restates t = false)

/-- The summary of a run that succeeds counts the outputs whose bytes changed and those that were written over with the
same bytes. It is assumed that distinct outputs have distinct places and that none is the ledger. -/
theorem changed_counted {j : Job} {t : FileTree} {s : RunSummary}
    (hplaces : ∀ p ∈ j.outputs, ∀ q ∈ j.outputs, p.place = q.place → p = q)
    (hledger : ∀ p ∈ j.outputs, p.place ≠ j.config.ledgerPath.place) (hok : (j.run t).result = .ok s) :
    j.Counts t s := by
  have apart := Job.apart_of_ok hplaces hledger hok
  have changed := Job.changed_eq apart hok
  have blind : ∀ m ∈ (j.run t).emissions, m.restates t = true → m.Blind j t (j.run t).asked := by
    rw [j.run_emissions t, j.run_asked t]
    exact (j.final_accounts t apart).blind
  refine ⟨changed, blind, fun careful visible => ?_, ?_⟩
  · rw [changed, Nat.add_eq_left, List.countP_eq_zero]
    intro m hm hrestates
    have hout : m.path ∈ j.outputs := Job.map_path_emissions hok ▸ List.mem_map_of_mem hm
    have hheld := of_decide_eq_true (Bool.and_eq_true_iff.1 hrestates).2
    exact careful.not_blind (visible _ hout (by rw [hheld]; exact Option.some_ne_none _)) (blind m hm hrestates)
  · intro doc yes hjob hdoc
    have hok' : ((CommandLine.jobOf doc j.config yes).run t).result = .ok s := hjob ▸ hok
    rw [CommandLine.saysIdle_generate hdoc hok', changed, Nat.add_eq_zero_iff, List.countP_eq_zero, List.countP_eq_zero]
    simp only [Bool.not_eq_true]

theorem changed_counted_build : ∃ s, (buildRun.job.run buildRun.found).result = .ok s ∧
    s.changed = clientOutputs.countP (smallProject.changes builtProject) ∧
    clientOutputs.countP (smallProject.changes builtProject) = 1 := by
  have hplaces : ∀ p ∈ buildRun.job.outputs, ∀ q ∈ buildRun.job.outputs, p.place = q.place → p = q := by
    rw [buildRun.outputs_eq]
    decide +kernel
  have hledger : ∀ p ∈ buildRun.job.outputs, p.place ≠ buildRun.job.config.ledgerPath.place := by
    rw [buildRun.outputs_eq]
    decide +kernel
  have hvisible : ∀ p ∈ buildRun.job.outputs, buildRun.found.fileAt p.place ≠ none →
      buildRun.found.pathExists p = true := by
    rw [buildRun.outputs_eq]
    decide +kernel
  obtain ⟨s, hok⟩ : ∃ s, (buildRun.job.run buildRun.found).result = .ok s := buildRun.succeeded rfl
  have hcount := (changed_counted hplaces hledger hok).careful
    ⟨rfl, rfl, rfl, (fun _ h => by cases h), hledger⟩ hvisible
  rw [buildRun.outputs_eq, buildRun.tree_eq] at hcount
  exact ⟨s, hok, hcount, by decide +kernel⟩

/-- Writes the small project once more, by force. -/
def rewriteRun : KnownRun where
  job := clientJob { clientConfig "a" with overwrite := true }
  found := builtProject
  outputs := clientOutputs
  left := builtProject
  emissions := [⟨⟨"out/index.ts"⟩, "a", .overwritten⟩]
  asked := []
  succeeds := true
  outputs_eq := outputs_clientJob "a"
  course_eq := by decide +kernel

/-- A run by force counts a file that it wrote over with the same bytes. -/
theorem unchanged_counted :
    ¬ ∀ (j : Job) (t : FileTree) (s : RunSummary), (∀ p ∈ j.outputs, ∀ q ∈ j.outputs, p.place = q.place → p = q) →
      (∀ p ∈ j.outputs, p.place ≠ j.config.ledgerPath.place) → (j.run t).result = .ok s →
      s.changed = j.outputs.countP (t.changes (j.run t).tree) := by
  intro claim
  have hplaces : ∀ p ∈ rewriteRun.job.outputs, ∀ q ∈ rewriteRun.job.outputs, p.place = q.place → p = q := by
    rw [rewriteRun.outputs_eq]
    decide +kernel
  have hledger : ∀ p ∈ rewriteRun.job.outputs, p.place ≠ rewriteRun.job.config.ledgerPath.place := by
    rw [rewriteRun.outputs_eq]
    decide +kernel
  obtain ⟨s, hok⟩ : ∃ s, (rewriteRun.job.run rewriteRun.found).result = .ok s := rewriteRun.succeeded rfl
  have hcount := claim _ _ s hplaces hledger hok
  rw [rewriteRun.outputs_eq, rewriteRun.tree_eq] at hcount
  have hnone : rewriteRun.outputs.countP (rewriteRun.found.changes rewriteRun.left) = 0 := by decide +kernel
  have hwritten : 0 < s.changed := by
    rw [Job.changed_of_ok hok]
    exact List.countP_pos_iff.2 ⟨_, rewriteRun.mem_emissions (List.mem_singleton_self _), rfl⟩
  rw [hcount, hnone] at hwritten
  exact Nat.lt_irrefl 0 hwritten

end ApiScaffold
