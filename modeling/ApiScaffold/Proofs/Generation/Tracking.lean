/-
What a run knows about its outputs while it goes. When distinct output paths have distinct places and
distinct ledger keys, every emit is about one file and one entry: what was written has its digest in the
ledger of the emitter, and everything else is as the run found it (`Progress`).
-/
import ApiScaffold.Proofs.Generation.History

namespace ApiScaffold

open Emitter (ledgerKey)

/-- Output paths that never get in each other's way, nor in that of the ledger. -/
structure Apart (outs : Path → Prop) (ledger : Path) : Prop where
  place : ∀ {p q}, outs p → outs q → p.place = q.place → p = q
  key : ∀ {p q}, outs p → outs q → ledgerKey p = ledgerKey q → p = q
  ledger : ∀ {p}, outs p → p.place ≠ ledger.place

/-- How an emitter and its tree stand to the ledger and the tree that the run began with. -/
structure Progress (outs : Path → Prop) (base : Ledger) (found : FileTree) (e : Emitter) (t : FileTree) : Prop where
  emissions : ∀ m ∈ e.emissions, outs m.path ∧ ledgerKey m.path ∈ e.emitted
  fresh : ∀ p, outs p → ledgerKey p ∉ e.emitted → e.ledger.get? (ledgerKey p) = base.get? (ledgerKey p)
  /-- A file that was not written is as it was found, and its entry too unless it was adopted. -/
  spared : ∀ p, outs p → (∀ m ∈ e.emissions, m.path = p → m.decision.writes = false) →
    t.fileAt p.place = found.fileAt p.place ∧ (e.ledger.get? (ledgerKey p) = base.get? (ledgerKey p) ∨
      ∃ b, found.fileAt p.place = some b ∧ e.ledger.get? (ledgerKey p) = some (Digest.ofBytes b))
  written : ∀ m ∈ e.emissions, m.decision.writes = true →
    t.fileAt m.path.place = some m.text.toUTF8 ∧ e.ledger.get? (ledgerKey m.path) = some (Digest.ofText m.text)
  unchanged : ∀ m ∈ e.emissions, m.decision = .unchanged → ∃ b, t.read m.path = .ok b ∧
    found.fileAt m.path.place = some b ∧
      (b = m.text.toUTF8 ∨ base.get? (ledgerKey m.path) = some (Digest.ofText m.text))
  asked : ∀ q ∈ e.asked, outs q.path ∧ ∃ b, found.fileAt q.path.place = some b ∧
    base.get? (ledgerKey q.path) ≠ some (Digest.ofBytes b)

namespace Progress

variable {outs : Path → Prop} {ledger : Path} {base : Ledger} {found t u : FileTree} {e : Emitter} {path : Path}
  {text : String} {qs : List Question}

theorem start (options : EmitOptions) (prompt : Prompt) : Progress outs base found (.start base options prompt) found where
  emissions := fun _ h => by cases h
  fresh := fun _ _ _ => rfl
  spared := fun _ _ _ => ⟨rfl, .inl rfl⟩
  written := fun _ h => by cases h
  unchanged := fun _ h => by cases h
  asked := fun _ h => by cases h

/-- A path that was not taken up is not among those emitted. -/
theorem ne_of_fresh (h : Progress outs base found e t) (hfresh : ledgerKey path ∉ e.emitted) {m : Emission}
    (hm : m ∈ e.emissions) : m.path ≠ path := by
  rintro rfl
  exact hfresh (h.emissions m hm).2

/-- The file of a path that was not taken up is as it was found. -/
theorem fileAt_fresh (h : Progress outs base found e t) (hp : outs path) (hfresh : ledgerKey path ∉ e.emitted) :
    t.fileAt path.place = found.fileAt path.place :=
  (h.spared path hp fun _ hm heq => absurd heq (h.ne_of_fresh hfresh hm)).1

/-- Founded questions about a path that was not taken up are founded in what the run began with. -/
theorem asked_append (h : Progress outs base found e t) (hp : outs path) (hfresh : ledgerKey path ∉ e.emitted)
    (hqs : Emitter.Founded e t text path qs) : ∀ q ∈ e.asked ++ qs, outs q.path ∧
      ∃ b, found.fileAt q.path.place = some b ∧ base.get? (ledgerKey q.path) ≠ some (Digest.ofBytes b) := by
  intro q hq
  rcases List.mem_append.1 hq with hq | hq
  · exact h.asked q hq
  · obtain ⟨c, doubts, rfl⟩ := hqs q hq
    refine ⟨hp, c, ?_, fun hentry => ?_⟩
    · exact (h.fileAt_fresh hp hfresh).symm.trans (FileTree.read_ok.1 doubts.read).2
    · exact (doubts.edited _ ((h.fresh path hp hfresh).trans hentry)).2 rfl

/-- An emit that fails changes no file and no entry. -/
theorem failed (h : Progress outs base found e t) (hp : outs path) (hfresh : ledgerKey path ∉ e.emitted)
    (hqs : Emitter.Founded e t text path qs) (hadds : FileTree.AddsDirectories t u) :
    Progress outs base found (e.takeUp path qs) u where
  emissions := fun m hm => ⟨(h.emissions m hm).1, List.mem_cons_of_mem _ (h.emissions m hm).2⟩
  fresh := fun p hp' hk => h.fresh p hp' (List.not_mem_of_not_mem_cons hk)
  spared := fun p hp' hnot => by rw [hadds.fileAt]; exact h.spared p hp' hnot
  written := fun m hm hw => by rw [hadds.fileAt]; exact h.written m hm hw
  unchanged := fun m hm hd => by
    obtain ⟨b, hread, hb⟩ := h.unchanged m hm hd
    exact ⟨b, hadds.grows.read_same hread (hadds.fileAt _), hb⟩
  asked := h.asked_append hp hfresh hqs

/-- An emit that leaves the file alone changes no entry. -/
theorem kept (h : Progress outs base found e t) (hp : outs path) (hfresh : ledgerKey path ∉ e.emitted)
    {d : Decision} (why : Emitter.Keeps e t text path d qs) :
    Progress outs base found ((e.takeUp path qs).conclude text path d) t where
  emissions := fun m hm => by
    rcases List.mem_append.1 hm with hm | hm
    · exact ⟨(h.emissions m hm).1, List.mem_cons_of_mem _ (h.emissions m hm).2⟩
    · cases List.mem_singleton.1 hm
      exact ⟨hp, List.mem_cons_self ..⟩
  fresh := fun p hp' hk => h.fresh p hp' (List.not_mem_of_not_mem_cons hk)
  spared := fun p hp' hnot => h.spared p hp' fun m hm => hnot m (List.mem_append_left _ hm)
  written := fun m hm hw => by
    rcases List.mem_append.1 hm with hm | hm
    · exact h.written m hm hw
    · cases List.mem_singleton.1 hm
      rw [why.writes] at hw
      cases hw
  unchanged := fun m hm hd => by
    rcases List.mem_append.1 hm with hm | hm
    · exact h.unchanged m hm hd
    · cases List.mem_singleton.1 hm
      cases hd
      cases why with
      | @unchanged c looked known =>
        exact ⟨c, looked.read, (h.fileAt_fresh hp hfresh).symm.trans (FileTree.read_ok.1 looked.read).2,
          .inr ((h.fresh path hp hfresh).symm.trans known)⟩
  asked := h.asked_append hp hfresh why.founded

/-- An emit that records its text: the file now holds it, and no other file has changed. -/
theorem recorded (h : Progress outs base found e t) (apart : Apart outs ledger) (hp : outs path)
    (hfresh : ledgerKey path ∉ e.emitted) (hqs : Emitter.Founded e t text path qs) {d : Decision}
    (hgrows : FileTree.Grows t u) (hother : ∀ q, q ≠ path.place → u.fileAt q = t.fileAt q)
    (hread : u.read path = .ok text.toUTF8)
    (hd : d.writes = true ∨ d = .unchanged ∧ t.fileAt path.place = some text.toUTF8) :
    Progress outs base found (((e.takeUp path qs).record text path).conclude text path d) u := by
  have hself : u.fileAt path.place = some text.toUTF8 := (FileTree.read_ok.1 hread).2
  have hget : ∀ k, (((e.takeUp path qs).record text path).conclude text path d).ledger.get? k =
      if k = ledgerKey path then some (Digest.ofText text) else e.ledger.get? k :=
    fun k => Ledger.get?_insert _ _ _ _
  have hplace : ∀ {p}, outs p → p ≠ path → u.fileAt p.place = t.fileAt p.place :=
    fun hp' hne => hother _ fun heq => hne (apart.place hp' hp heq)
  have hentry : ∀ {p}, outs p → p ≠ path →
      (((e.takeUp path qs).record text path).conclude text path d).ledger.get? (ledgerKey p) =
        e.ledger.get? (ledgerKey p) :=
    fun hp' hne => (hget _).trans (if_neg fun heq => hne (apart.key hp' hp heq))
  have hpath : (((e.takeUp path qs).record text path).conclude text path d).ledger.get? (ledgerKey path) =
      some (Digest.ofText text) := (hget _).trans (if_pos rfl)
  -- older emissions are about other paths, whose files and entries are as before; the last one is this one
  constructor
  · intro m hm
    rcases List.mem_append.1 hm with hm | hm
    · exact ⟨(h.emissions m hm).1, List.mem_cons_of_mem _ (h.emissions m hm).2⟩
    · cases List.mem_singleton.1 hm
      exact ⟨hp, List.mem_cons_self ..⟩
  · intro p hp' hk
    have hne : p ≠ path := by
      rintro rfl
      exact hk (List.mem_cons_self ..)
    rw [hentry hp' hne]
    exact h.fresh p hp' (List.not_mem_of_not_mem_cons hk)
  · intro p hp' hnot
    by_cases hne : p = path
    · subst hne
      have hw : d.writes = false := hnot ⟨p, text, d⟩ (List.mem_append_right _ (List.mem_singleton_self _)) rfl
      rcases hd with hd | ⟨rfl, hsame⟩
      · rw [hw] at hd; cases hd
      · have hfound : found.fileAt p.place = some text.toUTF8 := (h.fileAt_fresh hp hfresh).symm.trans hsame
        exact ⟨hself.trans hfound.symm, .inr ⟨_, hfound, hpath⟩⟩
    · rw [hplace hp' hne, hentry hp' hne]
      exact h.spared p hp' fun m hm => hnot m (List.mem_append_left _ hm)
  · intro m hm hw
    rcases List.mem_append.1 hm with hm | hm
    · have hm' := h.emissions m hm
      have hne := h.ne_of_fresh hfresh hm
      rw [hplace hm'.1 hne, hentry hm'.1 hne]
      exact h.written m hm hw
    · cases List.mem_singleton.1 hm
      exact ⟨hself, hpath⟩
  · intro m hm hdec
    rcases List.mem_append.1 hm with hm | hm
    · obtain ⟨b, hb, hrest⟩ := h.unchanged m hm hdec
      exact ⟨b, hgrows.read_same hb (hplace (h.emissions m hm).1 (h.ne_of_fresh hfresh hm)), hrest⟩
    · cases List.mem_singleton.1 hm
      cases hdec
      rcases hd with hd | ⟨-, hsame⟩
      · cases hd
      · exact ⟨_, hread, (h.fileAt_fresh hp hfresh).symm.trans hsame, .inl rfl⟩
  · exact h.asked_append hp hfresh hqs

theorem emit (h : Progress outs base found e t) (apart : Apart outs ledger) (hp : outs path) (text : String) :
    Progress outs base found (e.emit t text path).1 (e.emit t text path).2.1 := by
  have hs := Emitter.emit_spec e t text path
  generalize e.emit t text path = r at hs ⊢
  cases hs with
  | duplicate _ => exact h
  | failed fresh founded adds => exact h.failed hp fresh founded adds
  | kept fresh why => exact h.kept hp fresh why
  | adopted fresh looked _ =>
    exact h.recorded apart hp fresh Emitter.founded_nil (.refl t) (fun _ _ => rfl) looked.read
      (.inr ⟨rfl, (FileTree.read_ok.1 looked.read).2⟩)
  | wrote fresh why done =>
    exact h.recorded apart hp fresh why.founded (FileTree.writeDeep_grows done)
      (fun _ hq => FileTree.writeDeep_fileAt_ne done hq) (FileTree.writeDeep_read done) (.inl why.writes)

end Progress

/-- A job whose outputs are among some paths, in a history with one ledger. -/
structure Job.Within (outs : Path → Prop) (ledger : Path) (j : Job) : Prop where
  unforced : j.config.overwrite = false
  ledgerPath : j.config.ledgerPath = ledger
  outputs : ∀ p ∈ j.outputs, outs p

theorem Job.progress {outs : Path → Prop} {ledger : Path} (apart : Apart outs ledger) {j : Job}
    (hj : j.Within outs ledger) (t : FileTree) :
    Progress outs (j.ledger t) t (j.final t).emitter (j.final t).tree :=
  j.final_induction t (P := fun e u => Progress outs (j.ledger t) t e u) (.start _ _)
    fun _ _ text path hpath h => h.emit apart (hj.outputs path hpath) text

/-! ## One run -/

section

variable {outs : Path → Prop} {ledger : Path} {j : Job} {t : FileTree} {p : Path}

theorem Job.Within.apart (hj : j.Within outs ledger) (apart : Apart outs ledger) :
    ∀ p ∈ j.outputs, p.place ≠ j.config.ledgerPath.place := by
  intro p hp
  rw [hj.ledgerPath]
  exact apart.ledger (hj.outputs p hp)

/-- A run that wrote a path left the text there, and its emitter knew the digest. -/
theorem written_after_run (apart : Apart outs ledger) (hj : j.Within outs ledger) (hp : outs p)
    (hw : (Run.mk j t).writes p = true) :
    ∃ b, (j.run t).tree.fileAt p.place = some b ∧ ledgerKey p ∈ (j.final t).emitter.emitted ∧
      (j.final t).emitter.ledger.get? (ledgerKey p) = some (Digest.ofBytes b) := by
  have hprogress := j.progress apart hj t
  obtain ⟨m, hm, hmp⟩ := List.any_eq_true.1 hw
  rw [Bool.and_eq_true, decide_eq_true_eq] at hmp
  obtain ⟨rfl, hwrites⟩ := hmp
  have hm' : m ∈ (j.final t).emitter.emissions := by rw [← j.run_emissions t]; exact hm
  obtain ⟨hfile, hentry⟩ := hprogress.written m hm' hwrites
  refine ⟨_, ?_, (hprogress.emissions m hm').2, hentry⟩
  rw [j.run_fileAt_of_ne (by rw [hj.ledgerPath]; exact apart.ledger hp)]
  exact hfile

/-- A run that did not write a path left its file alone, and its entry too unless it adopted the file. -/
theorem spared_after_run (apart : Apart outs ledger) (hj : j.Within outs ledger) (hp : outs p)
    (hw : (Run.mk j t).writes p = false) :
    (j.run t).tree.fileAt p.place = t.fileAt p.place ∧
      ((j.final t).emitter.ledger.get? (ledgerKey p) = (j.ledger t).get? (ledgerKey p) ∨
        ∃ b, t.fileAt p.place = some b ∧
          (j.final t).emitter.ledger.get? (ledgerKey p) = some (Digest.ofBytes b)) := by
  have hnot : ∀ m ∈ (j.final t).emitter.emissions, m.path = p → m.decision.writes = false := by
    intro m hm hmp
    rw [← j.run_emissions t] at hm
    have hm' := List.any_eq_false.1 hw m hm
    rw [Bool.and_eq_true, decide_eq_true_eq, not_and, Bool.not_eq_true] at hm'
    exact hm' hmp
  rw [j.run_fileAt_of_ne (by rw [hj.ledgerPath]; exact apart.ledger hp)]
  exact (j.progress apart hj t).spared p hp hnot

/-- A path that a run emitted was taken up. -/
theorem emitted_of_emits (apart : Apart outs ledger) (hj : j.Within outs ledger)
    (he : (Run.mk j t).emits p = true) : ledgerKey p ∈ (j.final t).emitter.emitted := by
  obtain ⟨m, hm, hmp⟩ := List.any_eq_true.1 he
  rw [decide_eq_true_eq] at hmp
  subst hmp
  have hm' : m ∈ (j.final t).emitter.emissions := by rw [← j.run_emissions t]; exact hm
  exact ((j.progress apart hj t).emissions m hm').2

end

/-! ## Histories -/

/-- A change by others that leaves the outputs and the ledger as they are. -/
structure Spares (outs : Path → Prop) (ledger : Path) (t u : FileTree) : Prop where
  output : ∀ p, outs p → u.fileAt p.place = t.fileAt p.place
  file : u.fileAt ledger.place = t.fileAt ledger.place
  reads : u.read ledger = t.read ledger

/-- The last run that wrote the file of a path; the newest run comes first. -/
def lastWriter (rs : List Run) (p : Path) : Option Run := rs.find? (·.writes p)

/-- The runs since the file of a path was written last. -/
def sinceWritten (rs : List Run) (p : Path) : List Run := rs.takeWhile fun r => !r.writes p

theorem lastWriter_cons_self {r : Run} {rs : List Run} {p : Path} (h : r.writes p = true) :
    lastWriter (r :: rs) p = some r := by
  unfold lastWriter
  rw [List.find?_cons, h]

theorem lastWriter_cons {r : Run} {rs : List Run} {p : Path} (h : r.writes p = false) :
    lastWriter (r :: rs) p = lastWriter rs p := by
  unfold lastWriter
  rw [List.find?_cons, h]

theorem sinceWritten_cons {r : Run} {rs : List Run} {p : Path} (h : r.writes p = false) :
    sinceWritten (r :: rs) p = r :: sinceWritten rs p := by
  unfold sinceWritten
  rw [List.takeWhile_cons, h]
  rfl

/-! ## Runs alone -/

/-- What runs lead to from a tree without the outputs and the ledger, when others leave these alone. -/
def FromScratch (outs : Path → Prop) (ledger : Path) (t : FileTree) (rs : List Run) : Prop :=
  ∃ start : FileTree, start.fileAt ledger.place = none ∧ (∀ p, outs p → start.fileAt p.place = none) ∧
    History (Job.Within outs ledger) (Spares outs ledger) start t rs

/-- Runs alone, with outputs and a ledger of some kind, can lead to a tree on which a job does something. -/
def Leads (kind : (Path → Prop) → Path → List Run → Prop) (does : Job → FileTree → Prop) : Prop :=
  ∃ (outs : Path → Prop) (ledger : Path) (rs : List Run) (t : FileTree) (j : Job),
    kind outs ledger rs ∧ FromScratch outs ledger t rs ∧ j.Within outs ledger ∧ does j t

/-- The outputs are apart, and every run may fail. -/
def MayFail (outs : Path → Prop) (ledger : Path) (_ : List Run) : Prop := Apart outs ledger

/-- The outputs are apart, and every run succeeds. -/
def Succeeding (outs : Path → Prop) (ledger : Path) (rs : List Run) : Prop := Apart outs ledger ∧ ∀ r ∈ rs, r.Succeeded

/-- Every run succeeds, and the outputs have distinct places and keys, but one of them may be the ledger. -/
def MayMix (outs : Path → Prop) (_ : Path) (rs : List Run) : Prop :=
  (∀ p q, outs p → outs q → p.place = q.place → p = q) ∧ (∀ p q, outs p → outs q → ledgerKey p = ledgerKey q → p = q) ∧
    ∀ r ∈ rs, r.Succeeded

/-- Every run succeeds, and the outputs have distinct places other than that of the ledger, but two of them may
have the same key. -/
def MayCross (outs : Path → Prop) (ledger : Path) (rs : List Run) : Prop :=
  (∀ p q, outs p → outs q → p.place = q.place → p = q) ∧ (∀ p, outs p → p.place ≠ ledger.place) ∧
    ∀ r ∈ rs, r.Succeeded

theorem KnownRun.within {outs : Path → Prop} {ledger : Path} (k : KnownRun) (hforce : k.job.config.overwrite = false)
    (hledger : k.job.config.ledgerPath = ledger) (h : ∀ p ∈ k.outputs, outs p) : k.job.Within outs ledger := by
  refine ⟨hforce, hledger, ?_⟩
  rw [k.outputs_eq]
  exact h

theorem FromScratch.follow {outs : Path → Prop} {ledger : Path} {rs : List Run} {k : KnownRun}
    (h : FromScratch outs ledger k.found rs) (hk : k.job.Within outs ledger) :
    FromScratch outs ledger k.left (k.run :: rs) := by
  obtain ⟨start, hledger, houts, h⟩ := h
  refine ⟨start, hledger, houts, ?_⟩
  rw [← k.tree_eq]
  exact h.run hk

/-! ## Outputs of the small project -/

/-- The outputs of a client with one more. -/
def extraOutputs : List Path := ⟨"out/p/q"⟩ :: clientOutputs

/-- One of these is a different file, but has the ledger key of another. -/
def crossedOutputs : List Path := ⟨"out/p\\q"⟩ :: extraOutputs

theorem mem_extraOutputs {p : Path} (h : p ∈ clientOutputs) : p ∈ extraOutputs := List.mem_cons_of_mem _ h

theorem mem_crossedOutputs {p : Path} (h : p ∈ extraOutputs) : p ∈ crossedOutputs := List.mem_cons_of_mem _ h

theorem crossedOutputs_place : ∀ p ∈ crossedOutputs, ∀ q ∈ crossedOutputs, p.place = q.place → p = q := by
  decide +kernel

theorem crossedOutputs_ledger : ∀ p ∈ crossedOutputs, p.place ≠ (Path.mk "ledger").place := by decide +kernel

theorem extraOutputs_key : ∀ p ∈ extraOutputs, ∀ q ∈ extraOutputs, ledgerKey p = ledgerKey q → p = q := by
  decide +kernel

theorem smallProject_empty : ∀ p ∈ ⟨"ledger"⟩ :: crossedOutputs, smallProject.fileAt p.place = none := by
  decide +kernel

theorem apart_extraOutputs : Apart (· ∈ extraOutputs) ⟨"ledger"⟩ where
  place := fun hp hq => crossedOutputs_place _ (mem_crossedOutputs hp) _ (mem_crossedOutputs hq)
  key := fun hp hq => extraOutputs_key _ hp _ hq
  ledger := fun hp => crossedOutputs_ledger _ (mem_crossedOutputs hp)

/-- The small project has no outputs and no ledger. -/
theorem fromScratch_small {outs : Path → Prop} {ledger : Path} (houts : ∀ p, outs p → p ∈ crossedOutputs)
    (hledger : ledger ∈ ⟨"ledger"⟩ :: crossedOutputs) : FromScratch outs ledger smallProject [] :=
  ⟨_, smallProject_empty _ hledger, fun p hp => smallProject_empty p (List.mem_cons_of_mem _ (houts p hp)), .start⟩

/-! ## Runs on the small project -/

/-- A job that puts out its index a second time. -/
def extraJob (templates output : String) : Job :=
  clientJob { clientConfig templates with iterators := [⟨.once, "client_typescript/index.j2", output⟩] }

/-- A job whose ledger is its index. -/
def mixedJob (templates : String) : Job :=
  clientJob { clientConfig templates with checksumFile := some ⟨"out/index.ts"⟩ }

def buildExtraRun : KnownRun where
  job := extraJob "a" "p/q"
  found := smallProject
  outputs := clientOutputs ++ [⟨"out/p/q"⟩]
  left := projectWith [fileEntry ["ledger"] (ledgerText [("out/index.ts", digestOfA), ("out/p/q", digestOfA)]),
    fileEntry ["out", "p", "q"] "a", directoryEntry ["out", "p"], fileEntry ["out", "index.ts"] "a",
    directoryEntry ["out"]]
  emissions := [⟨⟨"out/index.ts"⟩, "a", .written⟩, ⟨⟨"out/p/q"⟩, "a", .written⟩]
  asked := []
  succeeds := true
  outputs_eq := by decide +kernel
  course_eq := by decide +kernel

/-- Puts out another file under the same ledger key. -/
def crossRun : KnownRun where
  job := extraJob "b" "p\\q"
  found := buildExtraRun.left
  outputs := clientOutputs ++ [⟨"out/p\\q"⟩]
  left := projectWith [fileEntry ["ledger"] (ledgerText [("out/index.ts", digestOfB), ("out/p/q", digestOfB)]),
    fileEntry ["out", "p\\q"] "b", fileEntry ["out", "index.ts"] "b", fileEntry ["out", "p", "q"] "a",
    directoryEntry ["out", "p"], directoryEntry ["out"]]
  emissions := [⟨⟨"out/index.ts"⟩, "b", .overwritten⟩, ⟨⟨"out/p\\q"⟩, "b", .written⟩]
  asked := []
  succeeds := true
  outputs_eq := by decide +kernel
  course_eq := by decide +kernel

theorem outputs_extraJob (templates : String) : (extraJob templates "p/q").outputs = buildExtraRun.outputs :=
  (outputs_of_settings buildExtraRun.job.config (some ⟨templates⟩) (some ⟨"ledger"⟩)).trans buildExtraRun.outputs_eq

theorem outputs_mixedJob (templates : String) : (mixedJob templates).outputs = clientOutputs :=
  (outputs_of_settings buildRun.job.config (some ⟨templates⟩) (some ⟨"out/index.ts"⟩)).trans buildRun.outputs_eq

/-- Saves its ledger over an output. -/
def mixRun : KnownRun where
  job := mixedJob "a"
  found := smallProject
  outputs := clientOutputs
  left := projectWith [fileEntry ["out", "index.ts"] (ledgerText [("out/index.ts", digestOfA)]), directoryEntry ["out"]]
  emissions := [⟨⟨"out/index.ts"⟩, "a", .written⟩]
  asked := []
  succeeds := true
  outputs_eq := outputs_mixedJob "a"
  course_eq := by decide +kernel

theorem mem_of_append {p q : Path} (h : p ∈ clientOutputs ++ [q]) : p = q ∨ p ∈ clientOutputs := by
  rcases List.mem_append.1 h with h | h
  · exact .inr h
  · exact .inl (List.mem_singleton.1 h)

theorem extraOutputs_of_append {p : Path} (h : p ∈ clientOutputs ++ [⟨"out/p/q"⟩]) : p ∈ extraOutputs := by
  rcases mem_of_append h with rfl | h
  · exact List.mem_cons_self ..
  · exact mem_extraOutputs h

/-- Runs that succeed can lead to two files with one ledger key. -/
theorem leads_crossed {does : Job → FileTree → Prop} {j : Job} (hj : j.Within (· ∈ crossedOutputs) ⟨"ledger"⟩)
    (h : does j crossRun.left) : Leads MayCross does := by
  have hextra : buildExtraRun.job.Within (· ∈ crossedOutputs) ⟨"ledger"⟩ :=
    buildExtraRun.within rfl rfl fun _ hp => mem_crossedOutputs (extraOutputs_of_append hp)
  have hcross : crossRun.job.Within (· ∈ crossedOutputs) ⟨"ledger"⟩ := by
    refine crossRun.within rfl rfl fun p hp => ?_
    rcases mem_of_append hp with rfl | hp
    · exact List.mem_cons_self ..
    · exact mem_crossedOutputs (mem_extraOutputs hp)
  have hstart : FromScratch (· ∈ crossedOutputs) ⟨"ledger"⟩ buildExtraRun.found [] :=
    fromScratch_small (fun _ hp => hp) (List.mem_cons_self ..)
  refine ⟨_, _, _, _, j, ⟨?_, crossedOutputs_ledger, ?_⟩, FromScratch.follow (k := crossRun) (hstart.follow hextra) hcross, hj, h⟩
  · exact fun p q hp hq => crossedOutputs_place p hp q hq
  · exact List.forall_mem_cons.2 ⟨crossRun.succeeded rfl, List.forall_mem_singleton.2 (buildExtraRun.succeeded rfl)⟩

/-- A run that succeeds can lead to a ledger in the place of an output. -/
theorem leads_mixed {does : Job → FileTree → Prop} {j : Job} (hj : j.Within (· ∈ extraOutputs) ⟨"out/index.ts"⟩)
    (h : does j mixRun.left) : Leads MayMix does := by
  have hmix : mixRun.job.Within (· ∈ extraOutputs) ⟨"out/index.ts"⟩ := mixRun.within rfl rfl fun _ => mem_extraOutputs
  have hstart : FromScratch (· ∈ extraOutputs) ⟨"out/index.ts"⟩ mixRun.found [] :=
    fromScratch_small (fun _ => mem_crossedOutputs) (by decide)
  refine ⟨_, _, _, _, j, ⟨?_, ?_, ?_⟩, hstart.follow hmix, hj, h⟩
  · exact fun p q => apart_extraOutputs.place
  · exact fun p q => apart_extraOutputs.key
  · exact List.forall_mem_singleton.2 (mixRun.succeeded rfl)

end ApiScaffold
