/-
The contract of an emit. From the settings, the ledger, the file on disk and the answer of the prompt it follows
whether the text is written (`MustWrite`), whether the prompt is asked (`MustAsk`) and whether the file is entered
into the ledger as it stands (`Adopts`). `emit_contract` says that an emit that nothing disturbs does just that, and
touches no other file and no other entry.
-/
import ApiScaffold.Proofs.Emitter.Step

namespace ApiScaffold.Emitter

variable {e : Emitter} {t : FileTree} {text : String} {path : Path} {c : ByteArray}

/-! ## What has to be done -/

/-- The prompt has to be asked whether a content on disk may be replaced. -/
def MustAsk (e : Emitter) (t : FileTree) (text : String) (path : Path) (c : ByteArray) : Prop :=
  Compares e t path c ∧
    (e.ledger.get? (ledgerKey path) = none ∧ e.options.untracked = .prompt ∧ c ≠ text.toUTF8 ∨
      ∃ old, e.ledger.get? (ledgerKey path) = some old ∧ old ≠ Digest.ofText text ∧ old ≠ Digest.ofBytes c)

/-- The text has to be written. -/
def MustWrite (e : Emitter) (t : FileTree) (text : String) (path : Path) : Prop :=
  e.options.protection.covers (ledgerKey path) = false ∧
    (e.options.force = true ∨
      t.pathExists path = false ∨
      e.ledger.get? (ledgerKey path) = none ∧ e.options.untracked = .overwrite ∨
      (∃ c old, t.read path = .ok c ∧ e.ledger.get? (ledgerKey path) = some old ∧ old ≠ Digest.ofText text ∧
        old = Digest.ofBytes c) ∨
      ∃ c, MustAsk e t text path c ∧ e.prompt (e.asked ++ [question text path c]) = .accept)

/-- The file holds the text already and has to be entered into the ledger. -/
def Adopts (e : Emitter) (t : FileTree) (text : String) (path : Path) : Prop :=
  Compares e t path text.toUTF8 ∧ e.ledger.get? (ledgerKey path) = none ∧ e.options.untracked = .prompt

/-- Files and prompt do what they are called for. -/
structure Undisturbed (e : Emitter) (t : FileTree) (text : String) (path : Path) : Prop where
  readable : e.options.protection.covers (ledgerKey path) = false → e.options.force = false →
    t.pathExists path = true → ∃ c, t.read path = .ok c
  writable : MustWrite e t text path → (t.writeDeep path text.toUTF8).2 = .ok ()
  answered : ∀ c reason, MustAsk e t text path c → e.prompt (e.asked ++ [question text path c]) ≠ .fail reason

/-- What an emit does, given the emitter and the tree that it leaves and its decision. -/
structure Contract (e : Emitter) (t : FileTree) (text : String) (path : Path) (e' : Emitter) (u : FileTree)
    (d : Decision) : Prop where
  writes : d.writes = true ↔ MustWrite e t text path
  written : MustWrite e t text path → u = (t.writeDeep path text.toUTF8).1 ∧ u.read path = .ok text.toUTF8
  left : ¬ MustWrite e t text path → u = t
  /-- Whatever is done, it is done to no other file. -/
  elsewhere : ∀ p, p ≠ path.place → u.fileAt p = t.fileAt p
  asked : ∀ c, MustAsk e t text path c → e'.asked = e.asked ++ [question text path c]
  unasked : (∀ c, ¬ MustAsk e t text path c) → e'.asked = e.asked
  entered : MustWrite e t text path ∨ Adopts e t text path →
    e'.ledger.get? (ledgerKey path) = some (Digest.ofText text)
  remembered : ¬ MustWrite e t text path → ¬ Adopts e t text path → e'.ledger = e.ledger
  /-- Whatever is done, no other entry changes. -/
  entries : ∀ k, k ≠ ledgerKey path → e'.ledger.get? k = e.ledger.get? k

/-! ## The reasons of the decisions -/

theorem Compares.exists (looked : Compares e t path c) : t.pathExists path = true :=
  FileTree.pathExists_of_read looked.read

/-- The prompt is asked about the files that are in doubt. -/
theorem mustAsk_iff : MustAsk e t text path c ↔ Doubts e t text path c := by
  constructor
  · rintro ⟨looked, ⟨hnone, hprompts, hdiff⟩ | ⟨old, hold, hnew, hcur⟩⟩
    · exact ⟨looked, fun _ => ⟨hprompts, hdiff⟩, fun d hd => by rw [hnone] at hd; cases hd⟩
    · refine ⟨looked, fun hnone => ?_, fun d hd => ?_⟩
      · rw [hold] at hnone; cases hnone
      · obtain rfl : old = d := Option.some.inj (hold.symm.trans hd)
        exact ⟨hnew.symm, hcur.symm⟩
  · intro doubts
    refine ⟨doubts.toCompares, ?_⟩
    rcases hentry : e.ledger.get? (ledgerKey path) with _ | old
    · exact .inl ⟨rfl, doubts.unknown hentry⟩
    · obtain ⟨hnew, hcur⟩ := doubts.edited old hentry
      exact .inr ⟨old, rfl, hnew.symm, hcur.symm⟩

/-- Nobody is asked about a file that is not compared. -/
theorem not_mustAsk_of_not_compares (h : ∀ c, ¬ Compares e t path c) (c : ByteArray) : ¬ MustAsk e t text path c :=
  fun hask => h c hask.1

/-- A file that is known as it stands is in no doubt. -/
theorem not_mustAsk_of_unedited (looked : Compares e t path c)
    (known : e.ledger.get? (ledgerKey path) = some (Digest.ofBytes c)) (b : ByteArray) : ¬ MustAsk e t text path b := by
  intro hask
  obtain rfl := looked.unique hask.1.read
  exact ((mustAsk_iff.1 hask).edited _ known).2 rfl

/-- A text that is known to stand there raises no doubt. -/
theorem not_mustAsk_of_current (known : e.ledger.get? (ledgerKey path) = some (Digest.ofText text)) (b : ByteArray) :
    ¬ MustAsk e t text path b :=
  fun hask => ((mustAsk_iff.1 hask).edited _ known).1 rfl

theorem Writes.mustWrite {d : Decision} {qs : List Question} (why : Writes e t text path d qs) :
    MustWrite e t text path := by
  refine ⟨why.uncovered, ?_⟩
  cases why with
  | missing _ habsent => exact .inr (.inl habsent)
  | forced _ hforce => exact .inl hforce
  | untracked _ unknown => exact .inr (.inr (.inl unknown))
  | @unedited c looked known outdated =>
    exact .inr (.inr (.inr (.inl ⟨c, _, looked.read, known, outdated.symm, rfl⟩)))
  | @accepted c doubts answer => exact .inr (.inr (.inr (.inr ⟨c, mustAsk_iff.2 doubts, answer⟩)))

/-- A file that is looked at is written only if it is not known and overwritten, or known as it stands and outdated,
or if the prompt accepts. -/
theorem MustWrite.of_compares (h : MustWrite e t text path) (looked : Compares e t path c) :
    e.ledger.get? (ledgerKey path) = none ∧ e.options.untracked = .overwrite ∨
      e.ledger.get? (ledgerKey path) = some (Digest.ofBytes c) ∧ Digest.ofText text ≠ Digest.ofBytes c ∨
      MustAsk e t text path c ∧ e.prompt (e.asked ++ [question text path c]) = .accept := by
  rcases h.2 with hforce | habsent | unknown | ⟨b, old, hread, hold, hnew, rfl⟩ | ⟨b, hask, hanswer⟩
  · exact absurd (looked.unforced.symm.trans hforce) Bool.false_ne_true
  · exact absurd (habsent.symm.trans looked.exists) Bool.false_ne_true
  · exact .inl unknown
  · obtain rfl := looked.unique hread
    exact .inr (.inl ⟨hold, hnew.symm⟩)
  · obtain rfl := looked.unique hask.1.read
    exact .inr (.inr ⟨hask, hanswer⟩)

theorem Keeps.not_mustWrite {d : Decision} {qs : List Question} (why : Keeps e t text path d qs) :
    ¬ MustWrite e t text path := by
  intro hwrite
  cases why with
  | guarded hcovered => exact absurd (hwrite.1.symm.trans hcovered) Bool.false_ne_true
  | unchanged looked known =>
    rcases hwrite.of_compares looked with ⟨hnone, -⟩ | ⟨hcur, hnew⟩ | ⟨hask, -⟩
    · rw [known] at hnone; cases hnone
    · exact hnew (Option.some.inj (known.symm.trans hcur))
    · exact not_mustAsk_of_current known _ hask
  | declined doubts answer =>
    rcases hwrite.of_compares doubts.toCompares with ⟨hnone, hover⟩ | ⟨hcur, -⟩ | ⟨-, haccept⟩
    · rw [(doubts.unknown hnone).1] at hover; cases hover
    · exact (doubts.edited _ hcur).2 rfl
    · rw [answer] at haccept; cases haccept

theorem Keeps.not_adopts {d : Decision} {qs : List Question} (why : Keeps e t text path d qs) :
    ¬ Adopts e t text path := by
  rintro ⟨looked, hnone, -⟩
  cases why with
  | guarded hcovered => exact absurd (looked.uncovered.symm.trans hcovered) Bool.false_ne_true
  | unchanged _ known => rw [known] at hnone; cases hnone
  | declined doubts _ => exact (doubts.unknown hnone).2 (doubts.toCompares.unique looked.read).symm

theorem Adopts.not_mustWrite (h : Adopts e t text path) : ¬ MustWrite e t text path := by
  obtain ⟨looked, hnone, hprompts⟩ := h
  intro hwrite
  rcases hwrite.of_compares looked with ⟨-, hover⟩ | ⟨hcur, -⟩ | ⟨hask, -⟩
  · rw [hprompts] at hover; cases hover
  · rw [hnone] at hcur; cases hcur
  · exact ((mustAsk_iff.1 hask).unknown hnone).2 rfl

theorem Adopts.not_mustAsk (h : Adopts e t text path) (b : ByteArray) : ¬ MustAsk e t text path b := by
  obtain ⟨looked, hnone, -⟩ := h
  intro hask
  exact ((mustAsk_iff.1 hask).unknown hnone).2 (looked.unique hask.1.read)

/-- The questions that go with a decision are those that have to be asked. -/
def Asks (e : Emitter) (t : FileTree) (text : String) (path : Path) (qs : List Question) : Prop :=
  (∀ c, MustAsk e t text path c → qs = [question text path c]) ∧ ((∀ c, ¬ MustAsk e t text path c) → qs = [])

theorem asks_nil (h : ∀ c, ¬ MustAsk e t text path c) : Asks e t text path [] :=
  ⟨fun c hask => absurd hask (h c), fun _ => rfl⟩

theorem asks_one (doubts : Doubts e t text path c) : Asks e t text path [question text path c] := by
  refine ⟨fun b hask => ?_, fun h => absurd (mustAsk_iff.2 doubts) (h c)⟩
  rw [doubts.toCompares.unique hask.1.read]

theorem Writes.asks {d : Decision} {qs : List Question} (why : Writes e t text path d qs) : Asks e t text path qs := by
  cases why with
  | missing _ habsent =>
    exact asks_nil (not_mustAsk_of_not_compares fun c looked => Bool.false_ne_true (habsent.symm.trans looked.exists))
  | forced _ hforce =>
    exact asks_nil (not_mustAsk_of_not_compares fun c looked => Bool.false_ne_true (looked.unforced.symm.trans hforce))
  | untracked _ unknown =>
    refine asks_nil fun c hask => ?_
    have hprompts := ((mustAsk_iff.1 hask).unknown unknown.1).1
    rw [unknown.2] at hprompts
    cases hprompts
  | unedited looked known _ => exact asks_nil (not_mustAsk_of_unedited looked known)
  | accepted doubts _ => exact asks_one doubts

theorem Keeps.asks {d : Decision} {qs : List Question} (why : Keeps e t text path d qs) : Asks e t text path qs := by
  cases why with
  | guarded hcovered =>
    refine asks_nil (not_mustAsk_of_not_compares fun c looked => ?_)
    exact Bool.false_ne_true (looked.uncovered.symm.trans hcovered)
  | unchanged _ known => exact asks_nil (not_mustAsk_of_current known)
  | declined doubts _ => exact asks_one doubts

/-! ## The emit -/

/-- A writing that nothing disturbs comes to its end. -/
theorem Undisturbed.write_ok (calm : Undisturbed e t text path) (hwrite : MustWrite e t text path) :
    t.writeDeep path text.toUTF8 = ((t.writeDeep path text.toUTF8).1, .ok ()) :=
  Prod.ext rfl (calm.writable hwrite)

/-- An emit that nothing disturbs succeeds. -/
theorem Undisturbed.emit_ok (calm : Undisturbed e t text path) (fresh : ledgerKey path ∉ e.emitted) :
    ∃ e' u d, e.emit t text path = (e', u, .ok d) := by
  have hdup : ¬ e.emitted.contains (ledgerKey path) = true := by simpa using fresh
  unfold emit
  rw [if_neg hdup, ← takeUp_nil]
  simp only [plan_takeUp]
  have hplan := plan_spec e t text path
  generalize e.plan t text path = p at hplan ⊢
  cases hplan with
  | unreadable uncovered unforced present unread =>
    obtain ⟨c, hc⟩ := calm.readable uncovered unforced present
    rw [unread] at hc
    cases hc
  | keep _ => exact ⟨_, _, _, rfl⟩
  | adopt _ _ => exact ⟨_, _, _, rfl⟩
  | write why =>
    simp only [carryOut, write]
    rw [calm.write_ok why.mustWrite]
    exact ⟨_, _, _, rfl⟩
  | @ask c doubts =>
    have hp : (e.takeUp path []).prompt ((e.takeUp path []).asked ++ [question text path c])
        = e.prompt (e.asked ++ [question text path c]) := by
      simp [takeUp]
    simp only [carryOut, hp]
    rcases ha : e.prompt (e.asked ++ [question text path c]) with _ | _ | reason
    · simp only [write]
      rw [calm.write_ok (Writes.accepted doubts ha).mustWrite]
      exact ⟨_, _, _, rfl⟩
    · exact ⟨_, _, _, rfl⟩
    · exact absurd ha (calm.answered c reason (mustAsk_iff.2 doubts))

/-- The contract of an emit of a path that was not taken up before. It succeeds if nothing disturbs it. It writes the
text, asks the prompt and enters the digest of the text into the ledger just when it must, and leaves the file, the
ledger and the prompt alone when not. Other files and other entries stay as they are in any case. -/
theorem emit_contract (fresh : ledgerKey path ∉ e.emitted) (calm : Undisturbed e t text path) :
    ∃ e' u d, e.emit t text path = (e', u, .ok d) ∧ Contract e t text path e' u d := by
  obtain ⟨e', u, d, hemit⟩ := calm.emit_ok fresh
  refine ⟨e', u, d, hemit, ?_⟩
  have elsewhere : ∀ p, p ≠ path.place → u.fileAt p = t.fileAt p := fun p hp => emit_ok_fileAt_ne hemit hp
  have entries : ∀ k, k ≠ ledgerKey path → e'.ledger.get? k = e.ledger.get? k := by
    intro k hk
    have hentry : (e.emit t text path).1.ledger.get? k = e.ledger.get? k := get?_emit_ne hk
    rw [hemit] at hentry
    exact hentry
  have recorded : ∀ q : Emitter, (q.record text path).ledger.get? (ledgerKey path) = some (Digest.ofText text) :=
    fun q => (Ledger.get?_insert _ _ _ _).trans (if_pos rfl)
  have hs := emit_spec e t text path
  rw [hemit] at hs
  cases hs with
  | @kept _ qs _ why =>
    have hnot := why.not_mustWrite
    exact {
      writes := by simp [why.writes, hnot]
      written := fun h => absurd h hnot
      left := fun _ => rfl
      elsewhere := elsewhere
      asked := fun c hask => congrArg (e.asked ++ ·) (why.asks.1 c hask)
      unasked := fun h => (congrArg (e.asked ++ ·) (why.asks.2 h)).trans (List.append_nil _)
      entered := fun h => absurd h (not_or.2 ⟨hnot, why.not_adopts⟩)
      remembered := fun _ _ => rfl
      entries := entries }
  | adopted _ looked unknown =>
    have hadopts : Adopts e t text path := ⟨looked, unknown⟩
    exact {
      writes := by simp [Decision.writes, hadopts.not_mustWrite]
      written := fun h => absurd h hadopts.not_mustWrite
      left := fun _ => rfl
      elsewhere := elsewhere
      asked := fun c hask => absurd hask (hadopts.not_mustAsk c)
      unasked := fun _ => List.append_nil _
      entered := fun _ => recorded _
      remembered := fun _ h => absurd hadopts h
      entries := entries }
  | @wrote _ qs _ _ why done =>
    have hwrite := why.mustWrite
    exact {
      writes := by simp [why.writes, hwrite]
      written := fun _ => ⟨(congrArg Prod.fst done).symm, FileTree.writeDeep_read done⟩
      left := fun h => absurd hwrite h
      elsewhere := elsewhere
      asked := fun c hask => congrArg (e.asked ++ ·) (why.asks.1 c hask)
      unasked := fun h => (congrArg (e.asked ++ ·) (why.asks.2 h)).trans (List.append_nil _)
      entered := fun _ => recorded _
      remembered := fun h _ => absurd hwrite h
      entries := entries }

/-- A file that was edited since the ledger took note of it. -/
def editedTree : FileTree := ⟨[(⟨.above 0, ["a.ts"]⟩, .file "mine".toUTF8)]⟩

/-- Knows what stood in the file before, and a prompt that accepts. -/
def consulting : Emitter :=
  .start ⟨⟨"ledger"⟩, SortedMap.empty.insert "a.ts" (Digest.ofText "old")⟩ ⟨false, ⟨[]⟩, .prompt⟩ .alwaysAccept

theorem mustAsk_consulting : MustAsk consulting editedTree "new" ⟨"a.ts"⟩ "mine".toUTF8 :=
  ⟨⟨by decide +kernel, rfl, rfl⟩, .inr ⟨Digest.ofText "old", by decide +kernel, by decide +kernel, by decide +kernel⟩⟩

theorem undisturbed_consulting : Undisturbed consulting editedTree "new" ⟨"a.ts"⟩ where
  readable := fun _ _ _ => ⟨"mine".toUTF8, rfl⟩
  writable := fun _ => rfl
  answered := fun _ _ _ h => by cases h

theorem emit_contract_accepted : ledgerKey ⟨"a.ts"⟩ ∉ consulting.emitted ∧
    Undisturbed consulting editedTree "new" ⟨"a.ts"⟩ ∧
    ∃ e' u d, consulting.emit editedTree "new" ⟨"a.ts"⟩ = (e', u, .ok d) ∧ d.writes = true ∧
      u.read ⟨"a.ts"⟩ = .ok "new".toUTF8 ∧ e'.asked = [question "new" ⟨"a.ts"⟩ "mine".toUTF8] ∧
      e'.ledger.get? "a.ts" = some (Digest.ofText "new") := by
  have fresh : ledgerKey ⟨"a.ts"⟩ ∉ consulting.emitted := List.not_mem_nil
  have hwrite : MustWrite consulting editedTree "new" ⟨"a.ts"⟩ :=
    ⟨mustAsk_consulting.1.uncovered, .inr (.inr (.inr (.inr ⟨_, mustAsk_consulting, rfl⟩)))⟩
  obtain ⟨e', u, d, hemit, contract⟩ := emit_contract fresh undisturbed_consulting
  have hentry := contract.entered (.inl hwrite)
  rw [show ledgerKey ⟨"a.ts"⟩ = "a.ts" by decide +kernel] at hentry
  exact ⟨fresh, undisturbed_consulting, e', u, d, hemit, contract.writes.2 hwrite, (contract.written hwrite).2,
    contract.asked _ mustAsk_consulting, hentry⟩

end ApiScaffold.Emitter
