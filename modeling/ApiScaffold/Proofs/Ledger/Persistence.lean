/-
The ledger file. What was saved is what is loaded next, for any names and digests; and the entries of a
ledger come from the file at its place, so whatever leaves that file alone leaves the ledger alone.
-/
import ApiScaffold.Ledger
import ApiScaffold.Proofs.FileTree.Write
import ApiScaffold.Proofs.Json.Strings
import ApiScaffold.Proofs.SortedMap

namespace ApiScaffold

theorem fromUTF8?_toUTF8 (s : String) : String.fromUTF8? s.toUTF8 = some s := by
  have h : s.toUTF8.IsValidUTF8 := s.isValidUTF8
  unfold String.fromUTF8?
  rw [dif_pos h]
  rfl

namespace FileTree

theorem readText_eq (t : FileTree) (path : Path) :
    t.readText path = (t.read path).bind fun c => match String.fromUTF8? c with
      | some text => .ok text
      | none => .error .notText := by
  unfold readText
  rcases t.read path with e | c
  · rfl
  · simp only [bind, Except.bind]
    rcases String.fromUTF8? c with _ | text <;> rfl

theorem readText_of_read {t : FileTree} {path : Path} {s : String} (h : t.read path = .ok s.toUTF8) :
    t.readText path = .ok s := by
  rw [readText_eq, h]
  simp only [Except.bind, fromUTF8?_toUTF8]

end FileTree

namespace Ledger

/-! ## Entries -/

theorem get?_insert (l : Ledger) (key digest k : String) :
    (l.insert key digest).get? k = if k = key then some digest else l.get? k :=
  l.entries.get?_insert key digest k

theorem get?_retain (l : Ledger) (keep : String → Bool) (k : String) :
    (l.retain keep).get? k = if keep k then l.get? k else none :=
  l.entries.get?_filter_key keep k

/-- A ledger all of whose names pass the test stays as it is. -/
theorem retain_eq_self {l : Ledger} {keep : String → Bool} (h : ∀ k d, l.get? k = some d → keep k = true) :
    l.retain keep = l := by
  unfold retain
  rw [SortedMap.filter_key_eq_self h]

/-- What is kept depends on the test of the names that the ledger has. -/
theorem retain_congr {l : Ledger} {keep keep' : String → Bool} (h : ∀ k d, l.get? k = some d → keep k = keep' k) :
    l.retain keep = l.retain keep' := by
  unfold retain
  rw [SortedMap.filter_key_congr h]

/-- A test that keeps less, and not some name that the ledger has, leaves fewer entries. -/
theorem size_retain_lt {l : Ledger} {keep keep' : String → Bool} (less : ∀ k, keep k = true → keep' k = true)
    {key digest : String} (held : l.get? key = some digest) (dropped : keep key = false) (kept : keep' key = true) :
    (l.retain keep).size < (l.retain keep').size := by
  have hmem : (key, digest) ∈ (l.retain keep').entries.entries :=
    List.mem_filter.2 ⟨SortedMap.mem_of_get? held, kept⟩
  have hfilter : (l.retain keep).entries.entries = (l.retain keep').entries.entries.filter fun e => keep e.1 := by
    show l.entries.entries.filter (fun e => keep e.1) = (l.entries.entries.filter fun e => keep' e.1).filter _
    rw [List.filter_filter]
    apply List.filter_congr
    intro e _
    cases hkeep : keep e.1 with
    | true => simp [less e.1 hkeep]
    | false => rfl
  show (l.retain keep).entries.entries.length < (l.retain keep').entries.entries.length
  rw [hfilter, List.length_filter_lt_length_iff_exists]
  exact ⟨(key, digest), hmem, by simp [dropped]⟩

theorem size_retain_le (l : Ledger) (keep : String → Bool) : (l.retain keep).size ≤ l.size :=
  List.length_filter_le ..

/-! ## Saving and loading -/

theorem mapM_str? :
    ∀ es : List (String × String), (es.map fun e => (e.1, Json.str e.2)).mapM
      (fun m => m.2.str?.bind fun v => pure (m.1, v)) = some es
  | [] => rfl
  | e :: es => by
    rw [List.map_cons, List.mapM_cons, mapM_str? es]
    rfl

theorem entriesOfText?_toText (l : Ledger) : entriesOfText? l.toText = some l.entries := by
  have hblank : ∀ c ∈ ("\n" : String).toList, Json.Token.isBlank c = true := by simp [Json.Token.isBlank]
  unfold entriesOfText? toText
  show ((Json.readAsWritten ((Json.ofStrings l.entries.entries).pretty ++ "\n")).bind _ : Option _) = _
  rw [Json.readAsWritten_pretty l.entries.entries hblank]
  simp only [Option.bind_some, Json.ofStrings, bind]
  rw [mapM_str?]
  show some (SortedMap.ofList l.entries.entries) = _
  rw [SortedMap.ofList_entries]

theorem load_path (t : FileTree) (path : Path) : (load t path).path = path := by
  unfold load
  split <;> rfl

/-- What a file that can be read holds is what is loaded. -/
theorem load_of_read {t : FileTree} {l : Ledger} (h : t.read l.path = .ok l.toText.toUTF8) :
    load t l.path = l := by
  unfold load
  rw [FileTree.readText_of_read h]
  simp only [entriesOfText?_toText]
  rfl

/-- Loading after saving gives the ledger that was saved. -/
theorem load_save {l : Ledger} {t u : FileTree} (h : l.save t = (u, .ok ())) : load u l.path = l :=
  load_of_read (FileTree.writeDeep_read h)

/-- Saving changes no file but that of the ledger. -/
theorem save_fileAt_ne {l : Ledger} {t u : FileTree} {r : Except FileTree.Failure Unit} (h : l.save t = (u, r))
    {q : Place} (hq : q ≠ l.path.place) : u.fileAt q = t.fileAt q := FileTree.writeDeep_fileAt_ne h hq

theorem save_grows {l : Ledger} {t u : FileTree} {r : Except FileTree.Failure Unit} (h : l.save t = (u, r)) :
    FileTree.Grows t u := FileTree.writeDeep_grows h

/-- The entries that octets stand for; none unless they are the text of a ledger. -/
def entriesOfBytes (c : ByteArray) : SortedMap String :=
  ((String.fromUTF8? c).bind entriesOfText?).getD .empty

theorem entriesOfBytes_toText (l : Ledger) : entriesOfBytes l.toText.toUTF8 = l.entries := by
  unfold entriesOfBytes
  rw [fromUTF8?_toUTF8, Option.bind_some, entriesOfText?_toText, Option.getD_some]

theorem load_entries_of_read {t : FileTree} {path : Path} {c : ByteArray} (h : t.read path = .ok c) :
    (load t path).entries = entriesOfBytes c := by
  unfold load entriesOfBytes
  rw [FileTree.readText_eq, h]
  simp only [Except.bind]
  rcases String.fromUTF8? c with _ | text <;> rfl

theorem load_entries_of_error {t : FileTree} {path : Path} {e : FileError} (h : t.read path = .error e) :
    (load t path).entries = .empty := by
  unfold load
  rw [FileTree.readText_eq, h]
  rfl

/-! ## The file of a ledger -/

/-- The digest that the file at the place of a ledger holds for a name. -/
def entryAt (t : FileTree) (path : Path) (key : String) : Option String :=
  (t.fileAt path.place).bind fun c => (entriesOfBytes c).get? key

theorem entryAt_congr {t u : FileTree} {path : Path} (h : u.fileAt path.place = t.fileAt path.place) (key : String) :
    entryAt u path key = entryAt t path key := by
  unfold entryAt; rw [h]

theorem entryAt_of_fileAt {t : FileTree} {path : Path} {c : ByteArray} (h : t.fileAt path.place = some c) (key : String) :
    entryAt t path key = (entriesOfBytes c).get? key := by
  unfold entryAt; rw [h]; rfl

theorem entryAt_of_none {t : FileTree} {path : Path} (h : t.fileAt path.place = none) (key : String) :
    entryAt t path key = none := by
  unfold entryAt; rw [h]; rfl

theorem get?_load_of_read {t : FileTree} {path : Path} {c : ByteArray} (h : t.read path = .ok c) (key : String) :
    (load t path).get? key = entryAt t path key := by
  rw [entryAt_of_fileAt (FileTree.read_ok.1 h).2]
  unfold get?
  rw [load_entries_of_read h]

theorem get?_load_of_error {t : FileTree} {path : Path} {e : FileError} (h : t.read path = .error e) (key : String) :
    (load t path).get? key = none := by
  unfold get?
  rw [load_entries_of_error h]
  rfl

/-- Every entry that is loaded stands in the file at the place of the ledger. -/
theorem entryAt_of_load {t : FileTree} {path : Path} {k d : String} (h : (load t path).get? k = some d) :
    entryAt t path k = some d := by
  rcases hr : t.read path with e | c
  · rw [get?_load_of_error hr] at h; cases h
  · rw [← get?_load_of_read hr]; exact h

/-- The path of a ledger leads to its file, if there is one. -/
def Readable (t : FileTree) (path : Path) : Prop := t.fileAt path.place = none ∨ ∃ c, t.read path = .ok c

/-- All entries of a readable ledger are loaded. -/
theorem Readable.get?_load {t : FileTree} {path : Path} (h : Readable t path) (key : String) :
    (load t path).get? key = entryAt t path key := by
  rcases h with hnone | ⟨c, hr⟩
  · -- without a file nothing is loaded, whatever keeps the path from being read
    rcases hr : t.read path with e | c
    · rw [get?_load_of_error hr, entryAt_of_none hnone]
    · rw [(FileTree.read_ok.1 hr).2] at hnone
      cases hnone
  · exact get?_load_of_read hr key

end Ledger

end ApiScaffold
