/-
The round trip of a ledger through its file, and what its text depends on: the digest that each name ends up
with, however the calls that led there were ordered.
-/
import ApiScaffold.Proofs.Ledger.Persistence

namespace ApiScaffold.Ledger

/-! ## What the text says -/

/-- The text of a ledger says which entries it has, and nothing else. -/
theorem toText_eq_iff {l l' : Ledger} : l.toText = l'.toText ↔ ∀ key, l.get? key = l'.get? key := by
  constructor
  · intro h key
    have hentries : some l.entries = some l'.entries := by
      rw [← entriesOfText?_toText l, h, entriesOfText?_toText]
    unfold get?
    rw [Option.some.inj hentries]
  · intro h
    have hentries : l.entries = l'.entries := SortedMap.ext_get? h
    unfold toText
    rw [hentries]

/-! ## Calls that change the entries -/

inductive Change where
  | insert (key digest : String)
  | retain (keep : String → Bool)

def Change.apply (l : Ledger) : Change → Ledger
  | .insert key digest => l.insert key digest
  | .retain keep => l.retain keep

/-- What a call makes of the digest that a name has. -/
def Change.effect (name : String) (held : Option String) : Change → Option String
  | .insert key digest => if name = key then some digest else held
  | .retain keep => if keep name then held else none

/-- A ledger after calls made in order. -/
def after (l : Ledger) (cs : List Change) : Ledger := cs.foldl Change.apply l

theorem get?_apply (l : Ledger) (c : Change) (name : String) :
    (c.apply l).get? name = c.effect name (l.get? name) := by
  cases c with
  | insert key digest => exact get?_insert l key digest name
  | retain keep => exact get?_retain l keep name

/-- A name ends up with what the calls, one after the other, make of its digest. -/
theorem get?_after (name : String) :
    ∀ (cs : List Change) (l : Ledger), (l.after cs).get? name = cs.foldl (Change.effect name) (l.get? name)
  | [], _ => rfl
  | c :: cs, l => by
    have ih := get?_after name cs (c.apply l)
    rw [get?_apply] at ih
    exact ih

/-! ## The round trip -/

/-- What a ledger and its file have to do with each other, for a file tree that it is saved to. -/
structure RoundTrip (l : Ledger) (t : FileTree) : Prop where
  /-- The ledger is saved, its text is what the file then holds, and it is what is loaded from there. -/
  loaded : ∃ u, l.save t = (u, .ok ()) ∧ u.read l.path = .ok l.toText.toUTF8 ∧ load u l.path = l
  /-- Calls made from two ledgers lead to the same text just if they leave every name with the same digest. -/
  settled : ∀ (l' : Ledger) (cs cs' : List Change), (l.after cs).toText = (l'.after cs').toText ↔
    ∀ name, cs.foldl (Change.effect name) (l.get? name) = cs'.foldl (Change.effect name) (l'.get? name)

/-- A ledger saved where something can be written is loaded again as it was, whatever characters its names and
digests have; its text shows the digests that the names end up with, not the calls that led there. -/
theorem save_load_roundtrip (l : Ledger) (t : FileTree) (writable : t.Writable l.path) : RoundTrip l t where
  loaded := by
    obtain ⟨u, hu⟩ := writable.writeDeep l.toText.toUTF8
    exact ⟨u, hu, FileTree.writeDeep_read hu, load_save hu⟩
  settled l' cs cs' := by
    rw [toText_eq_iff]
    apply forall_congr'
    intro name
    rw [get?_after, get?_after]

/-- A ledger whose name and digest hold a quote, a backslash, control characters and others. -/
def quoted : Ledger := ⟨⟨"nested/ledger.json"⟩, SortedMap.empty.insert "a\"\\\n\u0001é" "\t\u007f\u2028𝄞"⟩

theorem save_load_roundtrip_quoted :
    FileTree.Writable .empty quoted.path ∧ RoundTrip quoted .empty := by
  have writable : FileTree.Writable .empty quoted.path := ⟨.empty, by decide⟩
  exact ⟨writable, save_load_roundtrip quoted .empty writable⟩

end ApiScaffold.Ledger
