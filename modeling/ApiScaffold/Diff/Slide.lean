/-
Sliding edits along equal lines, so that neighbouring edits of one kind come together. Each deletion
and then each insertion is moved up as far as it goes and down again; an insertion passes equal lines
where its text allows it, and edits of different kinds change places.
-/
import ApiScaffold.Diff

namespace ApiScaffold.Diff

namespace Edit

def isEmpty : Edit → Bool
  | .keep _ _ len => len == 0
  | .delete _ _ len => len == 0
  | .insert _ _ len => len == 0
  | .replace _ oldLen _ newLen => oldLen == 0 && newLen == 0

/-- The lines of the old list that an edit covers. -/
def oldSpan : Edit → Span
  | .keep old _ len => ⟨old, old + len⟩
  | .delete old _ len => ⟨old, old + len⟩
  | .insert old _ _ => ⟨old, old⟩
  | .replace old oldLen _ _ => ⟨old, old + oldLen⟩

/-- The lines of the new list that an edit covers. -/
def newSpan : Edit → Span
  | .keep _ new len => ⟨new, new + len⟩
  | .delete _ new _ => ⟨new, new⟩
  | .insert _ new len => ⟨new, new + len⟩
  | .replace _ _ new newLen => ⟨new, new + newLen⟩

/-- Moves where an edit begins and changes its length. -/
def adjust (f g : Nat → Nat) : Edit → Edit
  | .keep old new len => .keep (f old) (f new) (g len)
  | .delete old new len => .delete (f old) (f new) (g len)
  | .insert old new len => .insert (f old) (f new) (g len)
  | .replace old oldLen new newLen => .replace (f old) (g oldLen) (f new) (g newLen)

def length : Edit → Nat
  | .keep _ _ len => len
  | .delete _ _ len => len
  | .insert _ _ len => len
  | .replace _ oldLen _ newLen => oldLen + newLen

end Edit

/-- The edits around one of them, those before it last first. -/
structure Focus where
  before : List Edit
  this : Edit
  after : List Edit

/-- Moves equal lines from before an insertion to behind it. -/
def Focus.liftOver (z : Focus) (prev : Edit) (before : List Edit) (n : Nat) : Focus :=
  let after := match z.after with
    | .keep old new len :: rest => .keep (old - n) (new - n) (len + n) :: rest
    | rest => .keep (prev.oldSpan.hi - n) (z.this.newSpan.hi - n) n :: rest
  let prev := prev.adjust id (· - n)
  ⟨if prev.isEmpty then before else prev :: before, z.this.adjust (· - n) id, after⟩

/-- Moves equal lines from behind an insertion to before it. -/
def Focus.lowerOver (z : Focus) (next : Edit) (after : List Edit) (n : Nat) : Focus :=
  let before := match z.before with
    | .keep old new len :: rest => .keep old new (len + n) :: rest
    | rest => .keep next.oldSpan.lo z.this.newSpan.lo n :: rest
  let next := next.adjust (· + n) (· - n)
  ⟨before, z.this.adjust (· + n) id, if next.isEmpty then after else next :: after⟩

/-- Moves the edit in focus up as far as it goes. -/
def slideUp (old new : Lines) : Nat → Focus → Focus
  | 0, z => z
  | fuel + 1, z =>
    match z.before with
    | [] => z
    | prev :: before =>
      match z.this, prev with
      | .insert .., .insert .. =>
        slideUp old new fuel ⟨before, prev.adjust id (· + z.this.length), z.after⟩
      | .delete .., .delete .. =>
        slideUp old new fuel ⟨before, prev.adjust id (· + z.this.length), z.after⟩
      | .insert .., .delete .. => slideUp old new fuel ⟨before, z.this, prev :: z.after⟩
      | .delete .., .insert .. => slideUp old new fuel ⟨before, z.this, prev :: z.after⟩
      | this, _ =>
        let n := commonSuffix old new prev.oldSpan this.newSpan
        if n > 0 then slideUp old new fuel (z.liftOver prev before n)
        else if prev.isEmpty then slideUp old new fuel { z with before }
        else z

/-- Moves the edit in focus down as far as it goes. -/
def slideDown (old new : Lines) : Nat → Focus → Focus
  | 0, z => z
  | fuel + 1, z =>
    match z.after with
    | [] => z
    | next :: after =>
      match z.this, next with
      | .insert .., .insert .. =>
        slideDown old new fuel ⟨z.before, z.this.adjust id (· + next.length), after⟩
      | .delete .., .delete .. =>
        slideDown old new fuel ⟨z.before, z.this.adjust id (· + next.length), after⟩
      | .insert .., .delete .. => slideDown old new fuel ⟨next :: z.before, z.this, after⟩
      | .delete .., .insert .. => slideDown old new fuel ⟨next :: z.before, z.this, after⟩
      | this, _ =>
        let n := commonPrefix old new next.oldSpan this.newSpan
        if n > 0 then slideDown old new fuel (z.lowerOver next after n)
        else if next.isEmpty then slideDown old new fuel { z with after }
        else z

/-- Slides the edits that pass the test, from the first to the last; `done` are those before, last
first. -/
def slideEach (old new : Lines) (p : Edit → Bool) : Nat → List Edit → List Edit → List Edit
  | 0, done, es => done.reverse ++ es
  | _, done, [] => done.reverse
  | fuel + 1, done, e :: es =>
    if p e then
      let bound := old.size + new.size + 2 * (done.length + es.length) + 2
      let z := slideDown old new bound (slideUp old new bound ⟨done, e, es⟩)
      slideEach old new p fuel (z.this :: z.before) z.after
    else slideEach old new p fuel (e :: done) es

def isDeletion : Edit → Bool
  | .delete .. => true
  | _ => false

def isInsertion : Edit → Bool
  | .insert .. => true
  | _ => false

/-- Slides all deletions and then all insertions. -/
def slide (old new : Lines) (es : List Edit) : List Edit :=
  let bound := 2 * (old.size + new.size + es.length) + 2
  slideEach old new isInsertion bound [] (slideEach old new isDeletion bound [] es)

/-! ## Joining edits -/

/-- The edits that are not yet written. -/
structure Pending where
  kept : Option (Nat × Nat × Nat)
  deleted : Option (Nat × Nat × Nat)
  inserted : Option (Nat × Nat × Nat)

namespace Pending

def none : Pending := ⟨.none, .none, .none⟩

/-- A deletion and an insertion that stand together are a replacement. -/
def changes (p : Pending) : List Edit :=
  match p.deleted, p.inserted with
  | some (old, _, len), some (_, new, newLen) => [.replace old len new newLen]
  | some (old, new, len), .none => [.delete old new len]
  | .none, some (old, new, len) => [.insert old new len]
  | .none, .none => []

def keeps (p : Pending) : List Edit :=
  match p.kept with
  | some (old, new, len) => [.keep old new len]
  | .none => []

/-- Lengthens what is pending, or begins it. -/
def extend (pending : Option (Nat × Nat × Nat)) (old new len : Nat) : Option (Nat × Nat × Nat) :=
  match pending with
  | some (o, n, l) => some (o, n, l + len)
  | .none => some (old, new, len)

end Pending

/-- Joins neighbours of one kind, and deletions with the insertions beside them. -/
def joinFrom (p : Pending) : List Edit → List Edit
  | [] => p.keeps ++ p.changes
  | .keep old new len :: es => p.changes ++ joinFrom ⟨Pending.extend p.kept old new len, none, none⟩ es
  | .delete old new len :: es =>
    p.keeps ++ joinFrom ⟨none, Pending.extend p.deleted old new len, p.inserted⟩ es
  | .insert old new len :: es =>
    p.keeps ++ joinFrom ⟨none, p.deleted, Pending.extend p.inserted old new len⟩ es
  | e :: es => p.keeps ++ p.changes ++ e :: joinFrom .none es

/-- The edits that lead from one list of lines to another. -/
def edits (old new : Lines) : List Edit :=
  let found := compare old new (old.size + new.size + 1) ⟨0, old.size⟩ ⟨0, new.size⟩
  joinFrom .none (slide old new found)

end ApiScaffold.Diff
