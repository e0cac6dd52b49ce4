/-
Which templates a rendering consults. Rendering is monotone in what can be read: what is rendered while some
templates cannot be read is rendered in the same way when they can, or when others stand in their place. And
it is finitary: what is rendered at all is rendered with some names alone. So a rendering depends on these
names only.
-/
import ApiScaffold.Template.Render
import Mathlib.Tactic

namespace ApiScaffold.Template

/-- Every template that can be read or is known to be missing for the first is so for the second. -/
def Extends (find find' : String → Lookup) : Prop := ∀ name, find name = .unreadable ∨ find name = find' name

/-- Makes all templates unreadable but those of some names. -/
def only (names : List String) (find : String → Lookup) : String → Lookup :=
  fun name => if name ∈ names then find name else .unreadable

theorem only_of_mem {names : List String} {find : String → Lookup} {name : String} (h : name ∈ names) :
    only names find name = find name := if_pos h

theorem only_extends {names : List String} {find find' : String → Lookup}
    (h : ∀ name ∈ names, find name = find' name) : Extends (only names find) find' := by
  intro name
  unfold only
  split
  · rename_i hname; exact .inr (h name hname)
  · exact .inl rfl

theorem only_extends_only {names names' : List String} (h : names ⊆ names') (find : String → Lookup) :
    Extends (only names find) (only names' find) :=
  only_extends fun _ hname => (only_of_mem (h hname)).symm

namespace Rendering

/-! ## Steps that consult templates -/

/-- A step that gives the same when more can be read, and that needs no more than some names. -/
structure Finitary {α : Type} (p : (String → Lookup) → Step α) : Prop where
  mono : ∀ {find find' r y}, Extends find find' → (p find).run r = some y → (p find').run r = some y
  names : ∀ {find r y}, (p find).run r = some y → ∃ names, (p (only names find)).run r = some y

section

variable {α β : Type}

theorem finitary_const (p : Step α) : Finitary fun _ => p := ⟨fun _ h => h, fun h => ⟨[], h⟩⟩

theorem finitary_bind {p : (String → Lookup) → Step α} {f : (String → Lookup) → α → Step β} (hp : Finitary p)
    (hf : ∀ a, Finitary fun find => f find a) : Finitary fun find => p find >>= f find := by
  constructor
  · intro find find' r y h hy
    rw [StateT.run_bind] at hy ⊢
    obtain ⟨⟨a, s⟩, ha, hy⟩ := Option.bind_eq_some_iff.1 hy
    exact Option.bind_eq_some_iff.2 ⟨(a, s), hp.mono h ha, (hf a).mono h hy⟩
  · intro find r y hy
    rw [StateT.run_bind] at hy
    obtain ⟨⟨a, s⟩, ha, hy⟩ := Option.bind_eq_some_iff.1 hy
    obtain ⟨names, ha⟩ := hp.names ha
    obtain ⟨names', hy⟩ := (hf a).names hy
    -- both parts go on to give the same when they may read what either needs
    refine ⟨names ++ names', ?_⟩
    rw [StateT.run_bind]
    exact Option.bind_eq_some_iff.2 ⟨(a, s), hp.mono (only_extends_only (List.subset_append_left ..) find) ha,
      (hf a).mono (only_extends_only (List.subset_append_right ..) find) hy⟩

/-- A step that consults nothing at its beginning is judged by how it goes on. -/
theorem finitary_after (p : Step α) {f : (String → Lookup) → α → Step β}
    (hf : ∀ a, Finitary fun find => f find a) : Finitary fun find => p >>= f find :=
  finitary_bind (finitary_const p) hf

theorem finitary_ite {c : Prop} [Decidable c] {p q : (String → Lookup) → Step α} (hp : Finitary p) (hq : Finitary q) :
    Finitary fun find => if c then p find else q find := by
  by_cases hc : c
  · simpa only [if_pos hc] using hp
  · simpa only [if_neg hc] using hq

theorem finitary_inFrame {p : (String → Lookup) → Step α} (hp : Finitary p) : Finitary fun find => inFrame (p find) :=
  finitary_after _ fun _ => finitary_after _ fun _ => finitary_bind hp fun _ => finitary_const _

theorem finitary_forM {f : (String → Lookup) → α → Step PUnit} (hf : ∀ a, Finitary fun find => f find a) :
    ∀ xs : List α, Finitary fun find => xs.forM (f find)
  | [] => finitary_const _
  | x :: xs => finitary_bind (hf x) fun _ => finitary_forM hf xs

end

theorem finitary_load (name : String) : Finitary fun find => load find name := by
  constructor
  · intro find find' r y h hy
    unfold load at hy ⊢
    rcases h name with hname | hname
    · rw [hname] at hy; cases hy
    · rw [← hname]; exact hy
  · intro find r y hy
    refine ⟨[name], ?_⟩
    unfold load
    rw [only_of_mem (List.mem_singleton_self _)]
    exact hy

theorem finitary_inheritFrom (v : Value) : Finitary fun find => inheritFrom find v := by
  unfold inheritFrom
  cases v with
  | str name =>
    refine finitary_after _ fun r => ?_
    exact finitary_ite (finitary_after _ fun _ => finitary_bind (finitary_load name) fun _ => finitary_const _)
      (finitary_bind (finitary_load name) fun _ => finitary_const _)
  | _ => exact finitary_const _

/-! ## The first template that is known -/

/-- The first name that is known stays the first, unless it could not be read. -/
theorem firstKnown_eq {find find' : String → Lookup} (h : Extends find find') :
    ∀ vs : List Value, firstKnown find vs = firstKnown find' vs ∨
      ∃ name, firstKnown find vs = some (some name) ∧ find name = .unreadable
  | [] => .inl rfl
  | v :: vs => by
    cases v with
    | str name =>
      unfold firstKnown
      rcases h name with hname | hname
      · exact .inr ⟨name, by rw [hname], hname⟩
      · rw [← hname]
        split
        · exact firstKnown_eq h vs
        · exact .inl rfl
    | _ => exact .inl rfl

/-- Only the names themselves matter. -/
theorem firstKnown_only {names : List String} (find : String → Lookup) :
    ∀ vs : List Value, (∀ name, .str name ∈ vs → name ∈ names) → firstKnown (only names find) vs = firstKnown find vs
  | [], _ => rfl
  | v :: vs, h => by
    cases v with
    | str name =>
      unfold firstKnown
      rw [only_of_mem (h name (List.mem_cons_self ..)), firstKnown_only find vs fun n hn => h n (List.mem_cons_of_mem _ hn)]
    | _ => rfl

/-- The names among some values. -/
def namesOf (vs : List Value) : List String := vs.filterMap fun | .str name => some name | _ => none

theorem mem_namesOf {name : String} {vs : List Value} (h : .str name ∈ vs) : name ∈ namesOf vs :=
  List.mem_filterMap.2 ⟨_, h, rfl⟩

/-! ## Statements -/

section

variable {call : (String → Lookup) → Call → Step Unit}

theorem finitary_parentBlock (hcall : ∀ c, Finitary fun find => call find c) :
    Finitary fun find => parentBlock (call find) := by
  unfold parentBlock
  refine finitary_after _ fun r => ?_
  cases r.current with
  | some place => exact hcall _
  | none => exact finitary_const _

/-- Taking in the first template that is known, when calls to unreadable templates fail. -/
theorem finitary_insert (hcall : ∀ c, Finitary fun find => call find c)
    (hfail : ∀ find name, find name = .unreadable → call find (.template name) = failure) (optional : Bool)
    (vs : List Value) :
    Finitary fun find => (do
      match ← (firstKnown find vs : Option (Option String)) with
      | some name => call find (.template name)
      | none => if !(optional || vs.isEmpty) then failure : Step Unit) := by
  have hnext : ∀ known : Option String, Finitary fun find => (match known with
      | some name => call find (.template name)
      | none => if !(optional || vs.isEmpty) then failure else pure () : Step Unit) := by
    rintro (_ | name)
    · exact finitary_const _
    · exact hcall _
  constructor
  · intro find find' r y h hy
    rcases firstKnown_eq h vs with heq | ⟨name, hname, hunreadable⟩
    · rw [heq] at hy
      exact (finitary_after _ hnext).mono h hy
    · rw [hname] at hy
      have hy : (call find (.template name)).run r = some y := hy
      rw [hfail find name hunreadable] at hy
      cases hy
  · -- which name is the first is found out with the names of the values alone
    intro find r y hy
    obtain ⟨names, hnames⟩ := (finitary_after (liftM (firstKnown find vs)) hnext).names hy
    refine ⟨namesOf vs ++ names, ?_⟩
    rw [firstKnown_only find vs fun n hn => List.mem_append_left _ (mem_namesOf hn)]
    exact (finitary_after _ hnext).mono (only_extends_only (List.subset_append_right ..) find) hnames

/-- Output other than that of an inherited block consults nothing. -/
theorem run_output {e : Expr} (h : e ≠ .call (.var "super") []) (find : String → Lookup) (call : Call → Step Unit) :
    run find call (.output e) = (do
      let text := (← eval e).print
      write (if (← get).escaping then escape text else text)) := by
  rw [run]
  exact h

mutual

theorem finitary_run (hcall : ∀ c, Finitary fun find => call find c)
    (hfail : ∀ find name, find name = .unreadable → call find (.template name) = failure) :
    ∀ s : Stmt, Finitary fun find => run find (call find) s
  | .text s => by
    simp only [run]
    exact finitary_const _
  | .output e => by
    by_cases hsuper : e = .call (.var "super") []
    · subst hsuper
      simp only [run]
      exact finitary_parentBlock hcall
    · simp only [run_output hsuper]
      exact finitary_const _
  | .loop target source test body otherwise => by
    simp only [run]
    have hrounds := fun items : List Value => finitary_bind (finitary_inFrame (finitary_forM (fun x : Value × Nat =>
      finitary_after (store "loop" (loopValue items x.2)) fun _ => finitary_after (assign target x.1) fun _ =>
        finitary_runAll hcall hfail body) items.zipIdx)) fun _ =>
      finitary_ite (c := items.isEmpty = true) (finitary_runAll hcall hfail otherwise) (finitary_const (pure ()))
    refine finitary_after _ fun v => finitary_after _ fun items => ?_
    cases test with
    | some test => exact finitary_after _ hrounds
    | none => exact finitary_after _ hrounds
  | .branch condition body otherwise => by
    simp only [run]
    exact finitary_after _ fun _ => finitary_ite (finitary_runAll hcall hfail body) (finitary_runAll hcall hfail otherwise)
  | .assign target e => by
    simp only [run]
    exact finitary_const _
  | .insert name optional => by
    simp only [run]
    refine finitary_after _ fun v => ?_
    cases v with
    | list vs => exact finitary_after _ (finitary_insert hcall hfail optional)
    | _ => exact finitary_after _ (finitary_insert hcall hfail optional)
  | .inherit name => by
    simp only [run]
    exact finitary_after _ finitary_inheritFrom
  | .block name body => by
    simp only [run]
    exact finitary_after _ fun r => finitary_ite (hcall _) (finitary_const _)

theorem finitary_runAll (hcall : ∀ c, Finitary fun find => call find c)
    (hfail : ∀ find name, find name = .unreadable → call find (.template name) = failure) :
    ∀ ss : List Stmt, Finitary fun find => runAll find (call find) ss
  | [] => by
    simp only [runAll]
    exact finitary_const _
  | s :: ss => by
    simp only [runAll]
    exact finitary_bind (finitary_run hcall hfail s) fun _ => finitary_runAll hcall hfail ss

end

theorem finitary_runTemplate (hcall : ∀ c, Finitary fun find => call find c)
    (hfail : ∀ find name, find name = .unreadable → call find (.template name) = failure) (wasMuted : Bool) :
    ∀ (fuel : Nat) (body : List Stmt), Finitary fun find => runTemplate find (call find) wasMuted fuel body
  | 0, _ => finitary_const _
  | fuel + 1, body => by
    unfold runTemplate
    refine finitary_bind (finitary_runAll hcall hfail body) fun _ => finitary_after _ fun r => ?_
    cases r.parent with
    | some body => exact finitary_after _ fun _ => finitary_runTemplate hcall hfail wasMuted fuel body
    | none => exact finitary_const _

end

/-! ## Calls -/

/-- A template that cannot be read cannot be called. -/
theorem perform_unreadable (find : String → Lookup) (name : String) (h : find name = .unreadable) :
    ∀ fuel : Nat, perform find fuel (.template name) = failure
  | 0 => rfl
  | fuel + 1 => by
    unfold perform load
    rw [h]
    rfl

theorem finitary_perform : ∀ (fuel : Nat) (c : Call), Finitary fun find => perform find fuel c
  | 0, _ => finitary_const _
  | fuel + 1, .template name => by
    unfold perform
    refine finitary_bind (finitary_load name) fun body => finitary_after _ fun outer => finitary_after _ fun _ =>
      finitary_after _ fun _ => finitary_bind ?_ fun _ => finitary_const _
    exact finitary_runTemplate (finitary_perform fuel) (fun find n hn => perform_unreadable find n hn fuel) _ _ _
  | fuel + 1, .block place => by
    unfold perform
    refine finitary_after _ fun outer => ?_
    cases (outer.blocks.lookup place.name).bind (·[place.level]?) with
    | none => exact finitary_const _
    | some body =>
      refine finitary_bind (finitary_inFrame (finitary_after _ fun _ => ?_)) fun _ => finitary_const _
      exact finitary_runAll (finitary_perform fuel) (fun find n hn => perform_unreadable find n hn fuel) _

end Rendering

/-! ## Renderings -/

section

variable {find find' : String → Lookup} {name : String} {context : Frame} {x : String × List (String × String)}

/-- Rendering is monotone in what can be read. -/
theorem render_of_extends (h : Extends find find') (hx : render find name context = some x) :
    render find' name context = some x := by
  unfold render at hx ⊢
  obtain ⟨⟨_, r⟩, hr, hx⟩ := Option.bind_eq_some_iff.1 hx
  exact Option.bind_eq_some_iff.2 ⟨_, (Rendering.finitary_perform _ _).mono h hr, hx⟩

/-- What is rendered at all is rendered with some names alone. -/
theorem exists_render_only (hx : render find name context = some x) :
    ∃ names, render (only names find) name context = some x := by
  unfold render at hx
  obtain ⟨⟨_, r⟩, hr, hx⟩ := Option.bind_eq_some_iff.1 hx
  obtain ⟨names, hr⟩ := (Rendering.finitary_perform _ _).names hr
  refine ⟨names, ?_⟩
  unfold render
  exact Option.bind_eq_some_iff.2 ⟨_, hr, hx⟩

/-- A template that is rendered with some names alone has one of these names, and can be read. -/
theorem source_of_render_only {names : List String} (hx : render (only names find) name context = some x) :
    name ∈ names ∧ ∃ text, find name = .source text := by
  have hload : ∃ text, only names find name = .source text := by
    unfold render at hx
    obtain ⟨y, hy, -⟩ := Option.bind_eq_some_iff.1 hx
    rcases hfind : only names find name with text | _ | _
    · exact ⟨text, rfl⟩
    · unfold Rendering.perform Rendering.load at hy
      rw [hfind] at hy
      cases hy
    · rw [Rendering.perform_unreadable _ _ hfind] at hy
      cases hy
  obtain ⟨text, htext⟩ := hload
  unfold only at htext
  split at htext
  · rename_i hname; exact ⟨hname, text, htext⟩
  · cases htext

end

end ApiScaffold.Template
