/-
How operations come by their names. Declared names are taken first, and the earliest one that is declared again is
refused with the place of its holder (`Repeats`). Then derived names are given in the order of the document: each is
kept if it is free and numbered if it is not (`GivesWay`). The search for a number ends, because the names that it
passes are taken and all different, so there are fewer of them than operations.
-/
import ApiScaffold.Proofs.Api.Names

namespace ApiScaffold.Api

/-! ## Declared names -/

/-- The earliest route that declares a name again, and the route that holds the name. Up to there declared names are
distinct, so there is but one holder. -/
structure Repeats (routes : List Route) (first second : Route) : Prop where
  earliest : ∃ before after, routes = before ++ second :: after ∧ (declaredNames before).Nodup ∧ first ∈ before
  declared : first.declared = true ∧ second.declared = true
  name : first.operation.functionName = second.operation.functionName

theorem mem_declaredNames {routes : List Route} {name : String} :
    name ∈ declaredNames routes ↔ ∃ r ∈ routes, r.declared = true ∧ r.operation.functionName = name := by
  simp [declaredNames, and_assoc]

theorem declaredNames_append (routes routes' : List Route) :
    declaredNames (routes ++ routes') = declaredNames routes ++ declaredNames routes' := by
  simp [declaredNames]

theorem Repeats.not_nodup {routes : List Route} {first second : Route} (h : Repeats routes first second) :
    ¬ (declaredNames routes).Nodup := by
  obtain ⟨before, after, rfl, -, hfirst⟩ := h.earliest
  rw [declaredNames_append, declaredNames_cons_of_declared after h.declared.2]
  intro hnodup
  have hheld : first.operation.functionName ∈ declaredNames before :=
    mem_declaredNames.2 ⟨first, hfirst, h.declared.1, rfl⟩
  exact (List.nodup_append.1 hnodup).2.2 _ hheld _ (List.mem_cons_self ..) h.name

/-- Where a list is split before a route that repeats a name, no longer part of it has distinct names. -/
theorem Repeats.earliest_le {before after before' after' : List Route} {first second second' : Route}
    (hfirst : first ∈ before) (declared : first.declared = true ∧ second.declared = true)
    (name : first.operation.functionName = second.operation.functionName) (distinct' : (declaredNames before').Nodup)
    (heq : before ++ second :: after = before' ++ second' :: after') : before'.length ≤ before.length := by
  by_contra hlonger
  have hprefix : before ++ [second] <+: before' := by
    have hsplit : before ++ [second] <+: before ++ second :: after := ⟨after, by simp⟩
    refine List.prefix_of_prefix_length_le hsplit ⟨second' :: after', heq.symm⟩ ?_
    rw [List.length_append, List.length_singleton]
    omega
  obtain ⟨rest, rfl⟩ := hprefix
  have distinct : (declaredNames before).Nodup := by
    rw [declaredNames_append, declaredNames_append, List.append_assoc] at distinct'
    exact (List.nodup_append.1 distinct').1
  exact Repeats.not_nodup ⟨⟨before, rest, by simp, distinct, hfirst⟩, declared, name⟩ distinct'

theorem Repeats.unique {routes : List Route} {first second first' second' : Route} (h : Repeats routes first second)
    (h' : Repeats routes first' second') : first = first' ∧ second = second' := by
  obtain ⟨before, after, rfl, distinct, hfirst⟩ := h.earliest
  obtain ⟨before', after', heq, distinct', hfirst'⟩ := h'.earliest
  have hlength : before.length = before'.length := Nat.le_antisymm
    (Repeats.earliest_le hfirst' h'.declared h'.name distinct heq.symm)
    (Repeats.earliest_le hfirst h.declared h.name distinct' heq)
  obtain ⟨rfl, htail⟩ := List.append_inj heq hlength
  obtain ⟨rfl, -⟩ := List.cons.inj htail
  refine ⟨?_, rfl⟩
  exact List.inj_on_of_nodup_map distinct (List.mem_filter.2 ⟨hfirst, h.declared.1⟩)
    (List.mem_filter.2 ⟨hfirst', h'.declared.1⟩) (h.name.trans h'.name.symm)

/-- Taking declared names fails at the first that is taken already, before or in the same list. -/
theorem takeDeclared_error {taken : Holders} {routes : List Route} {err : ResolveError}
    (h : takeDeclared taken routes = .error err) :
    ∃ before second after place, routes = before ++ second :: after ∧ second.declared = true ∧
      (declaredNames before).Nodup ∧ (∀ name ∈ declaredNames before, taken.lookup name = none) ∧
      err = .duplicateOperation second.operation.functionName place second.location ∧
      (taken.lookup second.operation.functionName = some place ∨ ∃ first ∈ before, first.declared = true ∧
        first.operation.functionName = second.operation.functionName ∧ first.location = place) := by
  induction routes generalizing taken with
  | nil => cases h
  | cons r rest ih =>
    unfold takeDeclared at h
    split at h
    · rename_i declared
      split at h
      · rename_i place held
        cases h
        exact ⟨[], r, rest, place, rfl, declared, .nil, by simp [declaredNames], rfl, .inl held⟩
      · rename_i free
        obtain ⟨before, second, after, place, rfl, hdeclared, hnodup, hfree, herr, hholder⟩ := ih h
        have hnames := declaredNames_cons_of_declared before declared
        -- what is free beside the new holder is free, and has another name
        have hother : ∀ name ∈ declaredNames before, name ≠ r.operation.functionName ∧ taken.lookup name = none := by
          intro name hname
          have hlookup := hfree name hname
          rw [List.lookup_cons] at hlookup
          split at hlookup
          · cases hlookup
          · rename_i hne
            exact ⟨by simpa using hne, hlookup⟩
        refine ⟨r :: before, second, after, place, rfl, hdeclared, ?_, ?_, herr, ?_⟩
        · rw [hnames]
          exact List.nodup_cons.2 ⟨fun hmem => (hother _ hmem).1 rfl, hnodup⟩
        · rw [hnames]
          exact List.forall_mem_cons.2 ⟨free, fun name hname => (hother name hname).2⟩
        · rcases hholder with hheld | ⟨first, hfirst, hholder⟩
          · rw [List.lookup_cons] at hheld
            split at hheld
            · rename_i hsame
              cases hheld
              exact .inr ⟨r, List.mem_cons_self .., declared, (by simpa using hsame : _ = _).symm, rfl⟩
            · exact .inl hheld
          · exact .inr ⟨first, List.mem_cons_of_mem _ hfirst, hholder⟩
    · rename_i derived
      obtain ⟨before, second, after, place, rfl, hdeclared, hnodup, hfree, herr, hholder⟩ := ih h
      have hnames := declaredNames_cons_of_derived before derived
      refine ⟨r :: before, second, after, place, rfl, hdeclared, hnames ▸ hnodup, hnames ▸ hfree, herr, ?_⟩
      rcases hholder with hheld | ⟨first, hfirst, hholder⟩
      · exact .inl hheld
      · exact .inr ⟨first, List.mem_cons_of_mem _ hfirst, hholder⟩

theorem repeats_of_error {routes : List Route} {err : ResolveError} (h : assignNames routes = .error err) :
    ∃ first second, Repeats routes first second ∧
      err = .duplicateOperation second.operation.functionName first.location second.location := by
  have htaken : takeDeclared [] routes = .error err := by
    unfold assignNames at h
    rcases htaken : takeDeclared [] routes with e | holders <;> rw [htaken] at h <;> cases h
    rfl
  obtain ⟨before, second, after, place, hsplit, hdeclared, hnodup, -, herr, hholder⟩ := takeDeclared_error htaken
  rcases hholder with hheld | ⟨first, hfirst, hholds, hname, rfl⟩
  · cases hheld
  · exact ⟨first, second, ⟨⟨before, after, hsplit, hnodup, hfirst⟩, ⟨hholds, hdeclared⟩, hname⟩, herr⟩

/-! ## Derived names -/

/-- What becomes of a derived name while some names are taken: it is kept if it is free, and else gets the least number
from 2 on with which it is free, at most `bound`. -/
inductive GivesWay (taken : List String) (bound : Nat) (name : String) : String → Prop
  | kept (free : name ∉ taken) : GivesWay taken bound name name
  | numbered {n : Nat} (clash : name ∈ taken) (two_le : 2 ≤ n) (le : n ≤ bound) (free : name ++ toString n ∉ taken)
      (least : ∀ m, 2 ≤ m → m < n → name ++ toString m ∈ taken) : GivesWay taken bound name (name ++ toString n)

theorem GivesWay.congr {taken taken' : List String} {bound bound' : Nat} {name given : String}
    (h : GivesWay taken bound name given) (same : ∀ x, x ∈ taken ↔ x ∈ taken') (le : bound ≤ bound') :
    GivesWay taken' bound' name given := by
  cases h with
  | kept free => exact .kept fun hmem => free ((same _).2 hmem)
  | numbered clash two_le hle free least =>
    exact .numbered ((same _).1 clash) two_le (hle.trans le) (fun hmem => free ((same _).2 hmem))
      fun m hm hlt => (same _).1 (least m hm hlt)

/-- A name that is given gives way. The names that were passed are taken and differ, the first among them, so there
are no more of them than taken names. -/
theorem givesWay_given (taken : List String) (name : String) : GivesWay taken (taken.length + 1) name
    (if taken.contains name then freeName taken name taken.length 2 else name) := by
  split
  · rename_i hclash
    have clash : name ∈ taken := List.contains_iff_mem.1 hclash
    obtain ⟨k, -, heq, htaken, -⟩ := freeName_cases taken name taken.length 2
    have hfree := freeName_not_mem taken name 2
    rw [heq] at hfree ⊢
    have hnodup : (name :: (List.range k).map fun j => name ++ toString (2 + j)).Nodup := by
      refine List.nodup_cons.2 ⟨fun hmem => ?_, nodup_numbered name 2 k⟩
      obtain ⟨j, -, hj⟩ := List.mem_map.1 hmem
      have hempty : toString (2 + j) = "" := (String.append_right_inj name).1 (hj.trans String.append_empty.symm)
      rw [Nat.toString_eq_ofList_toDigits, String.ofList_eq_empty_iff] at hempty
      exact Nat.toDigits_ne_nil hempty
    have hsub : (name :: (List.range k).map fun j => name ++ toString (2 + j)) ⊆ taken := by
      refine List.cons_subset.2 ⟨clash, fun x hx => ?_⟩
      obtain ⟨j, hj, rfl⟩ := List.mem_map.1 hx
      exact htaken j (List.mem_range.1 hj)
    have hlength := (List.subperm_of_subset hnodup hsub).length_le
    rw [List.length_cons, List.length_map, List.length_range] at hlength
    refine .numbered clash (Nat.le_add_right 2 k) (by omega) hfree fun m hm hlt => ?_
    obtain ⟨j, rfl⟩ := Nat.exists_eq_add_of_le hm
    exact htaken j (by omega)
  · rename_i hfree
    exact .kept fun hmem => hfree (List.contains_iff_mem.2 hmem)

/-- The names that are derived, as far as routes have come. -/
def derivedNames (routes : List Route) : List String :=
  (routes.filter fun r => !r.declared).map (·.operation.functionName)

theorem derivedNames_cons_of_declared {r : Route} (rest : List Route) (h : r.declared = true) :
    derivedNames (r :: rest) = derivedNames rest := by
  simp [derivedNames, h]

theorem derivedNames_cons_of_derived {r : Route} (rest : List Route) (h : r.declared = false) :
    derivedNames (r :: rest) = r.operation.functionName :: derivedNames rest := by
  simp [derivedNames, h]

/-- The same route under another name. -/
def Route.withName (r : Route) (name : String) : Route :=
  { r with operation := { r.operation with functionName := name } }

theorem renameDerived_cons_of_declared {r : Route} (taken : List String) (rest : List Route) (h : r.declared = true) :
    renameDerived taken (r :: rest) = r :: renameDerived taken rest := by
  rw [renameDerived, if_pos h]

/-- A derived name gives way, and is taken from then on. -/
theorem renameDerived_cons_of_derived {r : Route} (taken : List String) (rest : List Route) (h : r.declared = false) :
    ∃ name, GivesWay taken (taken.length + 1) r.operation.functionName name ∧
      renameDerived taken (r :: rest) = r.withName name :: renameDerived (name :: taken) rest := by
  refine ⟨_, givesWay_given taken r.operation.functionName, ?_⟩
  rw [renameDerived, if_neg (by simp [h])]
  rfl

theorem length_renameDerived : ∀ (taken : List String) (routes : List Route),
    (renameDerived taken routes).length = routes.length
  | _, [] => rfl
  | taken, r :: rest => by
    rcases h : r.declared
    · obtain ⟨name, -, heq⟩ := renameDerived_cons_of_derived taken rest h
      rw [heq, List.length_cons, List.length_cons, length_renameDerived _ rest]
    · rw [renameDerived_cons_of_declared taken rest h, List.length_cons, List.length_cons, length_renameDerived _ rest]

theorem renameDerived_declared {taken : List String} {routes : List Route} {i : Nat} {r : Route}
    (h : routes[i]? = some r) (declared : r.declared = true) : (renameDerived taken routes)[i]? = some r := by
  induction routes generalizing taken i with
  | nil => simp at h
  | cons s rest ih =>
    cases i with
    | zero =>
      obtain rfl : s = r := by simpa using h
      rw [renameDerived_cons_of_declared taken rest declared, List.getElem?_cons_zero]
    | succ i =>
      rw [List.getElem?_cons_succ] at h
      rcases hs : s.declared
      · obtain ⟨name, -, heq⟩ := renameDerived_cons_of_derived taken rest hs
        rw [heq, List.getElem?_cons_succ]
        exact ih h
      · rw [renameDerived_cons_of_declared taken rest hs, List.getElem?_cons_succ]
        exact ih h

/-- A derived name gives way to the names that were taken at first and to those given before it. -/
theorem renameDerived_derived (taken : List String) {routes : List Route} {i : Nat} {r : Route}
    (h : routes[i]? = some r) (derived : r.declared = false) :
    ∃ name, (renameDerived taken routes)[i]? = some (r.withName name) ∧
      GivesWay (taken ++ derivedNames ((renameDerived taken routes).take i))
        (taken.length + (derivedNames (routes.take i)).length + 1) r.operation.functionName name := by
  induction routes generalizing taken i with
  | nil => simp at h
  | cons s rest ih =>
    cases i with
    | zero =>
      obtain rfl : s = r := by simpa using h
      obtain ⟨name, hgives, heq⟩ := renameDerived_cons_of_derived taken rest derived
      exact ⟨name, by rw [heq, List.getElem?_cons_zero], hgives.congr (by simp [derivedNames]) (by omega)⟩
    | succ i =>
      rw [List.getElem?_cons_succ] at h
      rcases hs : s.declared
      · obtain ⟨given, -, heq⟩ := renameDerived_cons_of_derived taken rest hs
        obtain ⟨name, hget, hgives⟩ := ih (given :: taken) h
        rw [heq, List.getElem?_cons_succ, List.take_succ_cons, List.take_succ_cons,
          derivedNames_cons_of_derived (r := s.withName given) _ hs, derivedNames_cons_of_derived _ hs]
        refine ⟨name, hget, hgives.congr (fun x => ?_) ?_⟩
        · exact List.perm_middle.symm.mem_iff
        · rw [List.length_cons, List.length_cons]
          omega
      · rw [renameDerived_cons_of_declared taken rest hs, List.getElem?_cons_succ, List.take_succ_cons,
          List.take_succ_cons, derivedNames_cons_of_declared _ hs, derivedNames_cons_of_declared _ hs]
        exact ih taken h

/-! ## All names -/

/-- Routes with their final names. -/
structure NamesGiven (routes named : List Route) : Prop where
  length : named.length = routes.length
  distinct : (named.map (·.operation.functionName)).Nodup
  declared : ∀ (i : Nat) (r : Route), routes[i]? = some r → r.declared = true → named[i]? = some r
  /-- A derived name gives way to all declared names and to the derived ones before it. -/
  derived : ∀ (i : Nat) (r : Route), routes[i]? = some r → r.declared = false →
    ∃ name, named[i]? = some (r.withName name) ∧
      GivesWay (declaredNames routes ++ derivedNames (named.take i)) routes.length r.operation.functionName name

theorem length_declaredNames_add (routes : List Route) :
    (declaredNames routes).length + (derivedNames routes).length = routes.length := by
  unfold declaredNames derivedNames
  rw [List.length_map, List.length_map]
  exact (List.length_eq_length_filter_add _).symm

/-- There is one derived name more than before a derived one. -/
theorem length_derivedNames_take {routes : List Route} {i : Nat} {r : Route} (h : routes[i]? = some r)
    (derived : r.declared = false) : (derivedNames (routes.take i)).length < (derivedNames routes).length := by
  induction routes generalizing i with
  | nil => simp at h
  | cons s rest ih =>
    cases i with
    | zero =>
      obtain rfl : s = r := by simpa using h
      rw [derivedNames_cons_of_derived _ derived]
      simp [derivedNames]
    | succ i =>
      rw [List.getElem?_cons_succ] at h
      rw [List.take_succ_cons]
      rcases hs : s.declared
      · rw [derivedNames_cons_of_derived _ hs, derivedNames_cons_of_derived _ hs]
        exact Nat.succ_lt_succ (ih h)
      · rw [derivedNames_cons_of_declared _ hs, derivedNames_cons_of_declared _ hs]
        exact ih h

theorem namesGiven_of_ok {routes named : List Route} (h : assignNames routes = .ok named) :
    NamesGiven routes named := by
  have distinct := names_assignNames h
  obtain ⟨holders, hholders, h⟩ := except_bind_ok h
  cases h
  have hnames := (takeDeclared_ok hholders List.nodup_nil).1
  rw [List.map_nil, List.append_nil] at hnames
  rw [hnames] at distinct ⊢
  refine ⟨length_renameDerived .., distinct, fun i r => renameDerived_declared, fun i r hr derived => ?_⟩
  obtain ⟨name, hget, hgives⟩ := renameDerived_derived (declaredNames routes).reverse hr derived
  refine ⟨name, hget, hgives.congr (fun x => by simp) ?_⟩
  have htotal := length_declaredNames_add routes
  have hbefore := length_derivedNames_take hr derived
  rw [List.length_reverse]
  omega

/-- Giving names fails exactly if a name is declared twice, and tells the earliest time that this happens. Otherwise
all names are distinct, declared names are kept, and derived names give way. -/
theorem names_given (routes : List Route) :
    ((∃ err, assignNames routes = .error err) ↔ ¬ (declaredNames routes).Nodup) ∧
    (∀ err, assignNames routes = .error err ↔ ∃ first second, Repeats routes first second ∧
      err = .duplicateOperation second.operation.functionName first.location second.location) ∧
    ∀ named, assignNames routes = .ok named → NamesGiven routes named := by
  have hfails : ¬ (declaredNames routes).Nodup → ∃ err, assignNames routes = .error err := by
    intro hclash
    rcases h : assignNames routes with err | named
    · exact ⟨err, rfl⟩
    · obtain ⟨holders, hholders, -⟩ := except_bind_ok h
      obtain ⟨hnames, hnodup⟩ := takeDeclared_ok hholders List.nodup_nil
      rw [hnames, List.map_nil, List.append_nil, List.nodup_reverse] at hnodup
      exact absurd hnodup hclash
  refine ⟨⟨?_, hfails⟩, fun err => ⟨repeats_of_error, ?_⟩, fun named => namesGiven_of_ok⟩
  · rintro ⟨err, h⟩
    obtain ⟨first, second, hrepeats, -⟩ := repeats_of_error h
    exact hrepeats.not_nodup
  · rintro ⟨first, second, hrepeats, rfl⟩
    obtain ⟨err, h⟩ := hfails hrepeats.not_nodup
    obtain ⟨first', second', hrepeats', rfl⟩ := repeats_of_error h
    obtain ⟨rfl, rfl⟩ := hrepeats.unique hrepeats'
    exact h

/-- A list with names of both kinds: the second derived name is taken, and so is its first number. -/
def herd : Document where
  root := .obj [
    ("openapi", .str "3.0.0"),
    ("paths", .obj [
      ("/cows", .obj [("get", .obj [])]),
      ("/{farm}/cows", .obj [("get", .obj [])]),
      ("/all", .obj [("get", .obj [("operationId", .str "listCows2")])])])]

theorem names_given_herd : ∃ routes named, readRoutes herd.root ⟨[]⟩ herd.paths = .ok routes ∧
    assignNames routes = .ok named ∧ NamesGiven routes named ∧
      named.map (·.operation.functionName) = ["listCows", "listCows3", "listCows2"] := by
  have hnames : ((readRoutes herd.root ⟨[]⟩ herd.paths).bind assignNames).toOption.map
      (fun named => named.map (·.operation.functionName)) = some ["listCows", "listCows3", "listCows2"] := by
    decide +kernel
  obtain ⟨named, hnamed, hnames⟩ := except_toOption_map hnames
  obtain ⟨routes, hroutes, hnamed⟩ := except_bind_ok hnamed
  exact ⟨routes, named, hroutes, hnamed, (names_given routes).2.2 named hnamed, hnames⟩

end ApiScaffold.Api
