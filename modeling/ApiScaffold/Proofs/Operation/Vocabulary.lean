/-
Operations read twice, from two roots in which references name the same nodes and in the words of two languages that
are alike up to a change of words. What is read differs in that change only (`reworded`), and the order of parameters
and responses does not look at words.
-/
import ApiScaffold.Operation.Build
import ApiScaffold.Proofs.Schema.Vocabulary

namespace ApiScaffold

/-! ## Other words -/

/-- A parameter with another word for its type. -/
def Parameter.reworded (f : String → String) (p : Parameter) : Parameter := { p with type := p.type.map f }

/-- A content with another word for its type. -/
def Content.reworded (f : String → String) (c : Content) : Content := { c with type := c.type.map f }

/-- A body with other words for the types of its contents. -/
def RequestBody.reworded (f : String → String) (b : RequestBody) : RequestBody :=
  { b with contents := b.contents.map (·.reworded f) }

/-- A response with other words for the types of its contents. -/
def Response.reworded (f : String → String) (r : Response) : Response :=
  { r with contents := r.contents.map (·.reworded f) }

namespace Operation

/-- An operation with other words for types. -/
def reworded (f : String → String) (op : Operation) : Operation :=
  { op with
    parameters := op.parameters.map (·.reworded f)
    requestBody := op.requestBody.map (·.reworded f)
    responses := op.responses.map (·.reworded f) }

theorem reworded_id : reworded id = id := by
  funext op
  unfold reworded Parameter.reworded RequestBody.reworded Response.reworded Content.reworded
  simp

/-! ## Merging -/

section

variable {root root' : Json} (same : root.SameTargets root')

include same

theorem parameterEntries_congr (loc : Location) :
    ∀ (index : Nat) (written : List Json), parameterEntries root loc index written =
      parameterEntries root' loc index written
  | _, [] => rfl
  | index, w :: written => by
    unfold parameterEntries
    rw [Reference.deref_congr same, parameterEntries_congr loc (index + 1) written]

theorem merge_congr : merge root = merge root' := by
  have hdeclared : declaredParameters root = declaredParameters root' := by
    funext owner loc
    unfold declaredParameters
    simp only [parameterEntries_congr same]
  funext pathItem operation loc
  unfold merge
  rw [hdeclared]

end

/-! ## Building -/

section

variable {f : String → String} {t u : TypeTable} (alike : t.Alike f u) {root root' : Json}
  (same : root.SameTargets root')

include alike same

theorem readParameter_agree (entry : Json) (loc : Location) :
    AgreeOn (·.reworded f) (readParameter root t entry loc) (readParameter root' u entry loc) := by
  unfold readParameter
  rcases entry.getStr? "name" with _ | name
  · rfl
  refine AgreeOn.bind_same fun name => ?_
  rcases entry.getStr? "in" with _ | place
  · rfl
  refine AgreeOn.bind_same fun place => ?_
  dsimp only
  rcases ParameterLocation.ofKey? place with _ | location
  · rfl
  refine AgreeOn.bind_same fun location => ?_
  refine (Schema.schemaToken_agree alike same entry loc).bind fun type type' htype => .ok ?_
  unfold Parameter.reworded
  rw [htype]

theorem readParameters_agree (loc : Location) :
    ∀ (index : Nat) (written : List Json), AgreeOn (List.map (·.reworded f))
      (readParameters root t loc index written) (readParameters root' u loc index written)
  | _, [] => rfl
  | index, written :: rest => by
    unfold readParameters
    rw [Reference.deref_congr same]
    refine AgreeOn.bind_same fun entry => (readParameter_agree alike same ..).bind fun p p' hp =>
      (readParameters_agree loc (index + 1) rest).bind fun ps ps' hps => .ok ?_
    rw [List.map_cons, List.map_cons, hp, hps]

theorem readContent_agree (loc : Location) (format : String) (entry : Json) :
    AgreeOn (·.reworded f) (readContent root t loc format entry) (readContent root' u loc format entry) := by
  refine (Schema.schemaToken_agree alike same ..).bind fun type type' htype => .ok ?_
  unfold Content.reworded
  rw [htype]

theorem readContents_agree (node : Json) (loc : Location) :
    AgreeOn (List.map (·.reworded f)) (readContents root t node loc) (readContents root' u node loc) :=
  agreeOn_mapM (fun _ => readContent_agree alike same ..) _

theorem readBody_agree (written : Json) (loc : Location) :
    AgreeOn (·.reworded f) (readBody root t written loc) (readBody root' u written loc) := by
  unfold readBody
  rw [Reference.deref_congr same]
  refine AgreeOn.bind_same fun body => (readContents_agree alike same ..).bind fun contents contents' h => .ok ?_
  unfold RequestBody.reworded
  rw [h]

theorem readResponse_agree (loc : Location) (code : String) (written : Json) :
    AgreeOn (·.reworded f) (readResponse root t loc code written) (readResponse root' u loc code written) := by
  unfold readResponse
  rw [Reference.deref_congr same]
  refine AgreeOn.bind_same fun response => (readContents_agree alike same ..).bind fun contents contents' h => .ok ?_
  unfold Response.reworded
  rw [h]

theorem readResponses_agree (merged : Json) (loc : Location) :
    AgreeOn (List.map (·.reworded f)) (readResponses root t merged loc) (readResponses root' u merged loc) := by
  unfold readResponses
  split
  · rfl
  · exact agreeOn_mapM (fun _ => readResponse_agree alike same ..) _
  · rfl

omit alike same in
/-- Sorting by an order that does not look at words. -/
theorem map_mergeSort_of_le {α : Type} {le : α → α → Bool} {g : α → α} (h : ∀ a b, le (g a) (g b) = le a b)
    {xs ys : List α} (heq : xs.map g = ys.map g) : (xs.mergeSort le).map g = (ys.mergeSort le).map g := by
  rw [List.map_mergeSort fun a _ b _ => (h a b).symm, List.map_mergeSort fun a _ b _ => (h a b).symm, heq]

theorem build_agree (url : String) (method : HttpMethod) (merged : Json) (loc : Location) :
    AgreeOn (·.reworded f) (build root t url method merged loc) (build root' u url method merged loc) := by
  unfold build
  refine (readParameters_agree alike same ..).bind fun parameters parameters' hparameters => ?_
  have hsorted : (parameters.mergeSort parameterLe).map (·.reworded f) =
      (parameters'.mergeSort parameterLe).map (·.reworded f) :=
    map_mergeSort_of_le (g := Parameter.reworded f) (fun _ _ => rfl) hparameters
  have hbodies : ∀ written, AgreeOn (Option.map (·.reworded f)) ((readBody root t written loc).map some)
      ((readBody root' u written loc).map some) :=
    fun written => (readBody_agree alike same written loc).map fun _ _ h => congrArg some h
  dsimp only
  -- with a request body or without one
  rcases merged.get? "requestBody" with _ | written
  case' none => refine AgreeOn.bind (f := Option.map (·.reworded f)) (.refl _) fun body body' hbody => ?_
  case' some => refine (hbodies written).bind fun body body' hbody => ?_
  all_goals
    refine (readResponses_agree alike same merged loc).bind fun responses responses' hresponses => ?_
    have hordered : (responses.mergeSort responseLe).map (·.reworded f) =
        (responses'.mergeSort responseLe).map (·.reworded f) :=
      map_mergeSort_of_le (g := Response.reworded f) (fun _ _ => rfl) hresponses
    rw [Schema.operationDependencies_congr same]
    refine AgreeOn.bind_same fun dependencies => .ok ?_
    unfold reworded
    rw [hsorted, hbody, hordered]

end

end Operation

end ApiScaffold
