/-
Where the files of a run come to stand. A file is put below the output directory by its directory and its name, and
names of tags and schemas come from the document as they are, so one that is absolute or begins with enough `..` leads
out of the output directory. Without such names, and with the files of a backend alone, nothing but the ledger is
written elsewhere (`outputs_confined`). The names of the tags of a server never lead out, for they are written anew from
their words.
-/
import ApiScaffold.Proofs.FileTree.Join
import ApiScaffold.Proofs.Generation.Outputs
import ApiScaffold.Proofs.Text.Words

namespace ApiScaffold

/-! ## Files that stay -/

/-- Whether a path only leads down. -/
def Path.descends (p : Path) : Bool := !p.isAbsolute && p.steps.all (· != "..")

/-- Whether a path that is taken from some levels below a directory never leads above that. -/
def Path.stays (p : Path) (levels : Nat) : Bool := !p.isAbsolute && staysBelow levels p.steps

/-- A file, given by directory and name, that stays below whatever directory it is put in: its name may lead up no
further than its directory has led down. -/
structure Stays (f : Path × String) : Prop where
  directory : f.1.descends = true
  name : (Path.mk f.2).stays f.1.steps.length = true

instance (f : Path × String) : Decidable (Stays f) :=
  decidable_of_iff (f.1.descends = true ∧ (Path.mk f.2).stays f.1.steps.length = true)
    ⟨fun h => ⟨h.1, h.2⟩, fun h => ⟨h.1, h.2⟩⟩

/-- A directory that only leads down lies as many levels below as it has names. -/
theorem Path.below_join {dir : Path} (output : Path) (h : dir.descends = true) :
    output.place.Below dir.steps.length (output.join dir.text).place := by
  obtain ⟨hrelative, hdown⟩ := Bool.and_eq_true_iff.1 h
  rw [output.place_join (by simpa using hrelative)]
  have hbelow := (Place.Below.refl output.place).foldl (List.all_eq_true.1 hdown)
  rw [Nat.zero_add] at hbelow
  exact hbelow

theorem Stays.isWithin {f : Path × String} (h : Stays f) (output : Path) :
    (Generation.outputPath output f.1 f.2).place.isWithin output.place = true := by
  obtain ⟨hrelative, hstays⟩ := Bool.and_eq_true_iff.1 h.name
  unfold Generation.outputPath
  rw [Path.place_join _ (by simpa using hrelative)]
  exact (Path.below_join output h.directory).isWithin_foldl hstays

/-- A name without slashes stays where it is. -/
theorem Path.stays_of_plain {name : String} {levels : Nat} (hlevels : 0 < levels) (h : '/' ∉ name.toList) :
    (Path.mk name).stays levels = true := by
  have hsegments : (Path.mk name).segments = [name] := by
    unfold segments Text.split
    rw [Text.splitChars_of_not_mem h]
    simp
  have hlength : (Path.mk name).steps.length ≤ levels := by
    refine Nat.le_trans ?_ hlevels
    unfold steps
    rw [hsegments]
    exact List.length_filter_le ..
  have hrelative : (Path.mk name).isAbsolute = false := by
    unfold isAbsolute
    rw [Bool.eq_false_iff]
    intro hslash
    exact h (List.mem_of_mem_head? (eq_of_beq hslash))
  unfold stays
  rw [hrelative, staysBelow_of_length_le hlength]
  rfl

/-! ## Files of a backend -/

/-- Names of tags and schemas whose files stay below the output directory: those of a client are put one level below
it, and those of a server two levels. -/
def Implementation.NamesStay : Implementation → Api → Prop
  | .flask, api => ∀ name ∈ api.schemas.keys, (Path.mk (Text.lowerFirst name ++ ".py")).stays 2 = true
  | .typeScript, api => (∀ tag ∈ api.paths.keys, (Path.mk (tag ++ ".service.ts")).stays 1 = true) ∧
      ∀ name ∈ api.schemas.keys, (Path.mk (name ++ ".ts")).stays 1 = true

/-- Files of one directory stay when their names do. -/
theorem stay_of_names {dir : Path} {levels : Nat} (hdir : dir.descends = true ∧ dir.steps.length = levels)
    {items : List String} {name : String → String} (hnames : ∀ item ∈ items, (Path.mk (name item)).stays levels = true) :
    ∀ f ∈ items.map (fun item => (dir, name item)), Stays f := by
  intro f hf
  obtain ⟨item, hitem, rfl⟩ := List.mem_map.1 hf
  obtain ⟨hdown, hlength⟩ := hdir
  exact ⟨hdown, by rw [hlength]; exact hnames item hitem⟩

theorem serverFiles_stay {tags schemas : List String}
    (h : ∀ name ∈ schemas, (Path.mk (Text.lowerFirst name ++ ".py")).stays 2 = true) :
    ∀ f ∈ serverFiles ⟨Backend.Flask.Options.standard.serverName⟩ tags schemas, Stays f := by
  have htags : ∀ tag ∈ tags, (Path.mk (Text.snakeCase tag ++ "_controller.py")).stays 2 = true := by
    intro tag _
    refine Path.stays_of_plain (by decide) ?_
    rw [String.toList_append, List.mem_append, not_or]
    exact ⟨Text.slash_not_mem_snakeCase tag, by decide⟩
  refine List.forall_mem_append.2 ⟨List.forall_mem_append.2 ⟨?fixed, ?tags⟩, ?schemas⟩
  case fixed => decide +kernel
  case tags => exact stay_of_names (by decide +kernel) htags
  case schemas => exact stay_of_names (by decide +kernel) h

theorem clientFiles_stay {tags schemas : List String} (htags : ∀ tag ∈ tags, (Path.mk (tag ++ ".service.ts")).stays 1 = true)
    (hschemas : ∀ name ∈ schemas, (Path.mk (name ++ ".ts")).stays 1 = true) :
    ∀ f ∈ clientFiles tags schemas, Stays f := by
  refine List.forall_mem_append.2 ⟨List.forall_mem_append.2 ⟨?fixed, ?tags⟩, ?schemas⟩
  case fixed => decide +kernel
  case tags => exact stay_of_names (by decide +kernel) htags
  case schemas => exact stay_of_names (by decide +kernel) hschemas

theorem Implementation.ownFiles_stay {i : Implementation} {options : Members} {api : Api}
    (hserver : serverName options = Backend.Flask.Options.standard.serverName) (hnames : i.NamesStay api) :
    ∀ f ∈ i.ownFiles options api.paths.keys api.schemas.keys, Stays f := by
  cases i with
  | flask =>
    unfold ownFiles
    rw [hserver]
    exact serverFiles_stay hnames
  | typeScript => exact clientFiles_stay hnames.1 hnames.2

section

variable {i : Implementation} {doc : Document} {config : Config} {prompt : Prompt}

/-- Without files of the settings every output lies in the output directory. -/
theorem outputs_within (hiterators : config.iterators = [])
    (hserver : serverName config.options = Backend.Flask.Options.standard.serverName)
    (hnames : ∀ api, Api.ofDocument doc i.backend.words = .ok api → i.NamesStay api) :
    ∀ p ∈ (i.job doc config prompt).outputs, p.place.isWithin config.output.place = true := by
  rcases hplan : Generation.plan doc i.backend config with err | plan
  · have hnone : (i.job doc config prompt).outputs = [] := by
      unfold Job.outputs Job.tasks Generation.tasks
      simp only [Implementation.job, hplan]
      rfl
    rw [hnone]
    exact fun p hp => absurd hp List.not_mem_nil
  · obtain ⟨api, -, hapi, -⟩ := plan_ok hplan
    rw [Implementation.outputs_job hplan hapi, Implementation.files, hiterators]
    intro p hp
    obtain ⟨f, hf, rfl⟩ := List.mem_map.1 hp
    rw [List.flatMap_nil, List.append_nil] at hf
    exact (Implementation.ownFiles_stay hserver (hnames api hapi) f hf).isWithin config.output

/-- With the files of a backend alone, and with names that do not lead out of the output directory, a run writes
nothing outside of it but the ledger. -/
theorem outputs_confined {t : FileTree} (hiterators : config.iterators = [])
    (hserver : serverName config.options = Backend.Flask.Options.standard.serverName)
    (hnames : ∀ api, Api.ofDocument doc i.backend.words = .ok api → i.NamesStay api) :
    (∀ p ∈ (i.job doc config prompt).outputs, p.place.isWithin config.output.place = true) ∧
    ∀ place, place ≠ config.ledgerPath.place →
      ((i.job doc config prompt).run t).tree.fileAt place ≠ t.fileAt place → place.isWithin config.output.place = true := by
  have hwithin : ∀ p ∈ (i.job doc config prompt).outputs, p.place.isWithin config.output.place = true :=
    outputs_within hiterators hserver hnames
  refine ⟨hwithin, fun place hledger hchanged => ?_⟩
  rw [Job.run_fileAt_of_ne (j := i.job doc config prompt) hledger] at hchanged
  obtain ⟨m, hm, rfl, -⟩ := Job.final_changed hchanged
  refine hwithin m.path ?_
  have hfirst : ((i.job doc config prompt).final t).emitter.emissions.map (·.path) <+: (i.job doc config prompt).outputs :=
    (first_emitted rfl rfl).1
  exact hfirst.subset (List.mem_map_of_mem hm)

end

/-! ## Names that lead out -/

/-- A client of a document with one tag and one schema. -/
def clientOf (tag schema : String) : Job :=
  Implementation.typeScript.job (described tag schema)
    { clientConfig "t" with protectedPatterns := ["var", "conf", "models", "api.ts", "Pet"] } .alwaysDecline

/-- A schema may lead out of the directory of schemas. -/
theorem outputs_confined_sibling :
    (⟨"out/model/../Cat.ts"⟩ : Path) ∈ (clientOf "Pet" "../Cat").outputs ∧
    (∀ p ∈ (clientOf "Pet" "../Cat").outputs, p.place.isWithin ⟨.above 0, ["out"]⟩ = true) ∧
    ∀ place, place ≠ ⟨.above 0, ["ledger"]⟩ →
      ((clientOf "Pet" "../Cat").run clientProject).tree.fileAt place ≠ clientProject.fileAt place →
        place.isWithin ⟨.above 0, ["out"]⟩ = true := by
  refine ⟨by decide +kernel, ?_⟩
  have hapi : (Api.ofDocument (described "Pet" "../Cat") Implementation.typeScript.backend.words).toOption.map
      (fun api => (api.paths.keys, api.schemas.keys)) = some (["Pet"], ["../Cat"]) := by decide +kernel
  have hnames : ∀ api, Api.ofDocument (described "Pet" "../Cat") Implementation.typeScript.backend.words = .ok api →
      Implementation.typeScript.NamesStay api := by
    intro api hok
    rw [hok] at hapi
    obtain ⟨htags, hschemas⟩ := Prod.mk.inj (Option.some.inj hapi)
    show (∀ tag ∈ api.paths.keys, _) ∧ ∀ name ∈ api.schemas.keys, _
    rw [htags, hschemas]
    decide +kernel
  have hplaces : (Path.mk "out").place = ⟨.above 0, ["out"]⟩ ∧ (Path.mk "ledger").place = ⟨.above 0, ["ledger"]⟩ := by
    decide +kernel
  rw [← hplaces.1, ← hplaces.2]
  exact outputs_confined rfl rfl hnames

/-- The tag of a client may also lead out of the output directory. -/
theorem tag_leads_out :
    ¬ ∀ (i : Implementation) (doc : Document) (config : Config) (prompt : Prompt) (t : FileTree), config.iterators = [] →
      serverName config.options = Backend.Flask.Options.standard.serverName → ∀ place, place ≠ config.ledgerPath.place →
        ((i.job doc config prompt).run t).tree.fileAt place ≠ t.fileAt place → place.isWithin config.output.place = true := by
  intro claim
  have hwithin := claim .typeScript (described "../../evil" "Pet") (clientOf "../../evil" "Pet").config .alwaysDecline
    clientProject rfl rfl ⟨.above 0, ["evil.service.ts"]⟩ (by decide +kernel)
  have hwritten : ((clientOf "../../evil" "Pet").run clientProject).tree.fileAt ⟨.above 0, ["evil.service.ts"]⟩ =
      some "x".toUTF8 := by
    decide +kernel
  have hnone : clientProject.fileAt ⟨.above 0, ["evil.service.ts"]⟩ = none := by decide +kernel
  have hinside := hwithin (by rw [hnone]; exact fun heq => by cases hwritten.symm.trans heq)
  exact absurd hinside (by decide +kernel)

end ApiScaffold
