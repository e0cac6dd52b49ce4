/-
When two texts become one in `camelCase`. A capital marks where a word begins, which a digit does not have. So texts of
ASCII characters become one exactly if they have the same humps (`camelCase_eq_iff`), that is their words in lower case
with those that begin with a digit joined to the one before.
-/
import ApiScaffold.Proofs.Text.Words

namespace ApiScaffold.Text

/-- A text of ASCII characters. -/
def Ascii (s : String) : Prop := ∀ c ∈ s.toList, c.toNat < 128

-- decided along the text, not by way of all characters there are
instance (s : String) : Decidable (Ascii s) := List.decidableBAll (fun c : Char => c.toNat < 128) s.toList

def startsWithDigit (w : List Char) : Bool := w.head?.any Char.isDigit

/-- Words with those that begin with a digit joined to the one before. -/
def joinDigits : List (List Char) → List (List Char)
  | [] => []
  | w :: ws =>
    match joinDigits ws with
    | [] => [w]
    | h :: hs => if startsWithDigit h then (w ++ h) :: hs else w :: h :: hs

/-- The humps of a text, in lower case. -/
def humps (s : String) : List (List Char) := joinDigits (lowerWords s)

/-- A word with its first character in upper case. -/
def raise : List Char → List Char
  | [] => []
  | c :: cs => c.toUpper :: cs

/-- Words written one after the other, each but the first raised. -/
def humpChars : List (List Char) → List Char
  | [] => []
  | w :: ws => w ++ ws.flatMap raise

/-- A nonempty word of small ASCII letters and digits. -/
def Plain (w : List Char) : Prop := w ≠ [] ∧ ∀ c ∈ w, c.isLower = true ∨ c.isDigit = true

/-! ## ASCII characters -/

/-- What holds of the ASCII characters one by one holds of them all. -/
theorem ascii_induction {P : Char → Prop} (h : ∀ n < 128, P (Char.ofNat n)) {c : Char} (hc : c.toNat < 128) : P c := by
  have hp := h c.toNat hc
  rwa [Char.ofNat_toNat] at hp

theorem lowerWord_ascii {w : List Char} (h : ∀ c ∈ w, c.toNat < 128) : lowerWord w = w.map Char.toLower := by
  fun_induction lowerWord w with
  | case1 => rfl
  | case2 => exact absurd (h 'Σ' (List.mem_singleton_self _)) (by decide)
  | case3 c cs _ ih =>
    rw [ih fun d hd => h d (List.mem_cons_of_mem _ hd)]
    unfold lowerChar
    rw [if_pos (h c (List.mem_cons_self ..))]
    rfl

theorem capitalizeWord_ascii {w : List Char} (h : ∀ c ∈ w, c.toNat < 128) : capitalizeWord w = raise (lowerWord w) := by
  rw [lowerWord_ascii h]
  cases w with
  | nil => rfl
  | cons c cs =>
    have hc := h c (List.mem_cons_self ..)
    have hupper : c.toLower.toUpper = c.toUpper := ascii_induction (P := fun c => c.toLower.toUpper = c.toUpper)
      (by decide) hc
    rw [capitalizeWord, upperChar, if_pos hc, lowerWord_ascii fun d hd => h d (List.mem_cons_of_mem _ hd)]
    simp [raise, hupper]

/-- The words of an ASCII text in lower case. -/
theorem plain_of_mem_lowerWords {s : String} (ascii : Ascii s) {w : List Char} (h : w ∈ lowerWords s) : Plain w := by
  refine ⟨(mem_lowerWords h).1, fun d hd => ?_⟩
  obtain ⟨v, hv, rfl⟩ := List.mem_map.1 h
  obtain ⟨-, hall⟩ := mem_words hv
  rw [lowerWord_ascii fun c hc => ascii c (hall c hc).1] at hd
  obtain ⟨c, hc, rfl⟩ := List.mem_map.1 hd
  have hplain : isAlphanumeric c = true → c.toLower.isLower = true ∨ c.toLower.isDigit = true :=
    ascii_induction (P := fun c => isAlphanumeric c = true → c.toLower.isLower = true ∨ c.toLower.isDigit = true)
      (by decide) (ascii c (hall c hc).1)
  exact hplain (hall c hc).2

/-- Camel case writes the words one after the other. -/
theorem toList_camelCase {s : String} (ascii : Ascii s) : (camelCase s).toList = humpChars (lowerWords s) := by
  have hall : ∀ w ∈ words s, ∀ c ∈ w, c.toNat < 128 := fun w hw c hc => ascii c ((mem_words hw).2 c hc).1
  unfold camelCase lowerWords
  rcases hwords : words s with _ | ⟨w, ws⟩
  · rfl
  · rw [hwords] at hall
    rw [String.toList_ofList, List.map_cons, humpChars, List.flatMap_map]
    congr 1
    exact List.flatMap_congr fun v hv => capitalizeWord_ascii (hall v (List.mem_cons_of_mem _ hv))

theorem ascii_of_isDigit {c : Char} (h : c.isDigit = true) : c.toNat < 128 := by
  unfold Char.isDigit at h
  simp only [Bool.and_eq_true, decide_eq_true_eq] at h
  exact Nat.lt_of_le_of_lt (UInt32.le_iff_toNat_le.1 h.2) (by decide)

theorem ascii_of_isLower {c : Char} (h : c.isLower = true) : c.toNat < 128 := by
  unfold Char.isLower at h
  simp only [Bool.and_eq_true, decide_eq_true_eq] at h
  exact Nat.lt_of_le_of_lt (UInt32.le_iff_toNat_le.1 h.2) (by decide)

theorem toUpper_of_isDigit {c : Char} (h : c.isDigit = true) : c.toUpper = c :=
  ascii_induction (P := fun c => c.isDigit = true → c.toUpper = c) (by decide) (ascii_of_isDigit h) h

theorem raise_of_startsWithDigit {w : List Char} (h : startsWithDigit w = true) : raise w = w := by
  cases w with
  | nil => rfl
  | cons c cs =>
    have hdigit : c.isDigit = true := by simpa [startsWithDigit] using h
    rw [raise, toUpper_of_isDigit hdigit]

/-! ## Joining -/

theorem raise_append {v w : List Char} (h : v ≠ []) : raise (v ++ w) = raise v ++ w := by
  cases v with
  | nil => exact absurd rfl h
  | cons c cs => rfl

/-- Joining what begins with a digit changes nothing that is written. -/
theorem flatMap_raise_joinDigits {ws : List (List Char)} (h : ∀ w ∈ ws, w ≠ []) :
    (joinDigits ws).flatMap raise = ws.flatMap raise := by
  fun_induction joinDigits ws with
  | case1 => rfl
  | case2 w ws hnil ih =>
    have hws := ih fun v hv => h v (List.mem_cons_of_mem _ hv)
    rw [hnil] at hws
    rw [List.flatMap_cons, List.flatMap_cons, ← hws]
  | case3 w ws first rest hjoin digit ih =>
    have hws := ih fun v hv => h v (List.mem_cons_of_mem _ hv)
    rw [hjoin, List.flatMap_cons, raise_of_startsWithDigit digit] at hws
    rw [List.flatMap_cons, List.flatMap_cons, raise_append (h w (List.mem_cons_self ..)), ← hws, List.append_assoc]
  | case4 w ws first rest hjoin letter ih =>
    have hws := ih fun v hv => h v (List.mem_cons_of_mem _ hv)
    rw [hjoin] at hws
    rw [List.flatMap_cons, hws, List.flatMap_cons]

theorem humpChars_joinDigits {ws : List (List Char)} (h : ∀ w ∈ ws, w ≠ []) :
    humpChars (joinDigits ws) = humpChars ws := by
  cases ws with
  | nil => rfl
  | cons w ws =>
    have hws := flatMap_raise_joinDigits fun v hv => h v (List.mem_cons_of_mem _ hv)
    rw [joinDigits]
    split
    · rename_i hnil
      rw [hnil] at hws
      rw [humpChars, humpChars, ← hws]
    · rename_i first rest hjoin
      rw [hjoin] at hws
      split
      · rename_i digit
        rw [List.flatMap_cons, raise_of_startsWithDigit digit] at hws
        rw [humpChars, humpChars, ← hws, List.append_assoc]
      · rw [humpChars, humpChars, ← hws]

/-- Humps are plain words, and none but the first begins with a digit. -/
structure Humped (hs : List (List Char)) : Prop where
  plain : ∀ w ∈ hs, Plain w
  letter : ∀ w ∈ hs.tail, startsWithDigit w = false

theorem humped_joinDigits {ws : List (List Char)} (h : ∀ w ∈ ws, Plain w) : Humped (joinDigits ws) := by
  fun_induction joinDigits ws with
  | case1 => exact ⟨h, by simp⟩
  | case2 w ws hnil ih => exact ⟨by simpa using h w (List.mem_cons_self ..), by simp⟩
  | case3 w ws first rest hjoin digit ih =>
    obtain ⟨hplain, hletter⟩ := ih fun v hv => h v (List.mem_cons_of_mem _ hv)
    rw [hjoin] at hplain hletter
    obtain ⟨hfirst, hrest⟩ := List.forall_mem_cons.1 hplain
    have hw := h w (List.mem_cons_self ..)
    refine ⟨List.forall_mem_cons.2 ⟨⟨by simp [hw.1], fun c hc => ?_⟩, hrest⟩, hletter⟩
    exact (List.mem_append.1 hc).elim (hw.2 c) (hfirst.2 c)
  | case4 w ws first rest hjoin letter ih =>
    obtain ⟨hplain, hletter⟩ := ih fun v hv => h v (List.mem_cons_of_mem _ hv)
    rw [hjoin] at hplain hletter
    refine ⟨List.forall_mem_cons.2 ⟨h w (List.mem_cons_self ..), hplain⟩, ?_⟩
    exact List.forall_mem_cons.2 ⟨Bool.not_eq_true _ ▸ letter, hletter⟩

/-! ## Telling humps apart -/

/-- What follows a hump is nothing or begins with a capital. -/
def CapitalNext (cs : List Char) : Prop := ∀ c ∈ cs.head?, c.isUpper = true

/-- A hump ends where the next capital is. -/
theorem append_inj_of_capitalNext {v v' cs cs' : List Char} (hv : ∀ c ∈ v, c.isUpper = false)
    (hv' : ∀ c ∈ v', c.isUpper = false) (hcs : CapitalNext cs) (hcs' : CapitalNext cs') (h : v ++ cs = v' ++ cs') :
    v = v' ∧ cs = cs' := by
  have hhump : ∀ {w ds : List Char}, (∀ c ∈ w, c.isUpper = false) → CapitalNext ds →
      (w ++ ds).takeWhile (fun c => !c.isUpper) = w := by
    intro w ds hw hds
    rw [List.takeWhile_append_of_pos (by simpa using hw)]
    cases ds with
    | nil => simp
    | cons d ds =>
      have hd : d.isUpper = true := hds d rfl
      simp [hd]
  have heq : v = v' := by rw [← hhump hv hcs, h, hhump hv' hcs']
  subst heq
  exact ⟨rfl, List.append_cancel_left h⟩

theorem not_isUpper_of_plain {w : List Char} (h : Plain w) : ∀ c ∈ w, c.isUpper = false := by
  intro c hc
  have hall : ∀ n < 128, (Char.ofNat n).isLower = true ∨ (Char.ofNat n).isDigit = true →
      (Char.ofNat n).isUpper = false := by decide
  have hascii : c.toNat < 128 := (h.2 c hc).elim ascii_of_isLower ascii_of_isDigit
  exact ascii_induction (P := fun c => c.isLower = true ∨ c.isDigit = true → c.isUpper = false) hall hascii (h.2 c hc)

/-- A hump that begins with a letter is a small letter and what follows. -/
theorem Plain.cases_of_letter {w : List Char} (h : Plain w) (letter : startsWithDigit w = false) :
    ∃ c cs, w = c :: cs ∧ c.isLower = true ∧ ∀ d ∈ cs, d.isUpper = false := by
  rcases w with _ | ⟨c, cs⟩
  · exact absurd rfl h.1
  have hc : c.isDigit = false := by simpa [startsWithDigit] using letter
  have hlower := (h.2 c (List.mem_cons_self ..)).resolve_right (by simp [hc])
  exact ⟨c, cs, rfl, hlower, fun d hd => not_isUpper_of_plain h d (List.mem_cons_of_mem _ hd)⟩

/-- A small letter is known from its capital. -/
theorem toUpper_of_isLower {c : Char} (h : c.isLower = true) : c.toUpper.isUpper = true ∧ c.toUpper.toLower = c :=
  ascii_induction (P := fun c => c.isLower = true → c.toUpper.isUpper = true ∧ c.toUpper.toLower = c)
    (by decide) (ascii_of_isLower h) h

theorem capitalNext_flatMap_raise {hs : List (List Char)} (plain : ∀ w ∈ hs, Plain w)
    (letter : ∀ w ∈ hs, startsWithDigit w = false) : CapitalNext (hs.flatMap raise) := by
  rcases hs with _ | ⟨w, hs⟩
  · simp [CapitalNext]
  obtain ⟨c, cs, rfl, hlower, -⟩ := (plain w (List.mem_cons_self ..)).cases_of_letter (letter w (List.mem_cons_self ..))
  simpa [CapitalNext, raise] using (toUpper_of_isLower hlower).1

/-- Raised humps are told apart by their capitals. -/
theorem flatMap_raise_inj {hs hs' : List (List Char)} (plain : ∀ w ∈ hs, Plain w) (plain' : ∀ w ∈ hs', Plain w)
    (letter : ∀ w ∈ hs, startsWithDigit w = false) (letter' : ∀ w ∈ hs', startsWithDigit w = false)
    (h : hs.flatMap raise = hs'.flatMap raise) : hs = hs' := by
  induction hs generalizing hs' with
  | nil =>
    rcases hs' with _ | ⟨w, hs'⟩
    · rfl
    obtain ⟨c, cs, rfl, -⟩ := (plain' w (List.mem_cons_self ..)).cases_of_letter (letter' w (List.mem_cons_self ..))
    simp [raise] at h
  | cons w hs ih =>
    obtain ⟨hw, hplain⟩ := List.forall_mem_cons.1 plain
    obtain ⟨hfirst, hletter⟩ := List.forall_mem_cons.1 letter
    obtain ⟨c, cs, rfl, hlower, hcs⟩ := hw.cases_of_letter hfirst
    rcases hs' with _ | ⟨w', hs'⟩
    · simp [raise] at h
    obtain ⟨hw', hplain'⟩ := List.forall_mem_cons.1 plain'
    obtain ⟨hfirst', hletter'⟩ := List.forall_mem_cons.1 letter'
    obtain ⟨c', cs', rfl, hlower', hcs'⟩ := hw'.cases_of_letter hfirst'
    rw [List.flatMap_cons, List.flatMap_cons, raise, raise, List.cons_append, List.cons_append, List.cons.injEq] at h
    obtain ⟨hupper, h⟩ := h
    obtain ⟨rfl, hrest⟩ := append_inj_of_capitalNext hcs hcs' (capitalNext_flatMap_raise hplain hletter)
      (capitalNext_flatMap_raise hplain' hletter') h
    have hc : c = c' := by rw [← (toUpper_of_isLower hlower).2, hupper, (toUpper_of_isLower hlower').2]
    rw [hc, ih hplain hplain' hletter hletter' hrest]

theorem humpChars_inj {hs hs' : List (List Char)} (humped : Humped hs) (humped' : Humped hs')
    (h : humpChars hs = humpChars hs') : hs = hs' := by
  rcases hs with _ | ⟨w, hs⟩ <;> rcases hs' with _ | ⟨w', hs'⟩
  · rfl
  · have hw' := (humped'.plain w' (List.mem_cons_self ..)).1
    simp [humpChars, hw'] at h
  · have hw := (humped.plain w (List.mem_cons_self ..)).1
    simp [humpChars, hw] at h
  · obtain ⟨hw, plain⟩ := List.forall_mem_cons.1 humped.plain
    obtain ⟨hw', plain'⟩ := List.forall_mem_cons.1 humped'.plain
    obtain ⟨rfl, hrest⟩ := append_inj_of_capitalNext (not_isUpper_of_plain hw) (not_isUpper_of_plain hw')
      (capitalNext_flatMap_raise plain humped.letter) (capitalNext_flatMap_raise plain' humped'.letter) h
    rw [flatMap_raise_inj plain plain' humped.letter humped'.letter hrest]

/-- Two ASCII texts are the same in camel case exactly if their humps are. -/
theorem camelCase_eq_iff {a b : String} (ha : Ascii a) (hb : Ascii b) : camelCase a = camelCase b ↔ humps a = humps b := by
  have hchars : ∀ {s}, Ascii s → (camelCase s).toList = humpChars (humps s) := fun {s} hs => by
    unfold humps
    rw [toList_camelCase hs, humpChars_joinDigits fun w hw => (mem_lowerWords hw).1]
  rw [← String.toList_inj, hchars ha, hchars hb]
  constructor
  · exact humpChars_inj (humped_joinDigits fun w hw => plain_of_mem_lowerWords ha hw)
      (humped_joinDigits fun w hw => plain_of_mem_lowerWords hb hw)
  · exact congrArg humpChars

example : humps "get2ndPet" = humps "get_2nd_pet" := by decide

end ApiScaffold.Text
