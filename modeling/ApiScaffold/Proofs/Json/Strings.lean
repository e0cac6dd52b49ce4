/-
Objects of strings, written and read back. The text of such an object is scanned into the tokens of its
members whatever characters its names and values hold, and the tokens give the object again.
-/
import ApiScaffold.Json.Reader
import ApiScaffold.Json.Writer
import Mathlib.Tactic

namespace ApiScaffold.Json

/-! ## Texts and their tokens -/

/-- Between two tokens, the scanner takes a text for the given tokens and ends between two tokens. -/
def Scans (text : List Char) (tokens : List Token) : Prop :=
  ∀ ts, text.foldlM Token.step (.between, ts) = some (.between, tokens.reverse ++ ts)

theorem Scans.append {a b : List Char} {x y : List Token} (ha : Scans a x) (hb : Scans b y) :
    Scans (a ++ b) (x ++ y) := by
  intro ts
  rw [List.foldlM_append, ha ts]
  show b.foldlM Token.step (.between, x.reverse ++ ts) = _
  rw [hb]
  simp

theorem Scans.nil : Scans [] [] := fun _ => rfl

theorem Scans.flatMap {α : Type} {f : α → List Char} {g : α → List Token} (h : ∀ a, Scans (f a) (g a)) :
    ∀ as : List α, Scans (as.flatMap f) (as.flatMap g)
  | [] => .nil
  | a :: as => by
    rw [List.flatMap_cons, List.flatMap_cons]
    exact (h a).append (Scans.flatMap h as)

theorem scans_blanks : ∀ {cs : List Char}, (∀ c ∈ cs, Token.isBlank c = true) → Scans cs []
  | [], _ => .nil
  | c :: cs, h => by
    intro ts
    have hc := h c (List.mem_cons_self ..)
    rw [List.foldlM_cons]
    have hstep : Token.step (.between, ts) c = some (.between, ts) := by
      simp [Token.step, Token.plain?, hc]
    rw [hstep]
    exact scans_blanks (fun d hd => h d (List.mem_cons_of_mem _ hd)) ts

theorem scans_punctuation {c : Char} {t : Token} (h : Token.punctuation? c = some t)
    (hb : Token.isBlank c = false) (hq : (c == '"') = false) : Scans [c] [t] := by
  intro ts
  simp [Token.step, Token.plain?, hb, hq, h]

/-! ## Strings -/

theorem hexValue?_hexDigit : ∀ d < 16, Token.hexValue? (hexDigit d) = some d := by decide

/-- Inside a string, the text of a character is taken for that character. -/
theorem scan_escapeChar (done : List Char) (ts : List Token) (c : Char) :
    (escapeChar c).foldlM Token.step (.quoted done, ts) = some (.quoted (c :: done), ts) := by
  unfold escapeChar
  split
  · rename_i h; rw [eq_of_beq h]; rfl
  split
  · rename_i h; rw [eq_of_beq h]; rfl
  split
  · rename_i h; rw [eq_of_beq h]; rfl
  split
  · rename_i h; rw [eq_of_beq h]; rfl
  split
  · rename_i h; rw [eq_of_beq h]; rfl
  split
  · rename_i h; rw [eq_of_beq h]; rfl
  split
  · rename_i h; rw [eq_of_beq h]; rfl
  split
  · -- four hexadecimal digits, the first two of them zero
    rename_i hlt
    have hhigh := hexValue?_hexDigit (c.toNat / 16) (by omega)
    have hlow := hexValue?_hexDigit (c.toNat % 16) (by omega)
    have hvalue : c.toNat / 16 * 16 + c.toNat % 16 = c.toNat := by omega
    have hzero : Token.hexValue? '0' = some 0 := by decide
    have hunit : Token.unit? done none c.toNat = some (.quoted (c :: done)) := by
      unfold Token.unit?
      have h1 : ¬ 0xD800 ≤ c.toNat := by omega
      have h2 : ¬ 0xDC00 ≤ c.toNat := by omega
      simp [h1, h2, Char.ofNat_toNat]
    simp [List.foldlM_cons, Token.step, hzero, hhigh, hlow, hvalue, hunit]
  · rename_i hquote hslash _ _ _ _ _ hlt
    simp [List.foldlM_cons, Token.step, hquote, hslash, hlt]

theorem scan_escaped (ts : List Token) :
    ∀ (cs done : List Char),
      (cs.flatMap escapeChar).foldlM Token.step (.quoted done, ts) = some (.quoted (cs.reverse ++ done), ts)
  | [], done => rfl
  | c :: cs, done => by
    rw [List.flatMap_cons, List.foldlM_append, scan_escapeChar]
    show (cs.flatMap escapeChar).foldlM Token.step (.quoted (c :: done), ts) = _
    rw [scan_escaped ts cs (c :: done)]
    simp

theorem scans_quote (s : String) : Scans (quote s).toList [.str s] := by
  intro ts
  have hopen : Token.step (.between, ts) '"' = some (.quoted [], ts) := rfl
  simp only [quote, String.toList_ofList, List.cons_append, List.foldlM_cons, hopen]
  show (s.toList.flatMap escapeChar ++ ['"']).foldlM Token.step (.quoted [], ts) = _
  rw [List.foldlM_append, scan_escaped]
  show (['"']).foldlM Token.step (.quoted (s.toList.reverse ++ []), ts) = _
  simp [Token.step]

/-! ## Members -/

/-- The object with strings as its members. -/
def ofStrings (es : List (String × String)) : Json := .obj (es.map fun (k, v) => (k, .str v))

/-- The tokens of a member. -/
def memberTokens (e : String × String) : List Token := [.str e.1, .colon, .str e.2]

/-- The tokens of the members behind the first. -/
def moreTokens (es : List (String × String)) : List Token := es.flatMap fun e => .comma :: memberTokens e

/-- The tokens of an object with strings as its members. -/
def objectTokens : List (String × String) → List Token
  | [] => [.openBrace, .closeBrace]
  | e :: es => .openBrace :: memberTokens e ++ moreTokens es ++ [.closeBrace]

theorem scans_member (e : String × String) :
    Scans (quote e.1 ++ ": " ++ quote e.2).toList (memberTokens e) := by
  have hcolon : Scans (": " : String).toList [.colon] :=
    (scans_punctuation (c := ':') rfl (by decide) (by decide)).append (@scans_blanks [' '] (by simp [Token.isBlank]))
  rw [String.toList_append, String.toList_append]
  exact ((scans_quote e.1).append hcolon).append (scans_quote e.2)

theorem prettyMembers_ofStrings (level : Nat) :
    ∀ es : List (String × String), prettyMembers level (es.map fun (k, v) => (k, .str v)) =
      es.map fun e => quote e.1 ++ ": " ++ quote e.2
  | [] => rfl
  | e :: es => by
    simp only [List.map_cons, prettyMembers, prettyAt, prettyMembers_ofStrings level es]

theorem toList_intercalate_cons (sep x : String) :
    ∀ xs : List String, (sep.intercalate (x :: xs)).toList = x.toList ++ xs.flatMap fun y => sep.toList ++ y.toList
  | [] => by simp
  | y :: ys => by
    have ih := toList_intercalate_cons sep y ys
    rw [String.toList_intercalate] at ih ⊢
    simp only [List.map_cons, List.intercalate, List.intersperse_cons_cons, List.flatten_cons] at ih ⊢
    rw [ih]
    simp

/-- A line break with the blanks of a level. -/
def indentation (n : Nat) : String := "\n" ++ String.ofList (List.replicate (2 * n) ' ')

theorem scans_indentation (n : Nat) : Scans (indentation n).toList [] := by
  apply scans_blanks
  intro c hc
  simp only [indentation, String.toList_append, String.toList_ofList, List.mem_append, List.mem_replicate] at hc
  rcases hc with hc | ⟨_, rfl⟩
  · have : c = '\n' := by simpa using hc
    rw [this]; decide
  · decide

/-- The text of an object of strings is scanned into the tokens of its members. -/
theorem scans_pretty (es : List (String × String)) : Scans (ofStrings es).pretty.toList (objectTokens es) := by
  have hopen : Scans ['\x7b'] [.openBrace] := scans_punctuation rfl (by decide) (by decide)
  have hclose : Scans ['\x7d'] [.closeBrace] := scans_punctuation rfl (by decide) (by decide)
  have hcomma : Scans [','] [.comma] := scans_punctuation rfl (by decide) (by decide)
  unfold ofStrings pretty prettyAt block
  rw [prettyMembers_ofStrings]
  cases es with
  | nil => exact hopen.append hclose
  | cons e es =>
    show Scans ("\x7b" ++ indentation 1 ++ String.intercalate ("," ++ indentation 1) _ ++ indentation 0 ++
      "\x7d" : String).toList _
    -- the members behind the first come each after a comma and a line break
    simp only [String.toList_append, List.map_cons, toList_intercalate_cons, List.flatMap_map]
    have hmore : Scans (es.flatMap fun e => (("," : String).toList ++ (indentation 1).toList) ++
        (quote e.1 ++ ": " ++ quote e.2).toList) (moreTokens es) :=
      Scans.flatMap (fun e => (hcomma.append (scans_indentation 1)).append (scans_member e)) es
    have := (((hopen.append (scans_indentation 1)).append ((scans_member e).append hmore)).append
      (scans_indentation 0)).append hclose
    simpa [objectTokens, String.toList_append] using this

/-! ## Reading -/

theorem read_more :
    ∀ (es : List (String × String)) (done : Members),
      (moreTokens es).foldlM Reader.step ⟨[.obj done], .next⟩ =
        some ⟨[.obj ((es.map fun (k, v) => (k, Json.str v)).reverse ++ done)], .next⟩
  | [], done => rfl
  | e :: es, done => by
    show (moreTokens es).foldlM Reader.step ⟨[.obj ((e.1, .str e.2) :: done)], .next⟩ = _
    rw [read_more es]
    simp

theorem read_objectTokens (es : List (String × String)) :
    (objectTokens es).foldlM Reader.step ⟨[], .value⟩ = some ⟨[], .complete (ofStrings es)⟩ := by
  cases es with
  | nil => rfl
  | cons e es =>
    show (moreTokens es ++ [Token.closeBrace]).foldlM Reader.step ⟨[.obj [(e.1, .str e.2)]], .next⟩ = _
    rw [List.foldlM_append, read_more]
    simp [Reader.step, Reader.close, Reader.place, ofStrings]

/-- An object of strings is read back from its text, also when blanks follow. -/
theorem readAsWritten_pretty (es : List (String × String)) {blanks : String}
    (h : ∀ c ∈ blanks.toList, Token.isBlank c = true) :
    readAsWritten ((ofStrings es).pretty ++ blanks) = some (ofStrings es) := by
  have hs := (scans_pretty es).append (scans_blanks h) []
  unfold readAsWritten Token.scan
  rw [String.toList_append, hs]
  simp [Token.finish, read_objectTokens, Reader.finish]

end ApiScaffold.Json
