/-
Splitting a text at a character, finding one text in another and replacing it.
-/
namespace ApiScaffold.Text

/-- The pieces between the occurrences of `sep`, one more than there are occurrences. -/
def splitChars (sep : Char) : List Char → List (List Char)
  | [] => [[]]
  | c :: cs =>
    if c = sep then [] :: splitChars sep cs
    else match splitChars sep cs with
      | [] => [[c]]
      | piece :: pieces => (c :: piece) :: pieces

/-- The pieces of a text between the occurrences of `sep`. -/
def split (sep : Char) (s : String) : List String := (splitChars sep s.toList).map String.ofList

/-- Whether `needle` stands somewhere in `hay`. -/
def occursChars (needle : List Char) : List Char → Bool
  | [] => needle.isEmpty
  | c :: cs => needle.isPrefixOf (c :: cs) || occursChars needle cs

/-- Whether `needle` stands somewhere in `hay`. -/
def occursIn (needle hay : String) : Bool := occursChars needle.toList hay.toList

/-- What stands before and after the first occurrence of a nonempty `sep`. -/
def cutAt (sep : List Char) : List Char → Option (List Char × List Char)
  | [] => none
  | c :: cs =>
    if sep.isPrefixOf (c :: cs) then some ([], (c :: cs).drop sep.length)
    else (cutAt sep cs).map fun (before, after) => (c :: before, after)

/-- Replaces the occurrences of a nonempty `needle` from left to right; `skip` characters of the
last occurrence are still to be passed over. -/
def replaceChars (needle new : List Char) : Nat → List Char → List Char
  | _, [] => []
  | skip + 1, _ :: cs => replaceChars needle new skip cs
  | 0, c :: cs =>
    if needle.isPrefixOf (c :: cs) then new ++ replaceChars needle new (needle.length - 1) cs
    else c :: replaceChars needle new 0 cs

/-- Replaces the occurrences of a nonempty `needle` from left to right. -/
def replace (needle new s : String) : String :=
  String.ofList (replaceChars needle.toList new.toList 0 s.toList)

/-- Replaces one character by another. -/
def replaceChar (c d : Char) (s : String) : String :=
  String.ofList (s.toList.map fun x => if x = c then d else x)

/-- Whether a text starts with another. -/
def startsWith (start s : String) : Bool := start.toList.isPrefixOf s.toList

/-- `n` copies of a text. -/
def repeated (n : Nat) (s : String) : String := String.join (List.replicate n s)

theorem repeated_zero (s : String) : repeated 0 s = "" := rfl

theorem repeated_succ (n : Nat) (s : String) : repeated (n + 1) s = s ++ repeated n s := by
  unfold repeated
  rw [List.replicate_succ, String.join_cons]

theorem repeated_succ_right (n : Nat) (s : String) : repeated (n + 1) s = repeated n s ++ s := by
  induction n with
  | zero => rw [repeated_succ, repeated_zero, String.append_empty, String.empty_append]
  | succ n ih => rw [repeated_succ, ih, ← String.append_assoc, ← repeated_succ, ih]

end ApiScaffold.Text
