import UpgradeGraph.Json.Reader
import UpgradeGraph.Json.Writer
import UpgradeGraph.Proofs.Text

/-!
# JSON written and read again

What has been written is read as it was written. For strings that is a matter of one character
at a time: the reader takes an escape for one piece, whatever follows it
(`scanString_escapeChar`), and the pieces stand for the characters they come from
(`characters?_pieces`).

A text is read as a tree (`Reads`) if the reader gets from the beginning of the text to its end
with the tree in its hands, whatever containers are open and whatever comes behind. So a
container is read as what its items are read as, by induction on them, with those that have
been read on the stack.
-/

namespace UpgradeGraph.Json

/-! ## Strings -/

/-- What a written character is read as: some control characters come as their numbers. -/
def pieceOf (c : Char) : Piece :=
  if c.toNat < 0x20 ∧ c ∉ [Char.ofNat 8, Char.ofNat 12, '\n', '\r', '\t'] then .unit c.toNat
  else .char c

/-- What a written string is read as. -/
def pieces (s : Text) : List Piece := s.map pieceOf

/-- Two hexadecimal digits behind two zeros give the number of a control character. -/
theorem hexUnit?_hexChar :
    ∀ n < 0x20, hexUnit? '0' '0' (hexChar (n / 16)) (hexChar (n % 16)) = some n := by decide

theorem scanString_escaped? {c e : Char} (he : e ≠ 'u') (h : escaped? e = some c) (rest : Text) :
    scanString ('\\' :: e :: rest) =
      (scanString rest).map fun (ps, behind) => (.char c :: ps, behind) := by
  cases hrest : scanString rest <;> simp [scanString, he, h, hrest]

/-- An escape is read as one piece, whatever follows. -/
theorem scanString_escapeChar (c : Char) (rest : Text) :
    scanString (escapeChar c ++ rest) =
      (scanString rest).map fun (ps, behind) => (pieceOf c :: ps, behind) := by
  by_cases hshort : c ∈ ['"', '\\', Char.ofNat 8, Char.ofNat 12, '\n', '\r', '\t']
  · simp only [List.mem_cons, List.not_mem_nil, or_false] at hshort
    rcases hshort with rfl | rfl | rfl | rfl | rfl | rfl | rfl
    all_goals exact scanString_escaped? (by decide) rfl rest
  simp only [List.mem_cons, List.not_mem_nil, or_false, not_or] at hshort
  obtain ⟨hquote, hbackslash, h8, h12, hn, hr, ht⟩ := hshort
  by_cases hcontrol : c.toNat < 0x20
  · have hpiece : pieceOf c = .unit c.toNat := by simp [pieceOf, hcontrol, h8, h12, hn, hr, ht]
    have hescape : escapeChar c =
        ['\\', 'u', '0', '0', hexChar (c.toNat / 16), hexChar (c.toNat % 16)] := by
      simp [escapeChar, hquote, hbackslash, h8, h12, hn, hr, ht, hcontrol]
    cases h : scanString rest <;>
      simp [hescape, scanString, hexUnit?_hexChar c.toNat hcontrol, hpiece, h]
  · have hpiece : pieceOf c = .char c := by simp [pieceOf, hcontrol]
    have hescape : escapeChar c = [c] := by
      simp [escapeChar, hquote, hbackslash, h8, h12, hn, hr, ht, hcontrol]
    cases h : scanString rest <;>
      simp [hescape, scanString, hbackslash, hcontrol, hpiece, h]

/-- A string is read up to its closing quote. -/
theorem scanString_escaped (s rest : Text) :
    scanString (s.flatMap escapeChar ++ '"' :: rest) = some (pieces s, rest) := by
  induction s with
  | nil => rfl
  | cons c s ih =>
    rw [List.flatMap_cons, List.append_assoc, scanString_escapeChar, ih]
    rfl

/-- The pieces of a written string stand for its characters. -/
theorem characters?_pieces (s : Text) : characters? (pieces s) = some s := by
  induction s with
  | nil => rfl
  | cons c s ih =>
    have ih : characters? (s.map pieceOf) = some s := ih
    rw [pieces, List.map_cons, pieceOf]
    split
    next h =>
      have hhigh : isHighSurrogate c.toNat = false := by
        simp [isHighSurrogate]
        omega
      have hlow : isLowSurrogate c.toNat = false := by
        simp [isLowSurrogate]
        omega
      rw [characters?.eq_def]
      simp [hhigh, hlow, ih]
    next => simp [characters?, ih]

/-! ## Steps of the reader -/

theorem readFrom_value (stack : List Frame) (s : Text) : readFrom .value stack s =
    match skipBlanks s with
    | '[' :: rest =>
      match skipBlanks rest with
      | ']' :: behind => readFrom (.after (.array [])) stack behind
      | _ => readFrom .value (.array [] :: stack) rest
    | '{' :: rest =>
      match skipBlanks rest with
      | '}' :: behind => readFrom (.after (.object [])) stack behind
      | _ => readFrom (.key []) stack rest
    | t =>
      match scanScalar t with
      | some (value, rest) => readFrom (.after value) stack rest
      | none => none := by
  rw [readFrom]
  split <;> rename_i h <;> simp only [h]
  · split <;> rename_i h <;> simp only [h]
  · split <;> rename_i h <;> simp only [h]
  · split <;> rename_i h <;> simp only [h]

theorem readFrom_key (members : List (List Piece × Tree)) (stack : List Frame) (s : Text) :
    readFrom (.key members) stack s =
    match skipBlanks s with
    | '"' :: rest =>
      match scanString rest with
      | some (key, behind) =>
        match skipBlanks behind with
        | ':' :: rest => readFrom .value (.object members key :: stack) rest
        | _ => none
      | none => none
    | _ => none := by
  rw [readFrom]
  split <;> rename_i h <;> simp only [h]
  · split <;> rename_i h <;> simp only [h]
    split <;> rename_i h <;> simp only [h]

theorem readFrom_after_array (value : Tree) (items : List Tree) (stack : List Frame) (s : Text) :
    readFrom (.after value) (.array items :: stack) s =
      match skipBlanks s with
      | ',' :: rest => readFrom .value (.array (value :: items) :: stack) rest
      | ']' :: rest => readFrom (.after (.array (value :: items).reverse)) stack rest
      | _ => none := by
  rw [readFrom]
  split <;> rename_i h <;> simp only [h]

theorem readFrom_after_object (value : Tree) (members : List (List Piece × Tree)) (key : List Piece)
    (stack : List Frame) (s : Text) :
    readFrom (.after value) (.object members key :: stack) s =
      match skipBlanks s with
      | ',' :: rest => readFrom (.key ((key, value) :: members)) stack rest
      | '}' :: rest =>
        readFrom (.after (.object ((key, value) :: members).reverse)) stack rest
      | _ => none := by
  rw [readFrom]
  split <;> rename_i h <;> simp only [h]

theorem readFrom_bracket (stack : List Frame) (rest : Text) :
    readFrom .value stack ('[' :: rest) =
      match skipBlanks rest with
      | ']' :: behind => readFrom (.after (.array [])) stack behind
      | _ => readFrom .value (.array [] :: stack) rest :=
  readFrom_value stack ('[' :: rest)

theorem readFrom_brace (stack : List Frame) (rest : Text) :
    readFrom .value stack ('\x7b' :: rest) =
      match skipBlanks rest with
      | '\x7d' :: behind => readFrom (.after (.object [])) stack behind
      | _ => readFrom (.key []) stack rest :=
  readFrom_value stack ('\x7b' :: rest)

theorem readFrom_after_nil (value : Tree) (s : Text) :
    readFrom (.after value) [] s = some (value, s) := by
  rw [readFrom]

/-! ## Values -/

/-- The text is read as the tree, wherever it stands. -/
def Reads (text : Text) (tree : Tree) : Prop := ∀ stack rest,
  readFrom .value stack (text ++ rest) = readFrom (.after tree) stack rest

theorem reads_string (s : Text) : Reads (writeString s) (.string (pieces s)) := by
  intro stack rest
  have hskip : skipBlanks (writeString s ++ rest) = writeString s ++ rest := rfl
  have hscan : scanScalar (writeString s ++ rest) = some (.string (pieces s), rest) := by
    simp [writeString, scanScalar, scanString_escaped]
  rw [readFrom_value, hskip]
  split
  next h => cases h
  next h => cases h
  next => rw [hscan]

/-- What is read anywhere is read where nothing stands around it. -/
theorem Reads.read {text : Text} {tree : Tree} (h : Reads text tree) :
    Json.read text = some (tree, []) := by
  have hread := h [] []
  rwa [List.append_nil, readFrom_after_nil] at hread

theorem Reads.parse {text : Text} {tree : Tree} (h : Reads text tree) :
    Json.parse text = some tree := by
  have hskip : skipBlanks [] = [] := rfl
  simp only [Json.parse, h.read, hskip, if_true]

/-- What is read as a value does not close an array. -/
theorem Reads.ne_close {text rest behind : Text} {tree : Tree} (h : Reads text tree) :
    skipBlanks (text ++ rest) ≠ ']' :: behind := by
  intro hclose
  have hscalar : scanScalar (']' :: behind) = none := rfl
  have hread := h [] rest
  rw [readFrom_value, hclose, readFrom_after_nil] at hread
  simp [hscalar] at hread

section Arrays

variable {α : Type} {items : List α} {text : α → Text} {tree : α → Tree}

/-- The items of an array are read one after another, up to its end. -/
theorem readFrom_items (hne : items ≠ []) (h : ∀ a ∈ items, Reads (text a) (tree a))
    (done : List Tree) (stack : List Frame) (rest : Text) :
    readFrom .value (.array done :: stack) ([','].intercalate (items.map text) ++ ']' :: rest) =
      readFrom (.after (.array (done.reverse ++ items.map tree))) stack rest := by
  induction items generalizing done with
  | nil => exact absurd rfl hne
  | cons a items ih =>
    have ha : Reads (text a) (tree a) := h a List.mem_cons_self
    cases items with
    | nil =>
      have hclose : skipBlanks (']' :: rest) = ']' :: rest := rfl
      rw [List.map_singleton, List.intercalate_singleton, ha, readFrom_after_array, hclose]
      simp
    | cons b items =>
      have ih := ih (List.cons_ne_nil b items) (fun c hc => h c (List.mem_cons_of_mem a hc))
        (tree a :: done)
      have hcomma (s : Text) : skipBlanks (',' :: s) = ',' :: s := rfl
      rw [List.map_cons, List.map_cons, List.intercalate_cons_cons, List.append_assoc,
        List.append_assoc, ha, readFrom_after_array, List.singleton_append, hcomma]
      simpa using ih

theorem reads_array (h : ∀ a ∈ items, Reads (text a) (tree a)) :
    Reads (writeArray (items.map text)) (.array (items.map tree)) := by
  intro stack rest
  have hwritten : writeArray (items.map text) ++ rest =
      '[' :: ([','].intercalate (items.map text) ++ ']' :: rest) := by simp [writeArray]
  rw [hwritten, readFrom_bracket]
  cases items with
  | nil => rfl
  | cons a items =>
    have hfirst : Reads (text a) (tree a) := h a List.mem_cons_self
    split
    next hclose =>
      rw [List.map_cons, Text.intercalate_cons, List.append_assoc] at hclose
      exact absurd hclose hfirst.ne_close
    next => exact readFrom_items (List.cons_ne_nil a items) h [] stack rest

end Arrays

section Objects

variable {α : Type} {members : List α} {key text : α → Text} {tree : α → Tree}

/-- A member of an object, as it is written. -/
def writeMember (member : Text × Text) : Text := writeString member.1 ++ ':' :: member.2

/-- A member is read from its key to the end of its value. -/
theorem readFrom_member {name value : Text} {read : Tree} (h : Reads value read)
    (done : List (List Piece × Tree)) (stack : List Frame) (rest : Text) :
    readFrom (.key done) stack (writeMember (name, value) ++ rest) =
      readFrom (.after read) (.object done (pieces name) :: stack) rest := by
  have hwritten : writeMember (name, value) ++ rest =
      '"' :: (name.flatMap escapeChar ++ '"' :: ':' :: (value ++ rest)) := by
    simp [writeMember, writeString]
  have hquote (s : Text) : skipBlanks ('"' :: s) = '"' :: s := rfl
  have hcolon (s : Text) : skipBlanks (':' :: s) = ':' :: s := rfl
  rw [hwritten, readFrom_key, hquote]
  simp only [scanString_escaped, hcolon]
  exact h _ _

/-- The members of an object are read one after another, up to its end. -/
theorem readFrom_members (hne : members ≠ []) (h : ∀ a ∈ members, Reads (text a) (tree a))
    (done : List (List Piece × Tree)) (stack : List Frame) (rest : Text) :
    readFrom (.key done) stack
        ([','].intercalate (members.map fun a => writeMember (key a, text a)) ++ '\x7d' :: rest) =
      readFrom (.after (.object (done.reverse ++ members.map fun a => (pieces (key a), tree a))))
        stack rest := by
  induction members generalizing done with
  | nil => exact absurd rfl hne
  | cons a members ih =>
    have ha : Reads (text a) (tree a) := h a List.mem_cons_self
    cases members with
    | nil =>
      have hclose : skipBlanks ('\x7d' :: rest) = '\x7d' :: rest := rfl
      rw [List.map_singleton, List.intercalate_singleton, readFrom_member ha,
        readFrom_after_object, hclose]
      simp
    | cons b members =>
      have ih := ih (List.cons_ne_nil b members) (fun c hc => h c (List.mem_cons_of_mem a hc))
        ((pieces (key a), tree a) :: done)
      have hcomma (s : Text) : skipBlanks (',' :: s) = ',' :: s := rfl
      rw [List.map_cons, List.map_cons, List.intercalate_cons_cons, List.append_assoc,
        List.append_assoc, readFrom_member ha, readFrom_after_object, List.singleton_append,
        hcomma]
      simpa using ih

theorem reads_object (h : ∀ a ∈ members, Reads (text a) (tree a)) :
    Reads (writeObject (members.map fun a => (key a, text a)))
      (.object (members.map fun a => (pieces (key a), tree a))) := by
  intro stack rest
  have hwritten : writeObject (members.map fun a => (key a, text a)) ++ rest =
      '\x7b' :: ([','].intercalate (members.map fun a => writeMember (key a, text a)) ++
        '\x7d' :: rest) := by
    simp [writeObject, writeMember, Function.comp_def]
  rw [hwritten, readFrom_brace]
  cases members with
  | nil => rfl
  | cons a members =>
    split
    next hclose =>
      rw [List.map_cons, Text.intercalate_cons] at hclose
      cases hclose
    next => exact readFrom_members (List.cons_ne_nil a members) h [] stack rest

end Objects

end UpgradeGraph.Json
