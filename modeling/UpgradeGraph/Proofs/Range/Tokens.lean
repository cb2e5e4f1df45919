import UpgradeGraph.Proofs.Range.Comparators

/-!
# Lists of comparators

A list of comparators is cut at its blanks, once those behind the signs have been dropped. So it
does not matter how many blanks there are, or of what kind, as long as two comparators have one
between them (`Spells`): what comes out of the cutting is each sign with its version
(`words_of_spells`).

From there each comparator overwrites the side of the bounds that it is about, and `=` or no sign
overwrites both. What is left in the end is what the last comparator of each side says, its version
and whether that is in (`lastBounds`), and nothing of the ones before (`last_comparator_counts`).
-/

namespace UpgradeGraph

open Version

namespace Text

variable {c : Char} {s t : Text}

/-! ## Words -/

/-- A blank ends a word. -/
theorem words_append_blank (h : isBlank c = true) (s t : Text) :
    words (s ++ c :: t) = words s ++ words t := by
  unfold words
  rw [List.splitOnP_append_cons s t h, List.filter_append]

theorem words_cons_blank (h : isBlank c = true) (s : Text) : words (c :: s) = words s := by
  have hcut : words ([] ++ c :: s) = words [] ++ words s := words_append_blank h [] s
  rwa [List.nil_append, show words [] = [] by simp [words], List.nil_append] at hcut

/-- Blanks are no words. -/
theorem words_blanks_append (h : ∀ c ∈ s, isBlank c = true) (t : Text) :
    words (s ++ t) = words t := by
  induction s with
  | nil => rfl
  | cons c s ih =>
    rw [List.forall_mem_cons] at h
    rw [List.cons_append, words_cons_blank h.1, ih h.2]

/-- What is followed by a blank, or by nothing, is a word if it has none itself. -/
theorem words_append (hne : s ≠ []) (hs : ∀ c ∈ s, isBlank c = false)
    (ht : ∀ c ∈ t.head?, isBlank c = true) : words (s ++ t) = s :: words t := by
  cases t with
  | nil =>
    rw [List.append_nil, words_of_unblank hne hs]
    rfl
  | cons c t =>
    have hc : isBlank c = true := ht c rfl
    rw [words_append_blank hc, words_cons_blank hc, words_of_unblank hne hs]
    rfl

end Text

namespace Range

/-! ## Comparators as they are written -/

/-- What stands before a version. -/
inductive Sign where
  | atMost
  | below
  | atLeast
  | above
  | equal
  /-- Nothing does. -/
  | bare
deriving DecidableEq, Repr

namespace Sign

def text : Sign → Text
  | atMost => ['<', '=']
  | below => ['<']
  | atLeast => ['>', '=']
  | above => ['>']
  | equal => ['=']
  | bare => []

/-- What the version is compared for. -/
def comparator : Sign → Comparator
  | atMost => .atMost
  | below => .below
  | atLeast => .atLeast
  | above => .above
  | equal | bare => .exactly

/-- The version becomes the lower bound. -/
def setsLower : Sign → Bool
  | atLeast | above | equal | bare => true
  | atMost | below => false

/-- The version becomes the upper bound. -/
def setsUpper : Sign → Bool
  | atMost | below | equal | bare => true
  | atLeast | above => false

end Sign

/-- A sign and a version, with blanks between them if there is a sign. -/
structure Token where
  sign : Sign
  gap : Blanks
  version : Text
  given : version ≠ []
  plain : ∀ c ∈ version, Text.isBlank c = false ∧ isComparatorChar c = false
  tight : sign = .bare → gap.val = []

/-- It can be checked that a version is plain. -/
theorem plain_of_all {version : Text}
    (h : (version.all fun c => !Text.isBlank c && !isComparatorChar c) = true) :
    ∀ c ∈ version, Text.isBlank c = false ∧ isComparatorChar c = false := by
  simpa using h

namespace Token

def text (t : Token) : Text := t.sign.text ++ t.gap.val ++ t.version

/-- The token without the blanks in it. -/
def word (t : Token) : Text := t.sign.text ++ t.version

end Token

/-- The text has these tokens, with blanks around them and at least one between two of them. -/
inductive Spells : List Token → Text → Prop
  | nil (after : Blanks) : Spells [] after.val
  | cons (before : Blanks) (t : Token) {tokens : List Token} {rest : Text} :
      (∀ c ∈ rest.head?, Text.isBlank c = true) → Spells tokens rest →
        Spells (t :: tokens) (before.val ++ t.text ++ rest)

variable {spec : Text} {tokens : List Token}

/-! ## Cutting -/

theorem not_comparator_of_isBlank {c : Char} (h : Text.isBlank c = true) :
    isComparatorChar c = false := by
  refine Bool.eq_false_iff.2 fun hc => ?_
  have hsigns : ∀ c, isComparatorChar c = true → Text.isBlank c = false := by
    intro c hc
    simp only [isComparatorChar, Bool.or_eq_true, decide_eq_true_eq] at hc
    rcases hc with (rfl | rfl) | rfl <;> decide
  rw [hsigns c hc] at h
  cases h

/-- Blanks that do not follow a sign are kept. -/
theorem closeUp_blanks_append (blanks : Blanks) (s : Text) :
    closeUp false (blanks.val ++ s) = blanks.val ++ closeUp false s := by
  obtain ⟨blanks, hblanks⟩ := blanks
  induction blanks with
  | nil => rfl
  | cons c blanks ih =>
    rw [List.forall_mem_cons] at hblanks
    show closeUp false (c :: (blanks ++ s)) = c :: (blanks ++ closeUp false s)
    rw [closeUp, if_neg (by simp), not_comparator_of_isBlank hblanks.1, ih hblanks.2]

theorem closeUp_gap (blanks : Blanks) (s : Text) :
    closeUp true (blanks.val ++ s) = closeUp true s := by
  obtain ⟨blanks, hblanks⟩ := blanks
  induction blanks with
  | nil => rfl
  | cons c blanks ih =>
    rw [List.forall_mem_cons] at hblanks
    show closeUp true (c :: (blanks ++ s)) = closeUp true s
    rw [closeUp, if_pos (by simp [hblanks.1]), ih hblanks.2]

/-- A version is kept, and no sign is behind it. -/
theorem closeUp_version {version : Text} (hne : version ≠ [])
    (h : ∀ c ∈ version, Text.isBlank c = false ∧ isComparatorChar c = false) (after : Bool)
    (s : Text) : closeUp after (version ++ s) = version ++ closeUp false s := by
  induction version generalizing after with
  | nil => exact absurd rfl hne
  | cons c version ih =>
    rw [List.forall_mem_cons] at h
    rw [List.cons_append, closeUp, if_neg (by simp [h.1.1]), h.1.2]
    cases version with
    | nil => rfl
    | cons d version =>
      rw [ih (List.cons_ne_nil d version) h.2]
      rfl

theorem closeUp_token (t : Token) (s : Text) :
    closeUp false (t.text ++ s) = t.word ++ closeUp false s := by
  have hversion (after : Bool) := closeUp_version t.given t.plain after s
  have hgap : closeUp true (t.gap.val ++ (t.version ++ s)) = t.version ++ closeUp false s := by
    rw [closeUp_gap, hversion true]
  unfold Token.text Token.word
  cases hsign : t.sign with
  | bare =>
    rw [t.tight hsign]
    exact hversion false
  | atMost | below | atLeast | above | equal =>
    have hequal : Text.isBlank '=' = false := by decide
    simp [Sign.text, closeUp, isComparatorChar, hequal, hgap]

theorem head?_closeUp (s : Text) : (closeUp false s).head? = s.head? := by
  cases s with
  | nil => rfl
  | cons c s => rw [closeUp, if_neg (by simp), List.head?_cons, List.head?_cons]

theorem Token.unblank_word (t : Token) : ∀ c ∈ t.word, Text.isBlank c = false := by
  have hsign : ∀ c ∈ t.sign.text, Text.isBlank c = false := by
    cases t.sign <;> simp [Sign.text, Text.isBlank]
  exact List.forall_mem_append.2 ⟨hsign, fun c hc => (t.plain c hc).1⟩

/-- Whatever the blanks, the words are the signs with their versions. -/
theorem words_of_spells (h : Spells tokens spec) :
    Text.words (closeUp false spec) = tokens.map Token.word := by
  induction h with
  | nil after =>
    have hblanks := closeUp_blanks_append after []
    have hwords := Text.words_blanks_append after.property []
    rw [List.append_nil] at hblanks hwords
    rw [hblanks]
    show Text.words (after.val ++ []) = []
    rw [List.append_nil, hwords]
    simp [Text.words]
  | @cons before t tokens rest hrest _ ih =>
    have hne : t.word ≠ [] := List.append_ne_nil_of_right_ne_nil _ t.given
    rw [List.append_assoc, closeUp_blanks_append, closeUp_token,
      Text.words_blanks_append before.property,
      Text.words_append hne t.unblank_word (by rwa [head?_closeUp]), ih]
    rfl

/-! ## Reading -/

theorem readComparator_word (t : Token) :
    readComparator t.word = (t.sign.comparator, t.version) := by
  obtain ⟨c, version, hversion⟩ := List.exists_cons_of_ne_nil t.given
  have hc : isComparatorChar c = false := (t.plain c (by simp [hversion])).2
  simp only [isComparatorChar, Bool.or_eq_false_iff, decide_eq_false_iff_not] at hc
  unfold Token.word
  rw [hversion]
  cases t.sign with
  | atMost | atLeast | equal => rfl
  | below | above => simp [Sign.text, readComparator, hc, Sign.comparator]
  | bare => simp [Sign.text, readComparator, hc, Sign.comparator]

/-- The bounds after one more token. -/
def Token.apply (bounds : Bounds) (t : Token) : Bounds :=
  applyComparator bounds (.concrete t.version) t.sign.comparator

theorem applyTokens?_words (bounds : Bounds) (tokens : List Token) :
    applyTokens? bounds (tokens.map Token.word) = some (tokens.foldl Token.apply bounds) := by
  induction tokens generalizing bounds with
  | nil => rfl
  | cons t tokens ih =>
    rw [List.map_cons, applyTokens?, readComparator_word]
    show (if t.version = [] then none else _) = _
    rw [if_neg t.given]
    exact ih _

/-- The last of the tokens whose sign sets a side of the bounds. -/
def last? (sets : Sign → Bool) (tokens : List Token) : Option Token :=
  tokens.reverse.find? fun t => sets t.sign

/-- What the last token of each side says. -/
def lastBounds (tokens : List Token) : Bounds where
  lower := (last? Sign.setsLower tokens).map fun t => .concrete t.version
  lowerExclusive := (last? Sign.setsLower tokens).any fun t => t.sign = .above
  upper := (last? Sign.setsUpper tokens).map fun t => .concrete t.version
  upperExclusive := (last? Sign.setsUpper tokens).any fun t => t.sign = .below

theorem last?_concat (sets : Sign → Bool) (tokens : List Token) (t : Token) :
    last? sets (tokens ++ [t]) = if sets t.sign then some t else last? sets tokens := by
  unfold last?
  rw [List.reverse_concat, List.find?_cons]
  cases sets t.sign <;> rfl

/-- One more token replaces the sides that it sets and leaves the other one. -/
theorem lastBounds_concat (tokens : List Token) (t : Token) :
    lastBounds (tokens ++ [t]) = Token.apply (lastBounds tokens) t := by
  unfold lastBounds Token.apply
  rw [last?_concat, last?_concat]
  cases hsign : t.sign <;>
    simp [Sign.setsLower, Sign.setsUpper, Sign.comparator, applyComparator, Bounds.pinned, hsign]

theorem foldl_apply (tokens : List Token) : tokens.foldl Token.apply {} = lastBounds tokens := by
  induction tokens using List.reverseRecOn with
  | nil => rfl
  | append_singleton tokens t ih =>
    rw [List.foldl_append, List.foldl_cons, List.foldl_nil, ih, lastBounds_concat]

/-! ## A single star -/

/-- Nothing but a star, which stands for all versions. -/
def IsStar (tokens : List Token) : Prop :=
  ∃ t, tokens = [t] ∧ t.sign = .bare ∧ t.version = ['*']

def star : Token where
  sign := .bare
  gap := .none
  version := ['*']
  given := List.cons_ne_nil _ _
  plain := plain_of_all rfl
  tight _ := rfl

/-- A text that is a star when it is trimmed has no other token. -/
theorem isStar_of_trim (h : Spells tokens spec) (hstar : Text.trim spec = ['*']) :
    IsStar tokens := by
  obtain ⟨before, after, hspec⟩ := Text.exists_trim spec
  rw [hstar] at hspec
  have hspells : Spells [star] spec := by
    rw [hspec]
    exact .cons before star (fun c hc => after.property c (List.mem_of_mem_head? hc)) (.nil after)
  -- The words of a text do not depend on how it was put together.
  have hwords : tokens.map Token.word = [['*']] :=
    (words_of_spells h).symm.trans (words_of_spells hspells)
  obtain ⟨t, rfl, hword⟩ := List.map_eq_singleton_iff.1 hwords
  refine ⟨t, rfl, ?_⟩
  unfold Token.word at hword
  cases hsign : t.sign with
  | bare => exact ⟨rfl, by simpa [hsign, Sign.text] using hword⟩
  | atMost | below | atLeast | above | equal => simp [hsign, Sign.text] at hword

/-! ## The bounds of a list -/

/-- A list of comparators, however it is spaced, has the lower bound of the last one that sets a
lower bound and the upper bound of the last one that sets an upper bound. -/
theorem last_comparator_counts (h : Spells tokens spec) (hstar : ¬ IsStar tokens)
    (library : Text) : comparators library spec = .ok
      { ecosystem := .npm
        library
        descriptor := spec
        bounds := lastBounds tokens
        floating := true } := by
  have htrim : Text.trim spec ≠ ['*'] := mt (isStar_of_trim h) hstar
  rw [comparators, if_neg htrim, words_of_spells h, applyTokens?_words, foldl_apply]

/-- Two lower and two upper comparators: `>1.0`, `>= 1.5`, `<3.0` and `<=` with a wide blank before
its version. -/
def fourTokens : List Token := [
  ⟨.above, .none, "1.0", List.cons_ne_nil _ _, plain_of_all rfl, nofun⟩,
  ⟨.atLeast, .space, "1.5", List.cons_ne_nil _ _, plain_of_all rfl, nofun⟩,
  ⟨.below, .none, "3.0", List.cons_ne_nil _ _, plain_of_all rfl, nofun⟩,
  ⟨.atMost, .of ['\u3000'] rfl, "2.0", List.cons_ne_nil _ _, plain_of_all rfl, nofun⟩]

/-- The first comparator of each side is forgotten, and with it that its version is out. -/
theorem sample_last_comparator_counts :
    Spells fourTokens " >1.0 >= 1.5\t <3.0 <=\u30002.0" ∧ ¬ IsStar fourTokens ∧
    comparators "ms" " >1.0 >= 1.5\t <3.0 <=\u30002.0" = .ok
      { ecosystem := .npm
        library := "ms"
        descriptor := " >1.0 >= 1.5\t <3.0 <=\u30002.0"
        bounds := { lower := some (.concrete "1.5"), upper := some (.concrete "2.0") }
        floating := true } := by
  have hspells : Spells fourTokens " >1.0 >= 1.5\t <3.0 <=\u30002.0" :=
    .cons .space fourTokens[0] (fun _ hc => by cases hc; rfl) <|
    .cons .space fourTokens[1] (fun _ hc => by cases hc; rfl) <|
    .cons (.of ['\t', ' '] rfl) fourTokens[2] (fun _ hc => by cases hc; rfl) <|
    .cons .space fourTokens[3] nofun <| .nil .none
  have hstar : ¬ IsStar fourTokens := by
    rintro ⟨t, htokens, -⟩
    simp [fourTokens] at htokens
  exact ⟨hspells, hstar, last_comparator_counts hspells hstar "ms"⟩

end Range

end UpgradeGraph
