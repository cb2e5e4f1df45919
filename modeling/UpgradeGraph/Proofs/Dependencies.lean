import UpgradeGraph.Phase.Crawl
import UpgradeGraph.Proofs.Json.RoundTrip
import UpgradeGraph.Proofs.Phase.Resolve

/-!
# Declarations stored and read back

A release is stored with what it declares written as JSON, and nothing in the JSON says which
of the two shapes that has. It is read as what it was (`Declared.decode_encode`): a mapping is
written as an object, and an object is never taken for a list of records, whatever its keys
are; records are written as an array, and an array is never taken for a mapping.

Of what is written nothing is trimmed off, since it ends in brackets, and only what declares
nothing is one of the payloads that are passed over (`Declared.isEmpty_iff_mem`). So the
packages that a crawl stores are resolved by just the declarations that they were published
with (`Crawl.declarations_survive`).
-/

namespace UpgradeGraph

namespace Json

/-! ## Objects of strings -/

/-- An object all of whose values are strings. -/
def stringsTree (members : List (Text × Text)) : Tree :=
  .object (members.map fun member => (pieces member.1, .string (pieces member.2)))

theorem reads_strings (members : List (Text × Text)) :
    Reads (writeObject (members.map fun member => (member.1, writeString member.2)))
      (stringsTree members) :=
  reads_object fun member _ => reads_string member.2

theorem isReadable_strings {depth : Nat} (h : 0 < depth) (members : List (Text × Text)) :
    (stringsTree members).isReadable depth = true := by
  have hmembers : ∀ depth, membersReadable depth
      (members.map fun member => (pieces member.1, .string (pieces member.2))) = true := by
    intro depth
    induction members with
    | nil => rfl
    | cons member members ih => simp [membersReadable, Tree.isReadable, characters?_pieces, ih]
  simp [stringsTree, Tree.isReadable, h, hmembers]

/-- What is turned back item by item is turned back as a list. -/
theorem mapM_map_eq_some {α β : Type} {f : β → Option α} {g : α → β} {items : List α}
    (h : ∀ a ∈ items, f (g a) = some a) : (items.map g).mapM f = some items := by
  induction items with
  | nil => rfl
  | cons a items ih =>
    rw [List.map_cons, List.mapM_cons, h a List.mem_cons_self,
      ih fun b hb => h b (List.mem_cons_of_mem a hb)]
    rfl

/-- Keys that differ are entered in their order. -/
theorem entries_strings {depth : Nat} (h : 0 < depth) {members : List (Text × Text)}
    (hdistinct : (members.map Prod.fst).Nodup) :
    Decoder.entries .text depth (stringsTree members) = some members := by
  simp only [Decoder.entries, stringsTree, Nat.pos_iff_ne_zero.1 h, if_false]
  rw [mapM_map_eq_some]
  · simp [Entries.ofList_of_nodup hdistinct]
  · intro member _
    simp [characters?_pieces, Decoder.text]

end Json

namespace Declared

open Json

/-- The members of a record. -/
def fields (r : GroupedDependency) : List (Text × Text) :=
  [("package_id", r.packageId), ("version_range", r.versionRange),
    ("dependency_group_id", r.groupId)]

/-- What stored declarations are read as. -/
def tree : Declared → Tree
  | mapping entries => stringsTree entries
  | records list => .array (list.map fun r => stringsTree (fields r))

theorem reads_encode (d : Declared) : Reads d.encode d.tree := by
  cases d with
  | mapping entries => exact reads_strings entries
  | records list => exact reads_array fun r _ => reads_strings (fields r)

theorem isReadable_tree (d : Declared) : d.tree.isReadable maxDepth = true := by
  cases d with
  | mapping entries => exact isReadable_strings (by decide) entries
  | records list =>
    have hitems : areReadable 126 (list.map fun r => stringsTree (fields r)) = true := by
      induction list with
      | nil => rfl
      | cons r list ih => simp [areReadable, isReadable_strings, ih]
    simp [tree, Tree.isReadable, hitems, maxDepth]

/-- No library is mapped twice. -/
def Distinct : Declared → Prop
  | mapping entries => (entries.map Prod.fst).Nodup
  | records _ => True

instance : DecidablePred Distinct
  | mapping entries => inferInstanceAs (Decidable (entries.map Prod.fst).Nodup)
  | records _ => inferInstanceAs (Decidable True)

/-- The fields of a record are found under their names. -/
theorem ofTree_fields {depth : Nat} (h : 0 < depth) (r : GroupedDependency) :
    Fields.ofTree ["package_id", "version_range", "dependency_group_id"] depth
        (stringsTree (fields r)) =
      some ⟨true, [some (.string (pieces r.packageId)), some (.string (pieces r.versionRange)),
        some (.string (pieces r.groupId))], depth - 1⟩ := by
  simp only [Fields.ofTree, stringsTree, Nat.pos_iff_ne_zero.1 h, if_false]
  simp [fields, characters?_pieces]
  rfl

theorem recordDecoder_fields {depth : Nat} (h : 0 < depth) (r : GroupedDependency) :
    recordDecoder depth (stringsTree (fields r)) = some r := by
  rw [recordDecoder, Decoder.record, ofTree_fields h]
  simp [Fields.required, Fields.withDefault, Decoder.text, characters?_pieces]

theorem decoder_tree {d : Declared} (h : d.Distinct) : decoder maxDepth d.tree = some d := by
  cases d with
  | mapping entries => simp [decoder, tree, entries_strings (by decide : 0 < maxDepth) h]
  | records list =>
    have hitems : (list.map fun r => stringsTree (fields r)).mapM (recordDecoder 126) =
        some list := mapM_map_eq_some fun r _ => recordDecoder_fields (by decide) r
    simp [decoder, tree, Decoder.entries, Decoder.list, maxDepth, hitems]

theorem decode_encode {d : Declared} (h : d.Distinct) : decode d.encode = .ok d := by
  have hskip : skipBlanks [] = [] := rfl
  simp [decode, d.reads_encode.read, isReadable_tree, decoder_tree h, hskip]

/-! ## Payloads that are passed over -/

theorem trim_encode (d : Declared) : Text.trim d.encode = d.encode := by
  cases d with
  | mapping entries =>
    refine Text.trim_eq_self (fun c hc => ?_) fun c hc => ?_
    · cases hc
      rfl
    · rw [encode, writeObject, List.getLast?_concat] at hc
      cases hc
      rfl
  | records list =>
    refine Text.trim_eq_self (fun c hc => ?_) fun c hc => ?_
    · cases hc
      rfl
    · rw [encode, writeArray, List.getLast?_concat] at hc
      cases hc
      rfl

/-- The payloads that are passed over are those that declare nothing. -/
theorem mem_emptyPayloads_iff (d : Declared) : d.encode ∈ emptyPayloads ↔ d.isEmpty = true := by
  cases d with
  | mapping entries =>
    cases entries with
    | nil => decide
    | cons entry entries =>
      have hfirst : ∃ rest, (mapping (entry :: entries)).encode = '\x7b' :: '"' :: rest := by
        simp only [encode, writeObject, List.map_cons, Text.intercalate_cons]
        exact ⟨_, rfl⟩
      obtain ⟨rest, hfirst⟩ := hfirst
      simp [hfirst, emptyPayloads, isEmpty]
  | records list =>
    cases list with
    | nil => decide
    | cons r list =>
      have hfirst : ∃ rest, (records (r :: list)).encode = '[' :: '\x7b' :: rest := by
        simp only [encode, writeArray, List.map_cons, Text.intercalate_cons]
        exact ⟨_, rfl⟩
      obtain ⟨rest, hfirst⟩ := hfirst
      simp [hfirst, emptyPayloads, isEmpty]

theorem ofPayload_encode {d : Declared} (h : d.Distinct) : ofPayload d.encode = .ok d.pairs := by
  by_cases hempty : d.isEmpty = true
  · have hpairs : d.pairs = [] := by
      cases d <;> simp_all [isEmpty, pairs]
    simp [ofPayload, trim_encode, (mem_emptyPayloads_iff d).2 hempty, hpairs]
  · have hfull : d.encode ∉ emptyPayloads := mt (mem_emptyPayloads_iff d).1 hempty
    simp [ofPayload, trim_encode, hfull, decode_encode h, Except.map]

end Declared

namespace Crawl

/-- The package that a release is stored as. -/
def packageOf (ecosystem : Ecosystem) (library : Text) (r : Release) : Package :=
  (publicationOf ecosystem library r).package

/-- A release is stored as a package whose payload reads as what the release declares. So the
package is passed over only if nothing is declared, and otherwise is resolved by its
declarations, in their order. -/
theorem declarations_survive (ecosystem : Ecosystem) (library : Text) (r : Release)
    (h : r.dependencies.Distinct) :
    (∃ settle : Tally → Except StoreError UpsertOutcome → Crawler Tally, ∀ tally,
      storeRelease ecosystem library tally r =
        ask (.store (publicationOf ecosystem library r)) >>= settle tally) ∧
    Declared.decode (packageOf ecosystem library r).dependencies = .ok r.dependencies ∧
    Declared.ofPayload (packageOf ecosystem library r).dependencies = .ok r.dependencies.pairs ∧
    (Text.trim (packageOf ecosystem library r).dependencies ∈ Declared.emptyPayloads ↔
      r.dependencies.isEmpty = true) ∧
    ∀ (relink : Bool) (row : Row Package), row.node = packageOf ecosystem library r →
      Resolve.package ecosystem relink row.record = r.dependencies.pairs.forM fun pair =>
        Resolve.dependency ecosystem relink row.node.coordinate pair.1 pair.2 := by
  have hpayload : (packageOf ecosystem library r).dependencies = r.dependencies.encode := rfl
  refine ⟨⟨_, fun _ => rfl⟩, Declared.decode_encode h, Declared.ofPayload_encode h, ?_, ?_⟩
  · rw [hpayload, Declared.trim_encode, Declared.mem_emptyPayloads_iff]
  · intro relink row hrow
    have hpayload : Declared.ofPayload row.record.dependencies = .ok r.dependencies.pairs := by
      rw [Row.record, hrow]
      exact Declared.ofPayload_encode h
    exact Resolve.package_of_ok hpayload

end Crawl

/-- A release whose declarations look like a record, and are full of what has to be escaped. -/
def Sample.recordLike : Release where
  version := "1.0.0"
  publishedAt := none
  dependencies := .mapping [("package_id", ['"', '\\', '\n', Char.ofNat 1]),
    ("version_range", [Char.ofNat 0x1F600]), ([], [])]

/-- The mapping that looks like a record stays a mapping. -/
theorem Crawl.sample_declarations_survive :
    Sample.recordLike.dependencies.Distinct ∧
    Declared.decode (packageOf .npm "ms" Sample.recordLike).dependencies =
      .ok Sample.recordLike.dependencies ∧
    Declared.ofPayload (packageOf .npm "ms" Sample.recordLike).dependencies =
      .ok [("package_id", ['"', '\\', '\n', Char.ofNat 1]),
        ("version_range", [Char.ofNat 0x1F600]), ([], [])] := by
  have hdistinct : Sample.recordLike.dependencies.Distinct := by decide
  have hsurvive := declarations_survive .npm "ms" Sample.recordLike hdistinct
  exact ⟨hdistinct, hsurvive.2.1, hsurvive.2.2.1⟩

end UpgradeGraph
