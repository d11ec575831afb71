import WalletPolicy.Settings.Load
import WalletPolicy.Proofs.Results

namespace WalletPolicy.Toml

theorem mem_of_lookup {Value : Type} {entries : List (String × Value)} {key : String}
    {value : Value} (found : entries.lookup key = some value) : (key, value) ∈ entries := by
  obtain ⟨before, after, rfl, -⟩ := List.lookup_eq_some_iff.1 found
  simp

theorem lookup_of_mem {Value : Type} {entries : List (String × Value)}
    (distinct : (entries.map Prod.fst).Nodup) {entry : String × Value} (member : entry ∈ entries) :
    entries.lookup entry.1 = some entry.2 := by
  induction entries with
  | nil => cases member
  | cons first rest ih =>
      rw [List.map_cons, List.nodup_cons] at distinct
      rw [List.lookup_cons]
      cases member with
      | head => rw [beq_self_eq_true]
      | tail _ later =>
          have differs : entry.1 ≠ first.1 := by
            intro same
            exact distinct.1 (same ▸ List.mem_map_of_mem later)
          rw [beq_false_of_ne differs]
          exact ih distinct.2 later

/-- No table that a path leads to has a key twice. No path leads into an array. -/
inductive Tidy : Toml → Prop
  | leaf {tree : Toml} (isLeaf : tree.isTable = false) : Tidy tree
  | table {entries : List (String × Toml)} (distinct : (entries.map Prod.fst).Nodup)
      (each : ∀ entry ∈ entries, Tidy entry.2) : Tidy (.table entries)

inductive Entry.Tidy : Entry → Prop
  | value {value : Toml} (tidy : value.Tidy) : Tidy (.value value)
  | table {origin : Origin} {entries : Entries} (distinct : (entries.map Prod.fst).Nodup)
      (each : ∀ entry ∈ entries, Tidy entry.2) : Tidy (.table origin entries)
  | tables {elements : List Entries} : Tidy (.tables elements)

/-! ## Tables under construction -/

namespace Entries

structure Tidy (entries : Entries) : Prop where
  distinct : (entries.map Prod.fst).Nodup
  each : ∀ entry ∈ entries, entry.2.Tidy

variable {entries changed : Entries} {key : String} {entry : Entry} {origin : Origin}
  {path : List String}

theorem tidy_nil : Tidy [] := ⟨List.nodup_nil, fun _ member => nomatch member⟩

theorem Tidy.toEntry (tidy : entries.Tidy) (origin : Origin) :
    (Entry.table origin entries).Tidy :=
  .table tidy.distinct tidy.each

theorem Tidy.ofEntry (tidy : (Entry.table origin entries).Tidy) : entries.Tidy := by
  cases tidy with
  | table distinct each => exact ⟨distinct, each⟩

theorem mem_put {other : String × Entry} (member : other ∈ entries.put key entry) :
    other = (key, entry) ∨ other ∈ entries := by
  induction entries with
  | nil => exact .inl (List.mem_singleton.1 member)
  | cons first rest ih =>
      rw [put] at member
      split at member
      · cases member with
        | head => exact .inl rfl
        | tail _ later => exact .inr (List.mem_cons_of_mem _ later)
      · cases member with
        | head => exact .inr List.mem_cons_self
        | tail _ later => exact (ih later).imp_right (List.mem_cons_of_mem _)

theorem nodup_put (distinct : (entries.map Prod.fst).Nodup) :
    ((entries.put key entry).map Prod.fst).Nodup := by
  induction entries with
  | nil => simp [put]
  | cons first rest ih =>
      rw [List.map_cons, List.nodup_cons] at distinct
      rw [put]
      split
      · rename_i same
        rw [List.map_cons, List.nodup_cons]
        exact ⟨same ▸ distinct.1, distinct.2⟩
      · rename_i differs
        rw [List.map_cons, List.nodup_cons]
        refine ⟨fun repeated => ?_, ih distinct.2⟩
        obtain ⟨other, member, same⟩ := List.mem_map.1 repeated
        cases mem_put member with
        | inl new => exact differs (by rw [← same, new])
        | inr old => exact distinct.1 (List.mem_map.2 ⟨other, old, same⟩)

theorem Tidy.put (tidy : entries.Tidy) (given : entry.Tidy) : (entries.put key entry).Tidy := by
  refine ⟨nodup_put tidy.distinct, fun other member => ?_⟩
  cases mem_put member with
  | inl new => exact new ▸ given
  | inr old => exact tidy.each other old

theorem Tidy.modifyAt {byKey : Bool} {change : Origin → Entries → Option Entries}
    (keeps : ∀ origin entries changed, Tidy entries → change origin entries = some changed →
      Tidy changed)
    (tidy : entries.Tidy) (done : modifyAt byKey change origin path entries = some changed) :
    changed.Tidy := by
  induction path generalizing origin entries changed with
  | nil => exact keeps origin entries changed tidy done
  | cons key path ih =>
      rw [Entries.modifyAt] at done
      split at done
      · obtain ⟨inner, made, put⟩ := Option.bind_eq_some_iff.1 done
        cases put
        exact tidy.put ((ih tidy_nil made).toEntry _)
      · cases done
      · rename_i found
        split at done
        · cases done
        · obtain ⟨inner, made, put⟩ := Option.bind_eq_some_iff.1 done
          cases put
          have below : Tidy _ := .ofEntry (tidy.each _ (mem_of_lookup found))
          exact tidy.put ((ih below made).toEntry _)
      · split at done
        · cases done
        · obtain ⟨last, -, put⟩ := Option.bind_eq_some_iff.1 done
          cases put
          exact tidy.put .tables

theorem Tidy.assign {value : Toml} (tidy : entries.Tidy) (given : value.Tidy)
    (done : entries.assign origin path key value = some changed) : changed.Tidy := by
  apply tidy.modifyAt _ done
  intro inner entries changed tidy done
  split at done
  · cases done
  · split at done
    · cases done
    · cases done
      exact tidy.put (.value given)

theorem Tidy.openTable (tidy : entries.Tidy) (done : entries.openTable key = some changed) :
    changed.Tidy := by
  unfold Entries.openTable at done
  split at done
  · cases done
    exact tidy.put (tidy_nil.toEntry _)
  · rename_i inner found
    cases done
    have kept : (entries.filter fun entry => entry.1 != key).Sublist entries := List.filter_sublist
    have below : Tidy inner := .ofEntry (tidy.each _ (mem_of_lookup found))
    constructor
    · rw [List.map_append, List.nodup_append]
      refine ⟨tidy.distinct.sublist (kept.map _), by simp, ?_⟩
      intro other member
      obtain ⟨entry, remains, rfl⟩ := List.mem_map.1 member
      simpa using (List.mem_filter.1 remains).2
    · intro entry member
      cases List.mem_append.1 member with
      | inl old => exact tidy.each entry (kept.subset old)
      | inr new => exact List.mem_singleton.1 new ▸ below.toEntry _
  · cases done

theorem Tidy.openElement (tidy : entries.Tidy) (done : entries.openElement key = some changed) :
    changed.Tidy := by
  unfold Entries.openElement at done
  split at done
  · cases done
    exact tidy.put .tables
  · cases done
    exact tidy.put .tables
  · cases done

end Entries

theorem finishEntries_eq_map (entries : Entries) :
    finishEntries entries = entries.map fun entry => (entry.1, entry.2.finish) := by
  induction entries with
  | nil => rfl
  | cons entry rest ih => rw [finishEntries, List.map_cons, ih]

theorem Entry.Tidy.finish {entry : Entry} (tidy : entry.Tidy) : entry.finish.Tidy := by
  induction tidy with
  | value tidy => exact tidy
  | table distinct each ih =>
      rw [Entry.finish, finishEntries_eq_map]
      apply Toml.Tidy.table
      · rwa [List.map_map]
      · intro entry member
        obtain ⟨unfinished, known, rfl⟩ := List.mem_map.1 member
        exact ih unfinished known
  | tables => exact .leaf rfl

theorem Entries.Tidy.finish {entries : Entries} (tidy : entries.Tidy) :
    Toml.Tidy (.table (finishEntries entries)) :=
  (tidy.toEntry .header).finish

/-! ## Values -/

section Values

variable {input rest word : List Char} {given : Toml}

theorem isTable_eq_false_of_boundedInteger {n : Int} (read : boundedInteger n = some given) :
    given.isTable = false := by
  unfold boundedInteger at read
  split at read
  · cases read
    rfl
  · cases read

theorem isTable_eq_false_of_integerWord (read : integerWord word = some given) :
    given.isTable = false := by
  unfold integerWord basedInteger at read
  repeat' split at read
  all_goals first
    | exact isTable_eq_false_of_boundedInteger read
    | cases read

theorem isTable_eq_false_of_decimalWord (read : decimalWord word = some given) :
    given.isTable = false := by
  unfold decimalWord at read
  split at read
  dsimp only at read
  split at read
  · cases read
    rfl
  · split at read
    · cases read
    · cases read
    · obtain ⟨fraction, -, read⟩ := Option.bind_eq_some_iff.1 read
      obtain ⟨exponent, -, read⟩ := Option.bind_eq_some_iff.1 read
      split at read
      · cases read
        rfl
      · cases read
    · obtain ⟨exponent, -, read⟩ := Option.bind_eq_some_iff.1 read
      split at read
      · cases read
        rfl
      · cases read

theorem isTable_eq_false_of_scalarWord (read : scalarWord word = some given) :
    given.isTable = false := by
  unfold scalarWord at read
  repeat' split at read
  · cases read
    rfl
  · cases read
    rfl
  · cases read
    rfl
  · cases read
    rename_i read
    exact isTable_eq_false_of_decimalWord read
  · exact isTable_eq_false_of_integerWord read

theorem isTable_eq_false_of_unquoted (read : unquoted input = some (given, rest)) :
    given.isTable = false := by
  unfold unquoted at read
  dsimp only at read
  split at read
  · split at read
    · obtain ⟨scalar, word, read⟩ := Option.bind_eq_some_iff.1 read
      cases read
      exact isTable_eq_false_of_scalarWord word
    · obtain ⟨scalar, word, read⟩ := Option.bind_eq_some_iff.1 read
      cases read
      exact isTable_eq_false_of_scalarWord word
  · obtain ⟨scalar, word, read⟩ := Option.bind_eq_some_iff.1 read
    cases read
    exact isTable_eq_false_of_scalarWord word

theorem isTable_eq_false_of_scalar (read : scalar input = some (given, rest)) :
    given.isTable = false := by
  unfold scalar at read
  split at read
  · cases read
  · split at read
    · obtain ⟨written, -, read⟩ := Option.bind_eq_some_iff.1 read
      cases read
      rfl
    · exact isTable_eq_false_of_unquoted read

theorem tidy_inlineEntries {item : List Char → Option (Toml × List Char)}
    (each : ∀ input given rest, item input = some (given, rest) → given.Tidy) {fuel : Nat}
    {entries changed : Entries} (tidy : entries.Tidy)
    (read : inlineEntries item fuel entries input = some (changed, rest)) : changed.Tidy := by
  induction fuel generalizing entries input with
  | zero => cases read
  | succ fuel ih =>
      obtain ⟨⟨dotted, afterKey⟩, -, read⟩ := Option.bind_eq_some_iff.1 read
      obtain ⟨⟨given, afterValue⟩, itemRead, read⟩ := Option.bind_eq_some_iff.1 read
      obtain ⟨extended, assigned, read⟩ := Option.bind_eq_some_iff.1 read
      have tidy : extended.Tidy := tidy.assign (each _ _ _ itemRead) assigned
      split at read
      · exact ih tidy read
      · cases read
        exact tidy
      · cases read

theorem tidy_value {depth : Nat} (read : value depth input = some (given, rest)) :
    given.Tidy := by
  induction depth generalizing input given rest with
  | zero => exact .leaf (isTable_eq_false_of_scalar read)
  | succ depth ih =>
      unfold value at read
      split at read
      · obtain ⟨⟨items, afterItems⟩, -, read⟩ := Option.bind_eq_some_iff.1 read
        cases read
        exact .leaf rfl
      · split at read
        · cases read
          exact Entries.tidy_nil.finish
        · obtain ⟨⟨entries, afterEntries⟩, inside, read⟩ := Option.bind_eq_some_iff.1 read
          cases read
          exact (tidy_inlineEntries (fun _ _ _ => ih) Entries.tidy_nil inside).finish
      · exact .leaf (isTable_eq_false_of_scalar read)

end Values

/-! ## Documents -/

namespace Document

variable {document changed : Document} {input rest : List Char}

theorem tidy_assign {path : List String} {key : String} {value : Toml}
    (tidy : document.root.Tidy) (given : value.Tidy)
    (done : document.assign path key value = some changed) : changed.root.Tidy := by
  obtain ⟨root, modified, done⟩ := Option.bind_eq_some_iff.1 done
  cases done
  exact tidy.modifyAt (fun _ _ _ tidy done => tidy.assign given done) modified

theorem tidy_enter {isRepeated : Bool} {path : List String} {key : String}
    (tidy : document.root.Tidy) (done : document.enter isRepeated path key = some changed) :
    changed.root.Tidy := by
  obtain ⟨root, modified, done⟩ := Option.bind_eq_some_iff.1 done
  cases done
  refine tidy.modifyAt (fun _ _ _ tidy done => ?_) modified
  cases isRepeated with
  | true => exact tidy.openElement done
  | false => exact tidy.openTable done

theorem tidy_header (tidy : document.root.Tidy)
    (read : header document input = some (changed, rest)) : changed.root.Tidy := by
  unfold header at read
  split at read
  · obtain ⟨dotted, -, read⟩ := Option.bind_eq_some_iff.1 read
    dsimp only at read
    split at read
    · obtain ⟨entered, done, read⟩ := Option.bind_eq_some_iff.1 read
      cases read
      exact tidy_enter tidy done
    · cases read
  · obtain ⟨dotted, -, read⟩ := Option.bind_eq_some_iff.1 read
    dsimp only at read
    split at read
    · obtain ⟨entered, done, read⟩ := Option.bind_eq_some_iff.1 read
      cases read
      exact tidy_enter tidy done
    · cases read

theorem tidy_statement (tidy : document.root.Tidy)
    (read : statement document input = some (changed, rest)) : changed.root.Tidy := by
  unfold statement at read
  split at read
  · cases read
    exact tidy
  · cases read
    exact tidy
  · exact tidy_header tidy read
  · split at read
    · cases read
      exact tidy
    · obtain ⟨⟨dotted, afterKey⟩, -, read⟩ := Option.bind_eq_some_iff.1 read
      obtain ⟨⟨given, afterValue⟩, valueRead, read⟩ := Option.bind_eq_some_iff.1 read
      obtain ⟨assigned, done, read⟩ := Option.bind_eq_some_iff.1 read
      cases read
      exact tidy_assign tidy (tidy_value valueRead) done

theorem tidy_statements {fuel : Nat} (tidy : document.root.Tidy)
    (read : statements fuel document input = some changed) : changed.root.Tidy := by
  induction fuel generalizing document input with
  | zero => cases read
  | succ fuel ih =>
      obtain ⟨⟨next, afterStatement⟩, stated, read⟩ := Option.bind_eq_some_iff.1 read
      obtain ⟨afterComment, -, read⟩ := Option.bind_eq_some_iff.1 read
      have tidy : next.root.Tidy := tidy_statement tidy stated
      split at read
      · cases read
        exact tidy
      · exact ih tidy read
      · cases read

end Document

theorem tidy_parse {written : String} {tree : Toml} (read : parse written = some tree) :
    tree.Tidy := by
  obtain ⟨document, stated, rfl⟩ := Option.map_eq_some_iff.1 read
  exact (Document.tidy_statements Entries.tidy_nil stated).finish

/-! ## Marked dates -/

theorem keys_entriesWithMarkedMoments {entries changed : List (String × Toml)}
    (done : entriesWithMarkedMoments? entries = some changed) :
    changed.map Prod.fst = entries.map Prod.fst := by
  induction entries generalizing changed with
  | nil => cases done; rfl
  | cons entry rest ih =>
      obtain ⟨value, -, done⟩ := Option.bind_eq_some_iff.1 done
      obtain ⟨others, more, done⟩ := Option.bind_eq_some_iff.1 done
      cases done
      rw [List.map_cons, List.map_cons, ih more]

theorem exists_of_mem_entriesWithMarkedMoments {entries changed : List (String × Toml)}
    (done : entriesWithMarkedMoments? entries = some changed) {entry : String × Toml}
    (member : entry ∈ changed) :
    ∃ given ∈ entries, given.2.withMarkedMoments? = some entry.2 := by
  induction entries generalizing changed with
  | nil => cases done; cases member
  | cons first rest ih =>
      obtain ⟨value, made, done⟩ := Option.bind_eq_some_iff.1 done
      obtain ⟨others, more, done⟩ := Option.bind_eq_some_iff.1 done
      cases done
      cases member with
      | head => exact ⟨first, List.mem_cons_self, made⟩
      | tail _ later =>
          obtain ⟨given, known, made⟩ := ih more later
          exact ⟨given, List.mem_cons_of_mem _ known, made⟩

theorem Tidy.withMarkedMoments {tree changed : Toml} (tidy : tree.Tidy)
    (done : tree.withMarkedMoments? = some changed) : changed.Tidy := by
  induction tidy generalizing changed with
  | @leaf tree isLeaf =>
      cases tree with
      | table entries => cases isLeaf
      | array items =>
          obtain ⟨changedItems, -, rfl⟩ := Option.map_eq_some_iff.1 done
          exact .leaf rfl
      | _ => cases done; exact .leaf rfl
  | @table entries distinct each ih =>
      rw [withMarkedMoments?] at done
      split at done
      · obtain ⟨moment, -, rfl⟩ := Option.map_eq_some_iff.1 done
        exact .leaf rfl
      · obtain ⟨changedEntries, all, rfl⟩ := Option.map_eq_some_iff.1 done
        apply Tidy.table
        · rwa [keys_entriesWithMarkedMoments all]
        · intro entry member
          obtain ⟨given, known, made⟩ := exists_of_mem_entriesWithMarkedMoments all member
          exact ih given known made

end WalletPolicy.Toml

namespace WalletPolicy

theorem SettingsFile.tidy_tree? {file : SettingsFile} {tree : Toml}
    (read : file.tree? = .ok (some tree)) : tree.Tidy := by
  unfold tree? at read
  split at read
  · cases read
  · cases read
  · split at read
    · cases read
    · obtain ⟨given, read, same⟩ := map_eq_ok_iff.1 read
      cases same
      unfold treeOf at read
      split at read
      · cases read
      · split at read
        · rename_i marked
          cases read
          obtain ⟨parsed, parses, done⟩ := Option.bind_eq_some_iff.1 marked
          exact (Toml.tidy_parse parses).withMarkedMoments done
        · cases read

theorem SettingsFile.tidy_tree {file : SettingsFile} {tree : Toml} (read : file.tree = .ok tree) :
    tree.Tidy := by
  obtain ⟨given, found, read⟩ := bind_eq_ok_iff.1 read
  cases given with
  | none => cases read
  | some => cases read; exact tidy_tree? found

end WalletPolicy
