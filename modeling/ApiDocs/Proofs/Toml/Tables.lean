import ApiDocs.Proofs.Dict
import ApiDocs.Toml.Reader

/-!
# Sorted tables of a document

However a document is laid out, each of its tables holds its entries in the order of their keys,
every key once: lines and assignments only ever insert into tables that are sorted already.
-/

namespace ApiDocs.Toml

/-- Whether a table and the tables inside it are sorted by key. -/
inductive Value.Tidy : Value → Prop
  | table {entries : Entries} (ordered : Dict.Ordered entries)
      (inner : ∀ entry ∈ entries, Tidy entry.2) : Tidy (.table entries)
  | other {value : Value} (h : ∀ entries, value ≠ .table entries) : Tidy value

/-- Whether what stands under a key will be sorted. An array of tables is no table. -/
inductive Node.Tidy : Node → Prop
  | value {v : Value} (h : v.Tidy) : Tidy (.value v)
  | table {standing : Standing} {nodes : Nodes} (ordered : Dict.Ordered nodes)
      (inner : ∀ entry ∈ nodes, Tidy entry.2) : Tidy (.table standing nodes)
  | tables {earlier : List Nodes} {latest : Nodes} : Tidy (.tables earlier latest)

namespace Nodes

/-- Whether the nodes of a table are sorted, and those inside them. -/
structure Tidy (nodes : Nodes) : Prop where
  ordered : Dict.Ordered nodes
  inner : ∀ entry ∈ nodes, entry.2.Tidy

theorem tidy_nil : Tidy [] :=
  ⟨List.Pairwise.nil, fun _ h => absurd h List.not_mem_nil⟩

variable {nodes made : Nodes}

theorem Tidy.node (h : nodes.Tidy) (standing : Standing) : (Node.table standing nodes).Tidy :=
  .table h.ordered h.inner

theorem Tidy.insert (h : nodes.Tidy) (key : String) {node : Node} (hn : node.Tidy) :
    Tidy (Dict.insert key node nodes) := by
  refine ⟨h.ordered.insert key node, fun entry hm => ?_⟩
  rcases Dict.mem_insert hm with rfl | hm
  · exact hn
  · exact h.inner entry hm

/-- A table among the nodes is sorted too. -/
theorem Tidy.below (h : nodes.Tidy) {key : String} {standing : Standing} {inner : Nodes}
    (hg : Dict.get? key nodes = some (.table standing inner)) : inner.Tidy := by
  cases h.inner _ (Dict.mem_of_get? hg) with
  | table ordered inner => exact ⟨ordered, inner⟩

theorem Tidy.assign? (h : nodes.Tidy) {name : String} {value : Value} (hv : value.Tidy)
    {path : List String} (hm : assign? name value path nodes = some made) : made.Tidy := by
  induction path generalizing nodes made with
  | nil =>
    rw [Nodes.assign?, put?] at hm
    split at hm
    · cases hm
      exact h.insert name (.value hv)
    · cases hm
  | cons key path ih =>
    rw [Nodes.assign?] at hm
    split at hm
    · obtain ⟨inner, hi, rfl⟩ := Option.map_eq_some_iff.mp hm
      exact h.insert key ((ih tidy_nil hi).node _)
    · rename_i hg
      split_ifs at hm
      obtain ⟨inner, hi, rfl⟩ := Option.map_eq_some_iff.mp hm
      exact h.insert key ((ih (h.below hg) hi).node _)
    · split_ifs at hm
      obtain ⟨latest, -, rfl⟩ := Option.map_eq_some_iff.mp hm
      exact h.insert key .tables
    · cases hm

theorem Tidy.within? {change : Nodes → Option Nodes}
    (hc : ∀ nodes made : Nodes, nodes.Tidy → change nodes = some made → made.Tidy)
    {path : List String} (h : nodes.Tidy) (hm : within? change path nodes = some made) :
    made.Tidy := by
  induction path generalizing nodes made with
  | nil => exact hc nodes made h hm
  | cons key path ih =>
    rw [Nodes.within?] at hm
    split at hm
    · obtain ⟨inner, hi, rfl⟩ := Option.map_eq_some_iff.mp hm
      exact h.insert key ((ih tidy_nil hi).node _)
    · rename_i hg
      obtain ⟨inner, hi, rfl⟩ := Option.map_eq_some_iff.mp hm
      exact h.insert key ((ih (h.below hg) hi).node _)
    · obtain ⟨latest, -, rfl⟩ := Option.map_eq_some_iff.mp hm
      exact h.insert key .tables
    · cases hm

theorem Tidy.openTable? (h : nodes.Tidy) {name : String}
    (hm : openTable? name nodes = some made) : made.Tidy := by
  rw [Nodes.openTable?] at hm
  split at hm
  · cases hm
    exact h.insert name (tidy_nil.node _)
  · rename_i hg
    cases hm
    exact h.insert name ((h.below hg).node _)
  · cases hm

theorem Tidy.addTable? (h : nodes.Tidy) {name : String}
    (hm : addTable? name nodes = some made) : made.Tidy := by
  rw [Nodes.addTable?] at hm
  split at hm
  · cases hm
    exact h.insert name .tables
  · cases hm
    exact h.insert name .tables
  · cases hm

theorem Tidy.ofAssignments? {assignments : List (KeyPath × Value)}
    (ha : ∀ assignment ∈ assignments, assignment.2.Tidy) (h : nodes.Tidy)
    (hm : ofAssignments? assignments nodes = some made) : made.Tidy := by
  induction assignments generalizing nodes with
  | nil =>
    cases hm
    exact h
  | cons assignment rest ih =>
    rw [List.forall_mem_cons] at ha
    rw [Nodes.ofAssignments?] at hm
    obtain ⟨next, hn, hm⟩ := Option.bind_eq_some_iff.mp hm
    exact ih ha.2 (h.assign? ha.1 hn) hm

end Nodes

theorem finishedEntries_eq_map (nodes : Nodes) :
    finishedEntries nodes = nodes.map fun entry => (entry.1, entry.2.finished) := by
  induction nodes with
  | nil => rfl
  | cons entry rest ih => rw [finishedEntries, ih, List.map_cons]

theorem tidy_finishedEntries {nodes : Nodes} (ho : Dict.Ordered nodes)
    (hi : ∀ entry ∈ nodes, entry.2.finished.Tidy) : (Value.table (finishedEntries nodes)).Tidy := by
  rw [finishedEntries_eq_map]
  refine .table (List.pairwise_map.mpr ho) fun entry hm => ?_
  obtain ⟨node, hn, rfl⟩ := List.mem_map.mp hm
  exact hi node hn

theorem Node.Tidy.finished {node : Node} (h : node.Tidy) : node.finished.Tidy := by
  induction h with
  | value h => exact h
  | table ordered _ ih => exact tidy_finishedEntries ordered ih
  | tables => exact .other nofun

theorem Nodes.Tidy.finished {nodes : Nodes} (h : nodes.Tidy) :
    (Value.table (finishedEntries nodes)).Tidy :=
  tidy_finishedEntries h.ordered fun entry hm => (h.inner entry hm).finished

theorem ne_table_of_scalar? {s : List Char} {value : Value} (h : scalar? s = some value)
    (entries : Entries) : value ≠ .table entries := by
  rintro rfl
  rw [scalar?] at h
  split_ifs at h
  · cases h
  · cases h
  · cases hm : Moment.ofText? s <;> cases hr : real? s <;> cases hi : integer? s <;>
      simp [hm, hr, hi] at h

theorem ne_table_of_simple? {s : List Char} {value : Value} {rest : Text.Rest s}
    (h : simple? s = some (value, rest)) (entries : Entries) : value ≠ .table entries := by
  rw [simple?] at h
  split at h
  · cases h
    nofun
  · rw [scalar.eq_def] at h
    split at h
    · cases h
    · simp only at h
      split at h
      · obtain ⟨moment, -, he⟩ := Option.map_eq_some_iff.mp h
        cases he
        nofun
      · obtain ⟨found, hf, he⟩ := Option.map_eq_some_iff.mp h
        cases he
        exact ne_table_of_scalar? hf entries

mutual

theorem tidy_of_value? {depth : Nat} {s : List Char} {value : Value} {rest : Text.Rest s}
    (h : value? depth s = some (value, rest)) : value.Tidy := by
  rw [value?.eq_def] at h
  split at h
  · split_ifs at h
    split at h
    · cases h
      exact .other nofun
    · cases h
  · split_ifs at h
    split at h
    · cases h
      exact .table List.Pairwise.nil fun _ h => absurd h List.not_mem_nil
    · split at h
      · rename_i read _ _ hr
        obtain ⟨table, ht, he⟩ := Option.map_eq_some_iff.mp h
        cases he
        obtain ⟨nodes, hn, rfl⟩ := Option.map_eq_some_iff.mp ht
        exact (Nodes.Tidy.ofAssignments? (tidy_of_assignments? hr) Nodes.tidy_nil hn).finished
      · cases h
  · exact .other (ne_table_of_simple? h)
termination_by (s.length, 0)

theorem tidy_of_assignments? {depth : Nat} {s : List Char} {read : List (KeyPath × Value)}
    {rest : Text.Rest s} (h : assignments? depth s = some (read, rest)) :
    ∀ assignment ∈ read, assignment.2.Tidy := by
  rw [assignments?.eq_def] at h
  split at h
  · cases h
  · rename_i key unread _
    split at h
    · rename_i text hk
      have hs := length_lt_of_key unread hk (skipBlanks_length text)
      simp only at h
      split at h
      · cases h
      · rename_i item left hl hitem
        have ht := tidy_of_value? hitem
        split at h
        · cases h
          exact List.forall_mem_singleton.mpr ht
        · rename_i behind hb
          have hc := length_lt_of_assignment unread hk (skipBlanks_length text) hl
            (skipBlanks_length left) hb
          split at h
          · rename_i more _ _ hmore
            cases h
            exact List.forall_mem_cons.mpr ⟨ht, tidy_of_assignments? hmore⟩
          · cases h
        · cases h
    · cases h
termination_by (s.length, 1)
decreasing_by
  · exact Prod.Lex.left _ _ hs
  · exact Prod.Lex.left _ _ hc

end

theorem line?_assignment {s : List Char} {key : KeyPath} {value : Value} {rest : Text.Rest s}
    (h : line? s = some (.assignment key value, rest)) : value.Tidy := by
  rw [line?.eq_def] at h
  split at h
  · split at h
    · cases h
    · split at h
      · obtain ⟨_, -, he⟩ := Option.map_eq_some_iff.mp h
        cases he
      · cases h
  · split at h
    · cases h
    · split at h
      · obtain ⟨_, -, he⟩ := Option.map_eq_some_iff.mp h
        cases he
      · cases h
  · split at h
    · cases h
    · split at h
      · simp only at h
        split at h
        · cases h
        · rename_i hv
          obtain ⟨_, -, he⟩ := Option.map_eq_some_iff.mp h
          cases he
          exact tidy_of_value? hv
      · cases h

/-- The values that the lines of a document assign. -/
theorem tidy_of_lines? {s : List Char} {lines : List Line} (h : lines? s = some lines) :
    ∀ key value, Line.assignment key value ∈ lines → value.Tidy := by
  rw [lines?.eq_def] at h
  split at h
  · cases h
    exact fun _ _ hm => absurd hm List.not_mem_nil
  · rename_i c more hs _ _
    split at h
    · cases h
    · rename_i line rest hl hline
      have hlt : rest.length < s.length := Nat.lt_of_lt_of_le hl hs
      obtain ⟨others, ho, rfl⟩ := Option.map_eq_some_iff.mp h
      intro key value hm
      rcases List.mem_cons.mp hm with rfl | hm
      · exact line?_assignment hline
      · exact tidy_of_lines? ho key value hm
termination_by s.length

theorem Draft.tidy_add? {draft next : Draft} {line : Line} (h : draft.nodes.Tidy)
    (hv : ∀ key value, line = .assignment key value → value.Tidy)
    (hn : draft.add? line = some next) : next.nodes.Tidy := by
  cases line with
  | header key =>
    obtain ⟨nodes, hm, he⟩ := Option.bind_eq_some_iff.mp hn
    cases he
    exact h.within? (fun _ _ hb ho => hb.openTable? ho) hm
  | item key =>
    obtain ⟨nodes, hm, he⟩ := Option.bind_eq_some_iff.mp hn
    cases he
    exact h.within? (fun _ _ hb ho => hb.addTable? ho) hm
  | assignment key value =>
    obtain ⟨nodes, hm, he⟩ := Option.bind_eq_some_iff.mp hn
    cases he
    exact h.within? (fun _ _ hb ho => hb.assign? (hv key value rfl) ho) hm

theorem Draft.tidy_foldlM {draft last : Draft} {lines : List Line} (h : draft.nodes.Tidy)
    (hv : ∀ key value, Line.assignment key value ∈ lines → value.Tidy)
    (hf : lines.foldlM Draft.add? draft = some last) : last.nodes.Tidy := by
  induction lines generalizing draft with
  | nil =>
    cases hf
    exact h
  | cons line rest ih =>
    rw [List.foldlM_cons] at hf
    obtain ⟨next, hn, hf⟩ := Option.bind_eq_some_iff.mp hf
    refine ih (tidy_add? h (fun key value he => hv key value ?_) hn)
      (fun key value hm => hv key value (List.mem_cons_of_mem _ hm)) hf
    exact he ▸ List.mem_cons_self

/-- The tables of a document are sorted, at any depth. -/
theorem tidy_of_read? {text : String} {entries : Entries} (h : read? text = some entries) :
    (Value.table entries).Tidy := by
  obtain ⟨lines, hl, h⟩ := Option.bind_eq_some_iff.mp h
  obtain ⟨draft, hf, rfl⟩ := Option.map_eq_some_iff.mp h
  exact (Draft.tidy_foldlM Nodes.tidy_nil (tidy_of_lines? hl) hf).finished

theorem value?_of_string? {s read rest : List Char} (hq : s.head? = some '"')
    (h : string? s = some (read, rest)) (depth : Nat) :
    value? depth s = some (.text (String.ofList read), ⟨rest, string?_length h⟩) := by
  rw [value?.eq_def]
  split
  · cases hq
  · cases hq
  · rw [simple?]
    split
    · rename_i h'
      cases h.symm.trans h'
      rfl
    · rename_i h'
      cases h.symm.trans h'

theorem line?_of_value? {s rest : List Char} {key : KeyPath} {unread : Text.Rest s} {value : Value}
    {behind : Text.Rest (skipBlanks rest)} {left : Text.Unread behind.val} (hs : s.head? ≠ some '[')
    (hk : key? s = some (key, unread)) (he : unread.val = '=' :: rest)
    (hv : value? maxDepth (skipBlanks rest) = some (value, behind))
    (hl : lineEnd? behind.val = some left) :
    ∃ h, line? s = some (.assignment key value, ⟨left.val, h⟩) := by
  rw [line?.eq_def]
  split
  · exact absurd rfl hs
  · exact absurd rfl hs
  · rw [hk]
    obtain ⟨text, ht⟩ := unread
    cases he
    simp only [hv, hl]
    exact ⟨length_lt_of_line ⟨_, ht⟩ rfl (skipBlanks_length rest) behind.property left, rfl⟩

theorem lines?_of_line? {s : List Char} {line : Line} {rest : Text.Rest s}
    (hs : skipFiller false s = s) (hl : line? s = some (line, rest))
    (hr : skipFiller false rest.val = []) : lines? s = some [line] := by
  have hrest : lines? rest.val = some [] := by
    rw [lines?.eq_def]
    split
    · rfl
    · rename_i h _
      cases hr.symm.trans h
  rw [lines?.eq_def]
  split
  · rename_i h _
    rw [hs.symm.trans h] at rest
    exact absurd rest.property (Nat.not_lt_zero _)
  · rename_i h _
    cases hs.symm.trans h
    rw [hl]
    exact congrArg (Option.map (line :: ·)) hrest

/-- A document that assigns one quoted text. -/
theorem read?_assignment {text : String} {key : KeyPath} {rest read behind : List Char}
    {h : ('=' :: rest).length < text.toList.length} {hl : [].length ≤ behind.length}
    (hs : skipMark text.toList = text.toList ∧
      skipFiller false text.toList = text.toList ∧ text.toList.head? ≠ some '[')
    (hk : key? text.toList = some (key, ⟨'=' :: rest, h⟩))
    (hq : (skipBlanks rest).head? = some '"')
    (hr : string? (skipBlanks rest) = some (read, behind))
    (he : lineEnd? behind = some ⟨[], hl⟩) :
    read? text = tableOfLines? [.assignment key (.text (String.ofList read))] := by
  obtain ⟨hm, hf, hb⟩ := hs
  obtain ⟨_, hline⟩ := line?_of_value? hb hk rfl (value?_of_string? hq hr _) he
  rw [read?, hm, lines?_of_line? hf hline rfl]
  rfl

end ApiDocs.Toml
