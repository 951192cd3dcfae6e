import ApiDocs.Config.Value
import ApiDocs.Proofs.Dict
import Mathlib.Data.List.Induction

/-!
# Tables over tables

What stands at the end of a path of keys in tables that were merged: where both lead to texts, the
later one counts, and what only one of them has is kept. The same holds for any number of tables,
so that the last one with a text at the path decides.
-/

namespace ApiDocs.Config

namespace Value

/-- Whether a table and the tables inside it are sorted by key. -/
inductive Tidy : Value → Prop
  | table {entries : Entries} (ordered : Dict.Ordered entries)
      (inner : ∀ entry ∈ entries, Tidy entry.2) : Tidy (.table entries)
  | other {value : Value} (h : ∀ entries, value ≠ .table entries) : Tidy value

theorem Tidy.ordered {entries : Entries} (h : Tidy (.table entries)) : Dict.Ordered entries := by
  cases h with
  | table ordered _ => exact ordered
  | other h => exact absurd rfl (h entries)

theorem Tidy.inner {entries : Entries} (h : Tidy (.table entries)) {key : String} {value : Value}
    (hv : Dict.get? key entries = some value) : value.Tidy := by
  cases h with
  | table _ inner => exact inner (key, value) (Dict.mem_of_get? hv)
  | other h => exact absurd rfl (h entries)

theorem tidy_nil : Tidy (.table []) :=
  .table List.Pairwise.nil fun _ h => absurd h List.not_mem_nil

theorem Tidy.tail {entry : String × Value} {rest : Entries} (h : Tidy (.table (entry :: rest))) :
    Tidy (.table rest) := by
  cases h with
  | table ordered inner =>
    exact .table (List.pairwise_cons.mp ordered).2 fun next hm =>
      inner next (List.mem_cons_of_mem _ hm)
  | other h => exact absurd rfl (h _)

theorem Tidy.head {key : String} {value : Value} {rest : Entries}
    (h : Tidy (.table ((key, value) :: rest))) : value.Tidy := by
  cases h with
  | table _ inner => exact inner _ List.mem_cons_self
  | other h => exact absurd rfl (h _)

theorem Tidy.insert {entries : Entries} (h : Tidy (.table entries)) (key : String) {value : Value}
    (hv : value.Tidy) : Tidy (.table (Dict.insert key value entries)) := by
  cases h with
  | table ordered inner =>
    refine .table (ordered.insert key value) fun entry hm => ?_
    rcases Dict.mem_insert hm with rfl | hm
    · exact hv
    · exact inner entry hm
  | other h => exact absurd rfl (h _)

theorem tidy_nested {path : List String} {value : Value} (h : value.Tidy) :
    (nested path value).Tidy := by
  induction path with
  | nil => exact h
  | cons key path ih =>
    exact .table (List.pairwise_singleton _ _) fun entry hm => List.mem_singleton.mp hm ▸ ih

theorem overlay_of_ne_table {below : Value} (h : ∀ entries, below ≠ .table entries)
    (above : Value) : below.overlay above = above := by
  rw [overlay]
  exact fun entries _ he => absurd he (h entries)

mutual

theorem Tidy.overlay {below above : Value} (hb : below.Tidy) (ha : above.Tidy) :
    (below.overlay above).Tidy := by
  cases hb with
  | other h =>
    rw [overlay_of_ne_table h]
    exact ha
  | @table entries ordered inner =>
    match above with
    | .table additions =>
      rw [Value.overlay]
      exact Tidy.overlayEntries (.table ordered inner) ha
    | .text _ | .truth _ | .signed _ | .unsigned _ | .real _ | .sequence _ =>
      rw [Value.overlay]
      · exact ha
      · nofun

theorem Tidy.overlayEntries {below above : Entries} (hb : Tidy (.table below))
    (ha : Tidy (.table above)) : Tidy (.table (overlayEntries below above)) := by
  match above with
  | [] => rwa [Value.overlayEntries]
  | (key, value) :: rest =>
    rw [Value.overlayEntries]
    refine Tidy.overlayEntries (hb.insert key ?_) ha.tail
    split
    · rename_i old ho
      exact (hb.inner ho).overlay ha.head
    · exact ha.head

end

/-- The value that counts of those that an earlier and a later table may have. -/
def later : Option Value → Option Value → Option Value
  | some below, some above => some (below.overlay above)
  | below, none => below
  | none, above => above

theorem get?_overlayEntries (key : String) {below above : Entries} (h : Dict.Ordered above) :
    Dict.get? key (overlayEntries below above) =
      later (Dict.get? key below) (Dict.get? key above) := by
  induction above generalizing below with
  | nil =>
    rw [overlayEntries]
    cases Dict.get? key below <;> rfl
  | cons entry rest ih =>
    obtain ⟨k, value⟩ := entry
    have hk : k ∉ Dict.keys rest := (List.nodup_cons.mp h.nodup_keys).1
    rw [overlayEntries, ih (List.pairwise_cons.mp h).2, Dict.get?_insert, Dict.get?_cons]
    by_cases he : key = k
    · subst he
      rw [if_pos rfl, if_pos rfl, Dict.get?_eq_none.mpr hk]
      cases Dict.get? key below <;> rfl
    · rw [if_neg he, if_neg he]

/-- Whether a path leads through tables to a text, if it leads anywhere. -/
def LeadsToText : List String → Value → Prop
  | [], value => ∃ s, value = .text s
  | key :: path, value =>
    ∃ entries, value = .table entries ∧
      ∀ inner, Dict.get? key entries = some inner → LeadsToText path inner

/-- The text that a value is. -/
def text? : Value → Option String
  | .text s => some s
  | _ => none

/-- The text at the end of a path. -/
def textAt? (path : List String) (value : Value) : Option String :=
  (at? path value).bind text?

theorem textAt?_cons (key : String) (path : List String) (entries : Entries) :
    textAt? (key :: path) (.table entries) = (Dict.get? key entries).bind (textAt? path) := by
  rw [textAt?, at?]
  cases Dict.get? key entries <;> rfl

theorem textAt?_of_get? {key : String} {path : List String} {entries : Entries} {value : Value}
    (h : Dict.get? key entries = some value) :
    textAt? (key :: path) (.table entries) = textAt? path value := by
  rw [textAt?_cons, h, Option.bind_some]

theorem textAt?_of_get?_eq_none {key : String} {path : List String} {entries : Entries}
    (h : Dict.get? key entries = none) : textAt? (key :: path) (.table entries) = none := by
  rw [textAt?_cons, h, Option.bind_none]

theorem LeadsToText.below {key : String} {path : List String} {entries : Entries} {value : Value}
    (h : LeadsToText (key :: path) (.table entries)) (hg : Dict.get? key entries = some value) :
    LeadsToText path value := by
  obtain ⟨_, ⟨⟩, h⟩ := h
  exact h value hg

theorem leadsToText_nil (key : String) (path : List String) :
    LeadsToText (key :: path) (.table []) :=
  ⟨[], rfl, nofun⟩

/-- Of two texts at the end of a path the later one counts. -/
theorem LeadsToText.overlay {path : List String} {below above : Value}
    (hb : LeadsToText path below) (ha : LeadsToText path above) (ht : above.Tidy) :
    LeadsToText path (below.overlay above) ∧
      textAt? path (below.overlay above) = (textAt? path above).or (textAt? path below) := by
  induction path generalizing below above with
  | nil =>
    obtain ⟨s, rfl⟩ := hb
    obtain ⟨t, rfl⟩ := ha
    exact ⟨⟨t, rfl⟩, rfl⟩
  | cons key path ih =>
    obtain ⟨below, rfl, hb⟩ := hb
    obtain ⟨above, rfl, ha⟩ := ha
    have hg := @get?_overlayEntries key below above ht.ordered
    rw [Value.overlay, textAt?_cons, textAt?_cons, textAt?_cons]
    simp only [LeadsToText, Value.table.injEq, exists_eq_left', hg]
    cases hbelow : Dict.get? key below with
    | none =>
      cases habove : Dict.get? key above with
      | none => exact ⟨nofun, rfl⟩
      | some new => exact ⟨fun _ he => Option.some.inj he ▸ ha new habove, by simp [later]⟩
    | some old =>
      cases habove : Dict.get? key above with
      | none => exact ⟨fun _ he => Option.some.inj he ▸ hb old hbelow, rfl⟩
      | some new =>
        obtain ⟨hl, htext⟩ := ih (hb old hbelow) (ha new habove) (ht.inner habove)
        exact ⟨fun _ he => Option.some.inj he ▸ hl, htext⟩

/-- A text inside tables with single entries stands at the end of their path only. -/
theorem textAt?_nested (path key : List String) (s : String) :
    textAt? key (nested path (.text s)) = if key = path then some s else none := by
  induction path generalizing key with
  | nil => cases key <;> rfl
  | cons outer path ih =>
    cases key with
    | nil => rfl
    | cons first key =>
      rw [nested, textAt?_cons, Dict.get?_cons]
      by_cases hf : first = outer
      · subst hf
        rw [if_pos rfl, Option.bind_some, ih]
        simp only [List.cons.injEq, true_and]
      · rw [if_neg hf, if_neg (by simp [hf])]
        rfl

/-- Apart from the texts and tables on its own way, a path leads nowhere among single entries. -/
theorem leadsToText_nested {path other : List String} {s : String}
    (hp : path <+: other → path = other) (ho : other <+: path → other = path) :
    LeadsToText other (nested path (.text s)) := by
  induction path generalizing other with
  | nil =>
    rw [← hp List.nil_prefix]
    exact ⟨s, rfl⟩
  | cons key path ih =>
    cases other with
    | nil => cases ho List.nil_prefix
    | cons first other =>
      refine ⟨_, rfl, fun inner hi => ?_⟩
      rw [Dict.get?_cons] at hi
      split_ifs at hi with hf
      · cases hi
        subst hf
        refine ih (fun h => ?_) fun h => ?_
        · exact (List.cons.inj (hp (List.cons_prefix_cons.mpr ⟨rfl, h⟩))).2
        · exact (List.cons.inj (ho (List.cons_prefix_cons.mpr ⟨rfl, h⟩))).2
      · cases hi

end Value

open Value (Tidy LeadsToText textAt? overlayEntries)

section Layers

variable {layers : List Entries}

theorem tidy_layers (h : ∀ entries ∈ layers, Tidy (.table entries)) :
    Tidy (.table (layers.foldl overlayEntries [])) := by
  induction layers using List.reverseRecOn with
  | nil => exact Value.tidy_nil
  | append_singleton front entries ih =>
    rw [List.foldl_concat]
    exact (ih fun entries hm => h entries (List.mem_append_left _ hm)).overlayEntries
      (h entries (by simp))

/-- The last table with a text at the end of a path decides. -/
theorem textAt?_layers {key : String} {path : List String}
    (h : ∀ entries ∈ layers, Tidy (.table entries))
    (hl : ∀ entries ∈ layers, LeadsToText (key :: path) (.table entries)) :
    LeadsToText (key :: path) (.table (layers.foldl overlayEntries [])) ∧
      textAt? (key :: path) (.table (layers.foldl overlayEntries [])) =
        layers.reverse.findSome? fun entries => textAt? (key :: path) (.table entries) := by
  induction layers using List.reverseRecOn with
  | nil => exact ⟨Value.leadsToText_nil key path, rfl⟩
  | append_singleton front entries ih =>
    rw [List.forall_mem_append, List.forall_mem_singleton] at h hl
    obtain ⟨hfront, htext⟩ := ih h.1 hl.1
    obtain ⟨hlast, hor⟩ := hfront.overlay hl.2 h.2
    rw [Value.overlay] at hlast hor
    rw [List.foldl_concat, List.reverse_concat, List.findSome?_cons, hor, htext]
    refine ⟨hlast, ?_⟩
    cases textAt? (key :: path) (.table entries) <;> rfl

end Layers

end ApiDocs.Config
