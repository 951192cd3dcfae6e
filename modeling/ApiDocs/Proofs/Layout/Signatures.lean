import ApiDocs.Proofs.Document.Signature
import ApiDocs.Proofs.Text

/-!
# Signatures read back

What a signature names is what stands between its commas once brackets and white space are deleted;
a name is optional when a bracket is open at one of its characters. A list of parameters that is
written with its optional ones in brackets, each in its own, one inside the other or in front of the
others, is read back as it was.
-/

namespace ApiDocs.Signature

open Unicode

/-- The brackets open behind a character. A bracket that closes none counts for nothing. -/
def depthAfter (depth : Nat) (c : Char) : Nat :=
  if c = '[' then depth + 1 else if c = ']' then depth - 1 else depth

/-- The characters of a text, each with the number of brackets open at it. -/
def depths (depth : Nat) : List Char → List (Char × Nat)
  | [] => []
  | c :: rest => (c, depth) :: depths (depthAfter depth c) rest

/-- Whether a character can belong to a name. -/
def isKept (c : Char) : Bool :=
  c != '[' && c != ']' && !isWhite c

/-- The fields of a signature: what is left between its commas without brackets and white space. -/
def fields (signature : String) : List (List (Char × Nat)) :=
  ((depths 0 (inner signature)).splitOnP isComma).map fun field => field.filter fun c => isKept c.1

theorem levels_eq (depth : Nat) (text : List Char) :
    levels depth text = (depths depth text).filter fun c => isKept c.1 := by
  induction text generalizing depth with
  | nil => rfl
  | cons c rest ih =>
    rw [levels, depths]
    by_cases hopen : c = '['
    · have hd : depthAfter depth c = depth + 1 := if_pos hopen
      rw [if_pos (beq_iff_eq.mpr hopen), hd, List.filter_cons_of_neg (by simp [isKept, hopen]), ih]
    by_cases hclose : c = ']'
    · have hd : depthAfter depth c = depth - 1 := by rw [depthAfter, if_neg hopen, if_pos hclose]
      rw [if_neg (by simpa using hopen), if_pos (beq_iff_eq.mpr hclose), hd,
        List.filter_cons_of_neg (by simp [isKept, hclose]), ih]
    have hd : depthAfter depth c = depth := by rw [depthAfter, if_neg hopen, if_neg hclose]
    rw [if_neg (by simpa using hopen), if_neg (by simpa using hclose), hd, ih]
    by_cases hw : isWhite c
    · rw [if_pos hw, List.filter_cons_of_neg (by simp [isKept, hw])]
    · rw [if_neg hw, List.filter_cons_of_pos (by simp [isKept, hopen, hclose, hw])]

theorem map_fst_depths (depth : Nat) (text : List Char) :
    (depths depth text).map Prod.fst = text := by
  induction text generalizing depth with
  | nil => rfl
  | cons c rest ih => rw [depths, List.map_cons, ih]

theorem pieces_eq (signature : String) : pieces signature = fields signature := by
  rw [pieces, levels_eq, Text.splitOnP_filter, fields]
  rintro ⟨c, depth⟩ hc
  rw [eq_of_beq hc]
  decide

/-- The fields as text are the pieces of the text itself without brackets and white space. -/
theorem map_fst_fields (signature : String) :
    (fields signature).map (List.map Prod.fst) =
      ((inner signature).splitOn ',').map (List.filter isKept) := by
  have hs : (inner signature).splitOn ',' =
      ((depths 0 (inner signature)).splitOnP isComma).map (List.map Prod.fst) := by
    rw [List.splitOn_eq_splitOnP]
    conv_lhs => rw [← map_fst_depths 0 (inner signature), Text.splitOnP_map]
    rfl
  rw [hs, fields, List.map_map, List.map_map]
  refine List.map_congr_left fun field _ => ?_
  rw [Function.comp_apply, Function.comp_apply, List.filter_map]
  rfl

theorem inner_parenthesized {signature : String} {body : List Char}
    (h : Text.trim signature.toList = '(' :: body ++ [')']) : inner signature = body := by
  have ha : Text.after? "(" (Text.trim signature.toList) = some (body ++ [')']) :=
    Text.after?_eq_some.mpr h
  have hb : Text.before? ")" (body ++ [')']) = some body := Text.before?_eq_some.mpr rfl
  simp only [inner, ha, hb, Option.getD_some]

theorem inner_of_not {signature : String}
    (h : ∀ body, Text.trim signature.toList ≠ '(' :: body ++ [')']) :
    inner signature = signature.toList := by
  rw [inner]
  split
  · rename_i rest ha
    cases hb : Text.before? ")" rest with
    | none => rfl
    | some body =>
      rw [Text.after?_eq_some, Text.before?_eq_some.mp hb] at ha
      exact absurd ha (h body)
  · rfl

/-- Whether a text can be the name of a parameter in a signature. -/
structure IsName (name : String) : Prop where
  ne : name ≠ ""
  kept : ∀ c ∈ name.toList, isKept c = true ∧ c ≠ ','

/-- Parameters behind others, each behind a comma. Some of them may stand in brackets together with
the comma in front of them; `inside` says whether brackets are open around them all. -/
inductive Following : Bool → List Slot → List Char → Prop
  | none (inside : Bool) : Following inside [] []
  | plain {inside : Bool} (name : String) {slots : List Slot} {text : List Char}
      (h : Following inside slots text) :
      Following inside (⟨name, inside⟩ :: slots) (',' :: ' ' :: (name.toList ++ text))
  | bracketed {inside : Bool} {inner slots : List Slot} {within text : List Char}
      (hi : Following true inner within) (h : Following inside slots text) :
      Following inside (inner ++ slots) ('[' :: (within ++ ']' :: text))

/-- Parameters of which the first stands at the front, by itself or in brackets, which may hold the
comma behind it. -/
inductive Leading : Bool → List Slot → List Char → Prop
  | plain {inside : Bool} (name : String) {slots : List Slot} {text : List Char}
      (h : Following inside slots text) :
      Leading inside (⟨name, inside⟩ :: slots) (name.toList ++ text)
  | bracketed {inside : Bool} {inner slots : List Slot} {within text : List Char}
      (hi : Leading true inner within) (h : Following inside slots text) :
      Leading inside (inner ++ slots) ('[' :: (within ++ ']' :: text))
  | before {inside : Bool} {inner slots : List Slot} {within text : List Char}
      (hi : Leading true inner within) (h : Leading inside slots text) :
      Leading inside (inner ++ slots) ('[' :: (within ++ ',' :: ' ' :: ']' :: text))

/-- A signature that shows by its brackets which of its parameters are optional. -/
inductive Rendered : List Slot → String → Prop
  | none : Rendered [] "()"
  | some {slots : List Slot} {text : List Char} (h : Leading false slots text) :
      Rendered slots (String.ofList ('(' :: text ++ [')']))

example : Rendered [⟨"a", false⟩, ⟨"b", false⟩, ⟨"c", true⟩, ⟨"d", true⟩] "(a, b[, c][, d])" :=
  .some (.plain "a" (.plain "b" (.bracketed (.plain "c" (.none true))
    (.bracketed (.plain "d" (.none true)) (.none false)))))

example : Rendered [⟨"a", false⟩, ⟨"b", false⟩, ⟨"c", true⟩, ⟨"d", true⟩] "(a, b[, c[, d]])" :=
  .some (.plain "a" (.plain "b" (.bracketed
    (.plain "c" (.bracketed (.plain "d" (.none true)) (.none true))) (.none false))))

example : Rendered [⟨"a", true⟩, ⟨"b", false⟩] "([a, ]b)" :=
  .some (.before (.plain "a" (.none true)) (.plain "b" (.none false)))

/-- The state in which no name was begun. -/
def State.fresh (depth : Nat) : State :=
  ⟨[], false, depth⟩

/-- The state in which the name of a slot was read. -/
def State.pending (slot : Slot) (depth : Nat) : State :=
  ⟨slot.name.toList.reverse, slot.optional, depth⟩

/-- Whether a text gives slots on the way from one state to another, whatever stands behind it. -/
def Reads (before : State) (text : List Char) (slots : List Slot) (after : State) : Prop :=
  ∀ rest, scan before (text ++ rest) = slots ++ scan after rest

theorem Reads.append {before between after : State} {text more : List Char}
    {slots others : List Slot} (h : Reads before text slots between)
    (h' : Reads between more others after) :
    Reads before (text ++ more) (slots ++ others) after := by
  intro rest
  rw [List.append_assoc, h, h', List.append_assoc]

theorem reads_nil (state : State) : Reads state [] [] state :=
  fun _ => rfl

theorem reads_space (state : State) : Reads state [' '] [] state :=
  fun _ => rfl

theorem reads_open (slot : Slot) (depth : Nat) :
    Reads (.pending slot depth) ['['] [] (.pending slot (depth + 1)) :=
  fun _ => rfl

theorem reads_open_fresh (depth : Nat) : Reads (.fresh depth) ['['] [] (.fresh (depth + 1)) :=
  fun _ => rfl

theorem reads_close (slot : Slot) (depth : Nat) :
    Reads (.pending slot (depth + 1)) [']'] [] (.pending slot depth) :=
  fun _ => rfl

theorem reads_close_fresh (depth : Nat) : Reads (.fresh (depth + 1)) [']'] [] (.fresh depth) :=
  fun _ => rfl

theorem slots_pending {slot : Slot} (h : slot.name ≠ "") (depth : Nat) :
    (State.pending slot depth).slots = [slot] := by
  simp [State.pending, State.slots, h]

theorem reads_comma {slot : Slot} (h : slot.name ≠ "") (depth : Nat) :
    Reads (.pending slot depth) [','] [slot] (.fresh depth) := by
  intro rest
  rw [← slots_pending h depth]
  rfl

theorem reads_char {c : Char} (hk : isKept c = true) (hc : c ≠ ',') (state : State) :
    Reads state [c] []
      ⟨c :: state.name, state.bracketed || decide (0 < state.depth), state.depth⟩ := by
  intro rest
  simp only [isKept, Bool.and_eq_true, bne_iff_ne, Bool.not_eq_true'] at hk
  obtain ⟨⟨hopen, hclose⟩, hw⟩ := hk
  simp [scan, hopen, hclose, hw, hc]

theorem reads_chars {chars : List Char} (h : ∀ c ∈ chars, isKept c = true ∧ c ≠ ',')
    (name : List Char) (depth : Nat) :
    Reads ⟨name, decide (0 < depth), depth⟩ chars []
      ⟨chars.reverse ++ name, decide (0 < depth), depth⟩ := by
  induction chars generalizing name with
  | nil => exact reads_nil _
  | cons c rest ih =>
    obtain ⟨hc, hr⟩ := List.forall_mem_cons.mp h
    have hfirst := reads_char hc.1 hc.2 ⟨name, decide (0 < depth), depth⟩
    rw [Bool.or_self] at hfirst
    simpa using hfirst.append (ih hr (c :: name))

/-- A name is optional when brackets are open around it. -/
theorem reads_name {name : String} (h : IsName name) (depth : Nat) :
    Reads (.fresh depth) name.toList [] (.pending ⟨name, decide (0 < depth)⟩ depth) := by
  obtain ⟨c, rest, hn⟩ := List.exists_cons_of_ne_nil (mt String.toList_eq_nil_iff.mp h.ne)
  have hk := h.kept
  rw [hn, List.forall_mem_cons] at hk
  have hfirst := reads_char hk.1.1 hk.1.2 (.fresh depth)
  have hrest := reads_chars hk.2 [c] depth
  rw [State.pending, hn, List.reverse_cons]
  exact hfirst.append hrest

section Rendered

variable {inside : Bool} {slots : List Slot} {text : List Char}

/-- Parameters behind another are read up to the last one. -/
theorem Following.reads (h : Following inside slots text)
    (hn : ∀ slot ∈ slots, IsName slot.name) (depth : Nat) (hd : inside = decide (0 < depth))
    {first : Slot} (hf : IsName first.name) :
    ∃ front last, first :: slots = front ++ [last] ∧
      Reads (.pending first depth) text front (.pending last depth) := by
  induction h generalizing depth first with
  | none inside => exact ⟨[], first, rfl, reads_nil _⟩
  | plain name h ih =>
    obtain ⟨hname, hn⟩ := List.forall_mem_cons.mp hn
    obtain ⟨front, last, he, hr⟩ := ih hn depth hd hname
    have hgap := (reads_comma hf.ne depth).append (reads_space (.fresh depth))
    refine ⟨first :: front, last, congrArg (first :: ·) he, ?_⟩
    rw [hd] at hr
    exact hgap.append ((reads_name hname depth).append hr)
  | @bracketed inside inner slots within text hi h ihi ih =>
    obtain ⟨hni, hn⟩ := List.forall_mem_append.mp hn
    obtain ⟨front, between, he, hr⟩ := ihi hni (depth + 1) (by simp) hf
    have hall : ∀ slot ∈ first :: inner, IsName slot.name := List.forall_mem_cons.mpr ⟨hf, hni⟩
    obtain ⟨more, last, he', hr'⟩ := ih hn depth hd (hall between (by simp [he]))
    refine ⟨front ++ more, last, ?_, ?_⟩
    · rw [← List.cons_append, he, List.append_assoc, List.append_assoc, ← he']
      rfl
    · exact (reads_open first depth).append (hr.append ((reads_close between depth).append hr'))

/-- Parameters at the front are read up to the last one. -/
theorem Leading.reads (h : Leading inside slots text)
    (hn : ∀ slot ∈ slots, IsName slot.name) (depth : Nat) (hd : inside = decide (0 < depth)) :
    ∃ front last, slots = front ++ [last] ∧
      Reads (.fresh depth) text front (.pending last depth) := by
  induction h generalizing depth with
  | plain name h =>
    obtain ⟨hname, hn⟩ := List.forall_mem_cons.mp hn
    obtain ⟨front, last, he, hr⟩ := h.reads hn depth hd hname
    rw [hd] at hr
    exact ⟨front, last, he, (reads_name hname depth).append hr⟩
  | bracketed hi h ihi =>
    obtain ⟨hni, hns⟩ := List.forall_mem_append.mp hn
    obtain ⟨front, between, rfl, hr⟩ := ihi hni (depth + 1) (by simp)
    obtain ⟨more, last, he, hr'⟩ := h.reads hns depth hd (hni between (by simp))
    refine ⟨front ++ more, last, ?_, ?_⟩
    · rw [List.append_assoc, List.append_assoc, ← he]
      rfl
    · exact (reads_open_fresh depth).append (hr.append ((reads_close between depth).append hr'))
  | before hi h ihi ih =>
    obtain ⟨hni, hns⟩ := List.forall_mem_append.mp hn
    obtain ⟨front, between, rfl, hr⟩ := ihi hni (depth + 1) (by simp)
    obtain ⟨more, last, rfl, hr'⟩ := ih hns depth hd
    refine ⟨front ++ between :: more, last, by simp, ?_⟩
    have hb : between.name ≠ "" := (hni between (by simp)).ne
    have hgap := (reads_comma hb (depth + 1)).append
      ((reads_space (.fresh (depth + 1))).append (reads_close_fresh depth))
    exact (reads_open_fresh depth).append (hr.append (hgap.append hr'))

end Rendered

theorem slots_rendered {slots : List Slot} {text : String} (h : Rendered slots text)
    (hn : ∀ slot ∈ slots, IsName slot.name) : Signature.slots text = slots := by
  cases h with
  | none => decide
  | @some _ text h =>
    have hclose : Text.Tight [')'] := Text.tight_iff.mpr (by decide)
    have ht : Text.Tight ('(' :: text ++ [')']) :=
      Text.tight_cons_append (by decide) hclose (List.cons_ne_nil _ _) text
    have hi : inner (String.ofList ('(' :: text ++ [')'])) = text :=
      inner_parenthesized (by rw [String.toList_ofList, ht.trim_eq])
    obtain ⟨front, last, rfl, hr⟩ := h.reads hn 0 rfl
    have hs := hr []
    rw [List.append_nil, scan, slots_pending (hn last (by simp)).ne] at hs
    rw [Signature.slots, hi]
    exact hs

theorem exists_following (slots : List Slot) : ∃ text, Following false slots text := by
  induction slots with
  | nil => exact ⟨_, .none false⟩
  | cons slot rest ih =>
    obtain ⟨text, h⟩ := ih
    obtain ⟨name, _ | _⟩ := slot
    · exact ⟨_, .plain name h⟩
    · exact ⟨_, .bracketed (.plain name (.none true)) h⟩

theorem exists_rendered (slots : List Slot) : ∃ text, Rendered slots text := by
  cases slots with
  | nil => exact ⟨_, .none⟩
  | cons slot rest =>
    obtain ⟨text, h⟩ := exists_following rest
    obtain ⟨name, _ | _⟩ := slot
    · exact ⟨_, .some (.plain name h)⟩
    · exact ⟨_, .some (.bracketed (.plain name (.none true)) h)⟩

/-- The name that a field gives. -/
def fieldName (field : List (Char × Nat)) : String :=
  String.ofList (field.map Prod.fst)

/-- Whether a bracket is open at some character of a field. -/
def isBracketed (field : List (Char × Nat)) : Bool :=
  field.any fun c => 0 < c.2

theorem names_eq (signature : String) :
    names signature = ((fields signature).filter (· ≠ [])).map fieldName := by
  rw [names, slots_eq, pieces_eq, slotsOf, List.map_map]
  rfl

theorem optionalNames_eq (signature : String) :
    optionalNames signature =
      (((fields signature).filter (· ≠ [])).filter isBracketed).map fieldName := by
  rw [optionalNames, slots_eq, pieces_eq, slotsOf, List.filter_map, List.map_map]
  rfl

theorem names_eq_split (signature : String) :
    names signature =
      ((((inner signature).splitOn ',').map (List.filter isKept)).filter (· ≠ [])).map
        String.ofList := by
  have hf : (fun field : List (Char × Nat) => decide (field ≠ [])) =
      (fun text : List Char => decide (text ≠ [])) ∘ List.map Prod.fst := by
    funext field
    simp
  rw [names_eq, ← map_fst_fields, List.filter_map, List.map_map, hf]
  rfl

/-- The names of a signature are what is left, without brackets and white space, of the pieces
between the commas of what stands inside its parentheses, or of all of it where it has none. Those
are optional that have a character at which a bracket is open. Every list of parameters can be
written as a signature, and it is read back however its brackets are set. -/
theorem names_optionalNames_fields (signature : String) :
    (∀ body, Text.trim signature.toList = '(' :: body ++ [')'] → inner signature = body) ∧
      ((∀ body, Text.trim signature.toList ≠ '(' :: body ++ [')']) →
        inner signature = signature.toList) ∧
      names signature =
        ((((inner signature).splitOn ',').map (List.filter isKept)).filter (· ≠ [])).map
          String.ofList ∧
      names signature = ((fields signature).filter (· ≠ [])).map fieldName ∧
      optionalNames signature =
        (((fields signature).filter (· ≠ [])).filter isBracketed).map fieldName ∧
      ∀ slots : List Slot, (∀ slot ∈ slots, IsName slot.name) →
        (∃ text, Rendered slots text) ∧ ∀ text, Rendered slots text →
          names text = slots.map Slot.name ∧
            optionalNames text = (slots.filter Slot.optional).map Slot.name := by
  refine ⟨fun _ => inner_parenthesized, inner_of_not, names_eq_split signature,
    names_eq signature, optionalNames_eq signature,
    fun slots hn => ⟨exists_rendered slots, fun text hr => ?_⟩⟩
  rw [names, optionalNames, slots_rendered hr hn]
  exact ⟨rfl, rfl⟩

theorem names_optionalNames_fields_nested :
    let slots : List Slot := [⟨"a", true⟩, ⟨"b", false⟩, ⟨"c", true⟩, ⟨"...", true⟩]
    Text.trim " ([a, ]b[, c[, ...]])".toList = '(' :: "[a, ]b[, c[, ...]]".toList ++ [')'] ∧
      inner " ([a, ]b[, c[, ...]])" = "[a, ]b[, c[, ...]]".toList ∧
      (∀ body, Text.trim "a], [b]c".toList ≠ '(' :: body ++ [')']) ∧
      inner "a], [b]c" = "a], [b]c".toList ∧
      (∀ slot ∈ slots, IsName slot.name) ∧ Rendered slots "([a, ]b[, c[, ...]])" ∧
      optionalNames "([a, ]b[, c[, ...]])" = ["a", "c", "..."] := by
  intro slots
  have ht : Text.trim " ([a, ]b[, c[, ...]])".toList =
      '(' :: "[a, ]b[, c[, ...]]".toList ++ [')'] := by decide +kernel
  have hb : ∀ body, Text.trim "a], [b]c".toList ≠ '(' :: body ++ [')'] := by
    intro body he
    have hh : (Text.trim "a], [b]c".toList).head? = some '(' := by rw [he]; rfl
    revert hh
    decide
  have hn : ∀ slot ∈ slots, IsName slot.name := by
    have hall : ∀ slot ∈ slots, slot.name ≠ "" ∧
        slot.name.toList.all (fun c => isKept c && c != ',') = true := by decide
    intro slot hs
    refine ⟨(hall slot hs).1, fun c hc => ?_⟩
    simpa using List.all_eq_true.mp (hall slot hs).2 c hc
  have hr : Rendered slots "([a, ]b[, c[, ...]])" :=
    .some (.before (.plain "a" (.none true)) (.plain "b" (.bracketed
      (.plain "c" (.bracketed (.plain "..." (.none true)) (.none true))) (.none false))))
  obtain ⟨hi, -, -, -, -, -⟩ := names_optionalNames_fields " ([a, ]b[, c[, ...]])"
  obtain ⟨-, hw, -, -, -, hs⟩ := names_optionalNames_fields "a], [b]c"
  exact ⟨ht, hi _ ht, hb, hw hb, hn, hr, ((hs slots hn).2 _ hr).2⟩

end ApiDocs.Signature
