import ApiDocs.Proofs.Layout.Bullets

/-!
# Where bullets are wrapped

Two lines of the text of a bullet can be joined into one, with a space for the line break. What is
documented stays the same, except where the line break stands in front of the type or inside a
union: there no type is read until the lines are joined.
-/

namespace ApiDocs

open Unicode

/-- A text that may be missing, as inlines. -/
def optionalText (s : Option String) : List Inline :=
  (s.map Inline.text).toList

/-- Inlines with one line break, and the same with a space in its place, which makes one text of
those next to it. -/
inductive LineJoin : List Inline → List Inline → Prop
  | here (s t : Option String) (behind : List Inline) :
      LineJoin (optionalText s ++ .lineBreak :: (optionalText t ++ behind))
        (.text (s.getD "" ++ " " ++ t.getD "") :: behind)
  | later (first : Inline) {content joined : List Inline} (h : LineJoin content joined) :
      LineJoin (first :: content) (first :: joined)

mutual

/-- Items of which one, at any depth, has two lines of its leading paragraph joined. -/
inductive LeadJoin : List (List Block) → List (List Block) → Prop
  | lead {content joined : List Inline} (h : LineJoin content joined) (blocks : List Block)
      (rest : List (List Block)) :
      LeadJoin ((.paragraph content :: blocks) :: rest) ((.paragraph joined :: blocks) :: rest)
  | inside {item joined : List Block} (h : LeadJoinIn item joined) (rest : List (List Block)) :
      LeadJoin (item :: rest) (joined :: rest)
  | later (item : List Block) {rest joined : List (List Block)} (h : LeadJoin rest joined) :
      LeadJoin (item :: rest) (item :: joined)

/-- Blocks with lists of which one, at any depth, has such an item. -/
inductive LeadJoinIn : List Block → List Block → Prop
  | list (ordered : Bool) {items joined : List (List Block)} (h : LeadJoin items joined)
      (rest : List Block) : LeadJoinIn (.list ordered items :: rest) (.list ordered joined :: rest)
  | quote {blocks joined : List Block} (h : LeadJoinIn blocks joined) (rest : List Block) :
      LeadJoinIn (.quote blocks :: rest) (.quote joined :: rest)
  | later (block : Block) {rest joined : List Block} (h : LeadJoinIn rest joined) :
      LeadJoinIn (block :: rest) (block :: joined)

end

namespace LineJoin

variable {content joined : List Inline}

theorem append_left (h : LineJoin content joined) (front : List Inline) :
    LineJoin (front ++ content) (front ++ joined) := by
  induction front with
  | nil => exact h
  | cons first front ih => exact .later first ih

theorem inlines_eq (h : LineJoin content joined) (ticks : Bool) (state : Flat.State) :
    Flat.inlines ticks state joined = Flat.inlines ticks state content := by
  induction h generalizing state with
  | here s t behind =>
    have hb : ∀ state : Flat.State, state.prose " " = { state with gap := true } := fun _ => rfl
    have he : ∀ state : Flat.State, state.prose "" = state := fun _ => rfl
    cases s <;> cases t <;>
      simp only [optionalText, Option.map_none, Option.map_some, Option.toList_none,
        Option.toList_some, Option.getD_none, Option.getD_some, List.nil_append, List.cons_append,
        Flat.inlines, Flat.inline, Flat.State.prose_append, hb, he]
  | later first h ih => rw [Flat.inlines, Flat.inlines, ih]

theorem plainText_eq (h : LineJoin content joined) : plainText joined = plainText content := by
  rw [plainText, Flat.flatten, h.inlines_eq, plainText, Flat.flatten]

theorem richText_eq (h : LineJoin content joined) : richText joined = richText content := by
  rw [richText, Flat.flatten, h.inlines_eq, richText, Flat.flatten]

/-- A test that texts and line breaks pass leaves the lines to be joined. -/
theorem filter (h : LineJoin content joined) {p : Inline → Bool} (ht : ∀ s, p (.text s) = true)
    (hb : p .lineBreak = true) : LineJoin (content.filter p) (joined.filter p) := by
  induction h with
  | here s t behind =>
    have ho : ∀ s : Option String, (optionalText s).filter p = optionalText s := by
      intro s
      cases s with
      | none => rfl
      | some s => exact List.filter_cons_of_pos (ht s)
    rw [List.filter_append, List.filter_cons_of_pos hb, List.filter_append, ho, ho,
      List.filter_cons_of_pos (ht _)]
    exact .here s t _
  | later first h ih =>
    rw [List.filter_cons, List.filter_cons]
    split
    · exact .later first ih
    · exact ih

theorem description_eq (h : LineJoin content joined) :
    Bullet.description joined = Bullet.description content := by
  have hk : LineJoin (content.filter fun inline => inline.platforms?.isNone)
      (joined.filter fun inline => inline.platforms?.isNone) := h.filter (fun _ => rfl) rfl
  rw [Bullet.description, hk.richText_eq, Bullet.description]

/-- The same code stands at the front, or none before and after. -/
theorem code_or_not (h : LineJoin content joined) :
    (∃ code tail tail', content = .code code :: tail ∧ joined = .code code :: tail' ∧
      LineJoin tail tail') ∨
    (∀ code tail, content ≠ .code code :: tail) ∧ ∀ code tail, joined ≠ .code code :: tail := by
  cases h with
  | here s t behind =>
    refine .inr ⟨fun code tail hc => ?_, nofun⟩
    cases s with
    | none => cases hc
    | some s => cases hc
  | later first h =>
    cases first with
    | code code => exact .inl ⟨code, _, _, rfl, rfl, h⟩
    | _ => exact .inr ⟨nofun, nofun⟩

theorem ofLead_eq (h : LineJoin content joined) :
    PossibleValue.ofLead joined = PossibleValue.ofLead content := by
  obtain ⟨code, tail, tail', rfl, rfl, ht⟩ | ⟨hc, hj⟩ := h.code_or_not
  · rw [PossibleValue.ofLead, ht.richText_eq, PossibleValue.ofLead]
  · rw [PossibleValue.ofLead.eq_2 _ hc, PossibleValue.ofLead.eq_2 _ hj, h.plainText_eq]

end LineJoin

/-- Inlines whose line break stands in front of the type or in a union that is open, and the same
with the lines joined. -/
inductive BreaksType : List Inline → List Inline → Prop
  | gap {s : Option String} (hs : White (s.getD "")) (t : Option String) (behind : List Inline) :
      BreaksType (optionalText s ++ .lineBreak :: (optionalText t ++ behind))
        (.text (s.getD "" ++ " " ++ t.getD "") :: behind)
  | union {s : String} {inner : List Char} (hs : Text.trimStart s.toList = '(' :: inner)
      (ho : ')' ∉ inner) (t : Option String) (behind : List Inline) :
      BreaksType (optionalText (some s) ++ .lineBreak :: (optionalText t ++ behind))
        (.text (s ++ " " ++ t.getD "") :: behind)
  | blank {space : String} (hs : White space) {tail joined : List Inline}
      (h : BreaksType tail joined) : BreaksType (.text space :: tail) (.text space :: joined)

theorem trimStart_eq_nil {s : String} : Text.trimStart s.toList = [] ↔ White s := by
  rw [Text.trimStart, List.dropWhile_eq_nil_iff, White]

namespace Bullet

theorem type?_white {s : String} (hs : White s) (rest : List Inline) :
    type? (.text s :: rest) = type? rest := by
  rw [type?, trimStart_eq_nil.mpr hs]

theorem type?_text {s : String} (hs : ¬ White s) (rest : List Inline) :
    type? (.text s :: rest) =
      (typeWord? (Text.trimStart s.toList)).map fun (type, left) =>
        (type, textInlines left ++ rest) := by
  rw [type?]
  split
  · exact absurd (trimStart_eq_nil.mp ‹_›) hs
  · rfl

theorem typeWord?_open {inner : List Char} (h : ')' ∉ inner) :
    typeWord? ('(' :: inner) = none := by
  rw [typeWord?, Text.cut?_eq_none h]
  split <;> rfl

/-- The mark of what may be left out has no space in it. -/
theorem isSome_after?_space (s t : List Char) :
    (Text.after? optionalMarker (s ++ ' ' :: t)).isSome =
      (Text.after? optionalMarker s).isSome := by
  by_cases hs : optionalMarker.toList <+: s
  · obtain ⟨behind, rfl⟩ := hs
    rw [List.append_assoc, Text.after?_append, Text.after?_append]
    rfl
  · rw [Text.after?_eq_none hs, Text.after?_eq_none]
    exact fun h => hs (Text.prefix_of_mark (by decide) h)

theorem takeWhile_space (s t : List Char) :
    (s ++ ' ' :: t).takeWhile (fun c => !isWhite c) = s.takeWhile fun c => !isWhite c := by
  have ht : (' ' :: t).takeWhile (fun c => !isWhite c) = [] :=
    List.takeWhile_cons_of_neg (by decide)
  rw [List.takeWhile_append, ht, List.append_nil]
  split
  · exact ((List.takeWhile_prefix _).eq_of_length ‹_›).symm
  · rfl

/-- A space and what follows it are left over when a type is read that is not an open union. -/
theorem typeWord?_append {s : List Char} (hne : s ≠ [])
    (hc : ∀ inner, s = '(' :: inner → ')' ∈ inner) (t : List Char) :
    typeWord? (s ++ ' ' :: t) =
      (typeWord? s).map fun (type, left) => (type, left ++ ' ' :: t) := by
  have hm := isSome_after?_space s t
  have hh : (s ++ ' ' :: t).head? = s.head? := List.head?_append_of_ne_nil _ hne
  by_cases hu : ∃ inner, s = '(' :: inner
  · obtain ⟨inner, rfl⟩ := hu
    obtain ⟨union, behind, rfl, hn⟩ := List.eq_append_cons_of_mem (hc inner rfl)
    rw [List.cons_append] at hm hh ⊢
    rw [typeWord?, typeWord?, hm, hh, List.append_assoc, List.cons_append, Text.cut?_mark hn,
      Text.cut?_mark hn]
    dsimp only
    split
    · rfl
    · cases unionMembers union <;> rfl
  · have hu' : ∀ inner, s ++ ' ' :: t ≠ '(' :: inner := by
      rintro inner h
      cases s with
      | nil => exact hne rfl
      | cons c rest => exact hu ⟨rest, by rw [(List.cons.inj h).1]⟩
    have hl : (s.takeWhile fun c => !isWhite c).length ≤ s.length :=
      (List.takeWhile_prefix _).length_le
    rw [typeWord?, typeWord?, hm, hh, takeWhile_space]
    · dsimp only
      rw [List.drop_append_of_le_length hl]
      split
      · rfl
      · cases Text.dropEndWhile _ _ <;> rfl
    · exact fun inner h => hu ⟨inner, h⟩
    · exact hu'

theorem type?_append {s : String} (hne : Text.trimStart s.toList ≠ [])
    (hc : ∀ inner, Text.trimStart s.toList = '(' :: inner → ')' ∈ inner) (t : String)
    (rest : List Inline) :
    type? (.text (s ++ " " ++ t) :: rest) =
      (typeWord? (Text.trimStart s.toList)).map fun (type, left) =>
        (type, textInlines (left ++ ' ' :: t.toList) ++ rest) := by
  have hj : Text.trimStart (s ++ " " ++ t).toList = Text.trimStart s.toList ++ ' ' :: t.toList := by
    rw [String.toList_append, String.toList_append, List.append_assoc, Text.trimStart,
      List.dropWhile_append, if_neg (by rwa [List.isEmpty_iff])]
    rfl
  have hw : ¬ White (s ++ " " ++ t) := by
    rw [← trimStart_eq_nil, hj]
    exact List.append_ne_nil_of_left_ne_nil hne _
  rw [type?_text hw, hj, typeWord?_append hne hc, Option.map_map]
  rfl

end Bullet

/-- What is left of a text stands before the line break like the text did. -/
theorem lineJoin_textInlines (left : List Char) (t : Option String) (behind : List Inline) :
    LineJoin (Bullet.textInlines left ++ .lineBreak :: (optionalText t ++ behind))
      (Bullet.textInlines (left ++ ' ' :: (t.getD "").toList) ++ behind) := by
  have hj : Bullet.textInlines (left ++ ' ' :: (t.getD "").toList) =
      [.text (String.ofList left ++ " " ++ t.getD "")] := by
    rw [Bullet.textInlines, if_neg (by simp)]
    congr 2
    apply String.toList_inj.mp
    simp
  rw [hj]
  cases left with
  | nil => exact .here none t behind
  | cons c rest => exact .here (some (String.ofList (c :: rest))) t behind

theorem BreaksType.lineJoin {tail joined : List Inline} (h : BreaksType tail joined) :
    LineJoin tail joined := by
  induction h with
  | gap hs t behind => exact .here _ t behind
  | union hs ho t behind => exact .here (some _) t behind
  | blank hs _ ih => exact .later _ ih

theorem BreaksType.type?_eq_none {tail joined : List Inline} (h : BreaksType tail joined) :
    Bullet.type? tail = none := by
  induction h with
  | @gap s hs t behind =>
    cases s with
    | none => rfl
    | some s => exact Bullet.type?_white hs _
  | @union s inner hs ho t behind =>
    have hw : ¬ White s := by
      rw [← trimStart_eq_nil, hs]
      exact List.cons_ne_nil _ _
    exact (Bullet.type?_text hw _).trans (by rw [hs, Bullet.typeWord?_open ho]; rfl)
  | blank hs _ ih => rw [Bullet.type?_white hs, ih]

/-- A line break further behind is behind the type. -/
theorem LineJoin.type?_rel {tail joined : List Inline} (h : LineJoin tail joined) :
    BreaksType tail joined ∨
      Option.Rel (fun read again => read.1 = again.1 ∧ LineJoin read.2 again.2)
        (Bullet.type? tail) (Bullet.type? joined) := by
  induction h with
  | here s t behind =>
    by_cases hs : White (s.getD "")
    · exact .inl (.gap hs t behind)
    · cases s with
      | none => exact absurd (by decide) hs
      | some s =>
        rw [Option.getD_some] at hs
        by_cases ho : ∃ inner, Text.trimStart s.toList = '(' :: inner ∧ ')' ∉ inner
        · obtain ⟨inner, hi, hn⟩ := ho
          exact .inl (.union hi hn t behind)
        · have hne : Text.trimStart s.toList ≠ [] := fun he => hs (trimStart_eq_nil.mp he)
          have hc : ∀ inner, Text.trimStart s.toList = '(' :: inner → ')' ∈ inner :=
            fun inner hi => by_contra fun hn => ho ⟨inner, hi, hn⟩
          rw [Option.getD_some, Bullet.type?_append hne hc]
          refine .inr ((Bullet.type?_text hs _).symm ▸ ?_)
          cases Bullet.typeWord? (Text.trimStart s.toList) with
          | none => exact .none
          | some read => exact .some ⟨rfl, lineJoin_textInlines read.2 t behind⟩
  | @later first content joined h ih =>
    cases first with
    | text s =>
      by_cases hs : White s
      · rw [Bullet.type?_white hs, Bullet.type?_white hs]
        exact ih.imp_left (.blank hs)
      · rw [Bullet.type?_text hs, Bullet.type?_text hs]
        cases Bullet.typeWord? (Text.trimStart s.toList) with
        | none => exact .inr .none
        | some read => exact .inr (.some ⟨rfl, h.append_left _⟩)
    | link url content => exact .inr (.some ⟨rfl, h⟩)
    | code s => exact .inr (.some ⟨rfl, h⟩)
    | _ => exact .inr .none

theorem ofItem_congr {item joined : List Block} (h : Block.lead joined = Block.lead item) :
    Bullet.ofItem joined = Bullet.ofItem item := by
  rw [Bullet.ofItem, h, Bullet.ofItem]

theorem ofItem_of_named {code : String} (hc : trimmed code ≠ "") (tail : List Inline)
    (blocks : List Block) :
    Bullet.ofItem (.paragraph (.code code :: tail) :: blocks) =
      match Bullet.type? tail with
      | some (type, rest) => .ok ⟨trimmed code, type, rest⟩
      | none => .error (.noType (trimmed code)) := by
  rw [Bullet.ofItem]
  exact if_neg hc

theorem ofItem_of_no_code {lead : List Inline} (h : ∀ code tail, lead ≠ .code code :: tail)
    {blocks : List Block} :
    Bullet.ofItem (.paragraph lead :: blocks) = .error (.noName (plainText lead)) := by
  rw [Bullet.ofItem, Block.lead]
  split
  · exact absurd rfl (h _ _)
  · rfl

/-- The parameter read from a bullet is the same when lines of it are joined, except for a line
break before the end of the type. -/
theorem LineJoin.ofItem_map {content joined : List Inline} (h : LineJoin content joined)
    (requirement : Requirement) (blocks : List Block) :
    (∃ code tail tail', content = .code code :: tail ∧ joined = .code code :: tail' ∧
      trimmed code ≠ "" ∧ BreaksType tail tail') ∨
    (Bullet.ofItem (.paragraph joined :: blocks)).map (·.parameter requirement) =
      (Bullet.ofItem (.paragraph content :: blocks)).map (·.parameter requirement) := by
  have hp := h.plainText_eq
  obtain ⟨code, tail, tail', rfl, rfl, ht⟩ | ⟨hc, hj⟩ := h.code_or_not
  · by_cases hn : trimmed code = ""
    · right
      simp only [Bullet.ofItem, Block.lead, if_pos hn, hp]
    · obtain hb | hr := ht.type?_rel
      · exact .inl ⟨code, tail, tail', rfl, rfl, hn, hb⟩
      · right
        rw [ofItem_of_named hn, ofItem_of_named hn]
        generalize Bullet.type? tail = read, Bullet.type? tail' = again at hr
        cases hr with
        | none => rfl
        | @some read again hr =>
          obtain ⟨type, rest⟩ := read
          obtain ⟨_, rest'⟩ := again
          obtain ⟨rfl, hl⟩ := hr
          simp only [Except.map, Bullet.parameter_eq, hl.description_eq]
  · right
    rw [ofItem_of_no_code hc, ofItem_of_no_code hj, hp]

theorem parametersOf_singleton (member : String) (requirement : Requirement)
    (item : List Block) :
    parametersOf member requirement [item] =
      match (Bullet.ofItem item).map (·.parameter requirement) with
      | .error fault => ([], [fault.defect member])
      | .ok p =>
        ([(nestedDocs member requirement p item).1], (nestedDocs member requirement p item).2) := by
  rw [parametersOf, parametersOf]
  cases Bullet.ofItem item with
  | error fault => rfl
  | ok bullet => simp only [Except.map, List.append_nil]

theorem parametersOf_cons (member : String) (requirement : Requirement) (item : List Block)
    (rest : List (List Block)) :
    parametersOf member requirement (item :: rest) =
      ((parametersOf member requirement [item]).1 ++ (parametersOf member requirement rest).1,
        (parametersOf member requirement [item]).2 ++ (parametersOf member requirement rest).2) := by
  rw [parametersOf, parametersOf_singleton]
  cases Bullet.ofItem item <;> rfl

theorem parametersOf_cons_left_iff (member : String) (requirement : Requirement)
    (item joined : List Block) (rest : List (List Block)) :
    parametersOf member requirement (joined :: rest) =
        parametersOf member requirement (item :: rest) ↔
      parametersOf member requirement [joined] = parametersOf member requirement [item] := by
  rw [parametersOf_cons, parametersOf_cons _ _ item, Prod.mk.injEq, List.append_left_inj,
    List.append_left_inj, Prod.ext_iff]

theorem parametersOf_cons_right_iff (member : String) (requirement : Requirement)
    (item : List Block) (rest joined : List (List Block)) :
    parametersOf member requirement (item :: joined) =
        parametersOf member requirement (item :: rest) ↔
      parametersOf member requirement joined = parametersOf member requirement rest := by
  rw [parametersOf_cons, parametersOf_cons _ _ item rest, Prod.mk.injEq, List.append_right_inj,
    List.append_right_inj, Prod.ext_iff]

theorem describesProperties_parameter (bullet : Bullet) (requirement : Requirement) :
    describesProperties (bullet.parameter requirement).type
        (bullet.parameter requirement).description =
      describesProperties bullet.type (Bullet.description bullet.rest).1 := by
  rw [Bullet.parameter_eq]

/-- The texts inside an item do not belong to its leading paragraph. -/
theorem LeadJoinIn.lead_eq {item joined : List Block} (h : LeadJoinIn item joined) :
    Block.lead joined = Block.lead item := by
  cases h with
  | list => rfl
  | quote => rfl
  | later block => cases block <;> rfl

theorem LeadJoin.possibleValues_eq {items joined : List (List Block)} (h : LeadJoin items joined)
    (member parameter : String) :
    possibleValues member parameter joined = possibleValues member parameter items := by
  cases h with
  | lead h blocks rest =>
    rw [possibleValues, possibleValues]
    dsimp only [Block.lead]
    rw [h.ofLead_eq, h.plainText_eq]
  | inside h rest => rw [possibleValues, h.lead_eq, possibleValues]
  | later item h => rw [possibleValues, h.possibleValues_eq, possibleValues]

mutual

/-- Items of which one, documenting a parameter or a property, has a type only once two lines of its
leading paragraph are joined. -/
inductive Reveals : List (List Block) → List (List Block) → Prop
  | lead {code : String} (hc : trimmed code ≠ "") {tail joined : List Inline}
      (h : BreaksType tail joined) (ht : (Bullet.type? joined).isSome = true) (blocks : List Block)
      (rest : List (List Block)) :
      Reveals ((.paragraph (.code code :: tail) :: blocks) :: rest)
        ((.paragraph (.code code :: joined) :: blocks) :: rest)
  | inside {item joined : List Block} {bullet : Bullet} (hb : Bullet.ofItem item = .ok bullet)
      (hd : describesProperties bullet.type (Bullet.description bullet.rest).1 = true)
      (h : RevealsIn item joined) (rest : List (List Block)) :
      Reveals (item :: rest) (joined :: rest)
  | later (item : List Block) {rest joined : List (List Block)} (h : Reveals rest joined) :
      Reveals (item :: rest) (item :: joined)

/-- Blocks the first list of which has such an item. -/
inductive RevealsIn : List Block → List Block → Prop
  | list (ordered : Bool) {items joined : List (List Block)} (h : Reveals items joined)
      (rest : List Block) : RevealsIn (.list ordered items :: rest) (.list ordered joined :: rest)
  | later {block : Block} (hb : block.items? = none) {rest joined : List Block}
      (h : RevealsIn rest joined) : RevealsIn (block :: rest) (block :: joined)

end

mutual

theorem Reveals.leadJoin {items joined : List (List Block)} :
    Reveals items joined → LeadJoin items joined
  | .lead _ h _ blocks rest => .lead (.later _ h.lineJoin) blocks rest
  | .inside _ _ h rest => .inside h.leadJoinIn rest
  | .later item h => .later item h.leadJoin

theorem RevealsIn.leadJoinIn {item joined : List Block} :
    RevealsIn item joined → LeadJoinIn item joined
  | .list ordered h rest => .list ordered h.leadJoin rest
  | .later _ h => .later _ h.leadJoinIn

end

theorem nestedDocs_properties {p : Parameter} (hd : describesProperties p.type p.description = true)
    (member : String) (requirement : Requirement) (ordered : Bool) (items : List (List Block))
    (rest : List Block) :
    nestedDocs member requirement p (.list ordered items :: rest) =
      ({ p with
          properties := some (parametersOf s!"{member}.{p.name}" requirement.nested items).1 },
        (parametersOf s!"{member}.{p.name}" requirement.nested items).2) := by
  rw [nestedDocs, if_pos hd]

theorem nestedDocs_of_items? {block : Block} (hb : block.items? = none) (member : String)
    (requirement : Requirement) (p : Parameter) (rest : List Block) :
    nestedDocs member requirement p (block :: rest) = nestedDocs member requirement p rest := by
  rw [nestedDocs]
  rintro ordered items rfl
  cases hb

-- Both inductions are on the place where the lines are joined. What that place is to the reader shows
-- on the way down only, from the type of each parameter and the lists passed.
mutual

theorem LeadJoin.parametersOf_eq {items joined : List (List Block)} :
    LeadJoin items joined → ¬ Reveals items joined → ∀ member requirement,
      parametersOf member requirement joined = parametersOf member requirement items
  | .lead h blocks rest, hr, member, requirement => by
    rw [parametersOf_cons_left_iff, parametersOf_singleton, parametersOf_singleton]
    obtain ⟨code, tail, tail', rfl, rfl, hc, hb⟩ | he := h.ofItem_map requirement blocks
    · have ht : Bullet.type? tail' = none := by
        rw [← Option.not_isSome_iff_eq_none]
        exact fun ht => hr (.lead hc hb ht blocks rest)
      rw [ofItem_of_named hc, ofItem_of_named hc, ht, hb.type?_eq_none]
      rfl
    · have hn : ∀ content p, nestedDocs member requirement p (.paragraph content :: blocks) =
          nestedDocs member requirement p blocks :=
        fun _ p => nestedDocs_of_items? rfl member requirement p blocks
      rw [he]
      simp only [hn]
  | @LeadJoin.inside item joined h rest, hr, member, requirement => by
    rw [parametersOf_cons_left_iff, parametersOf_singleton, ofItem_congr h.lead_eq,
      parametersOf_singleton]
    cases hb : Bullet.ofItem item with
    | error fault => rfl
    | ok bullet =>
      have hn : describesProperties (bullet.parameter requirement).type
          (bullet.parameter requirement).description = true → ¬ RevealsIn item joined := by
        rw [describesProperties_parameter]
        exact fun hd hr' => hr (.inside hb hd hr' rest)
      dsimp only [Except.map]
      rw [h.nestedDocs_eq hn]
  | .later item h, hr, member, requirement => by
    rw [parametersOf_cons_right_iff, h.parametersOf_eq fun hr' => hr (.later item hr')]

theorem LeadJoinIn.nestedDocs_eq {item joined : List Block} : LeadJoinIn item joined →
    ∀ {p : Parameter},
      (describesProperties p.type p.description = true → ¬ RevealsIn item joined) →
      ∀ member requirement,
        nestedDocs member requirement p joined = nestedDocs member requirement p item
  | .list ordered h rest, p, hr, member, requirement => by
    by_cases hd : describesProperties p.type p.description = true
    · rw [nestedDocs_properties hd, nestedDocs_properties hd,
        h.parametersOf_eq fun hr' => hr hd (.list ordered hr' rest)]
    · rw [nestedDocs, nestedDocs, if_neg hd, if_neg hd, h.possibleValues_eq]
  | .quote h rest, _, _, _, _ => by
    rw [nestedDocs_of_items? rfl, nestedDocs_of_items? rfl]
  | .later block h, _, hr, _, _ => by
    cases hb : block.items? with
    | none =>
      rw [nestedDocs_of_items? hb, nestedDocs_of_items? hb]
      exact h.nestedDocs_eq (fun hd hr' => hr hd (.later hb hr')) _ _
    | some items =>
      cases block with
      | list ordered items => rw [nestedDocs, nestedDocs]
      | _ => cases hb

end

mutual

theorem Reveals.parametersOf_ne {items joined : List (List Block)} : Reveals items joined →
    ∀ member requirement,
      parametersOf member requirement joined ≠ parametersOf member requirement items
  | .lead hc h ht blocks rest, member, requirement => by
    obtain ⟨read, hr⟩ := Option.isSome_iff_exists.mp ht
    rw [Ne, parametersOf_cons_left_iff, parametersOf_singleton, parametersOf_singleton,
      ofItem_of_named hc, ofItem_of_named hc, hr, h.type?_eq_none]
    dsimp only [Except.map]
    exact fun he => List.cons_ne_nil _ _ (Prod.mk.inj he).1
  | @Reveals.inside item joined bullet hb hd h rest, member, requirement => by
    rw [← describesProperties_parameter bullet requirement] at hd
    have hn := h.nestedDocs_ne hd member requirement
    rw [Ne, parametersOf_cons_left_iff, parametersOf_singleton,
      ofItem_congr h.leadJoinIn.lead_eq, parametersOf_singleton, hb]
    dsimp only [Except.map]
    intro he
    obtain ⟨hp, hf⟩ := Prod.mk.inj he
    exact hn (Prod.ext (List.cons.inj hp).1 hf)
  | .later item h, member, requirement => by
    rw [Ne, parametersOf_cons_right_iff]
    exact h.parametersOf_ne member requirement

theorem RevealsIn.nestedDocs_ne {item joined : List Block} : RevealsIn item joined →
    ∀ {p : Parameter}, describesProperties p.type p.description = true →
      ∀ member requirement,
        nestedDocs member requirement p joined ≠ nestedDocs member requirement p item
  | .list ordered h rest, p, hd, member, requirement => by
    have hn := h.parametersOf_ne s!"{member}.{p.name}" requirement.nested
    rw [nestedDocs_properties hd, nestedDocs_properties hd]
    intro he
    obtain ⟨hp, hf⟩ := Prod.mk.inj he
    exact hn (Prod.ext (Option.some.inj (congrArg Parameter.properties hp)) hf)
  | .later hb h, _, hd, member, requirement => by
    rw [nestedDocs_of_items? hb, nestedDocs_of_items? hb]
    exact h.nestedDocs_ne hd member requirement

end

/-- Joining two lines of the leading paragraph of an item leaves all that is documented and all
defects as they were, unless a type shows by it. -/
theorem LeadJoin.parametersOf_eq_iff {items joined : List (List Block)}
    (h : LeadJoin items joined) (member : String) (requirement : Requirement) :
    parametersOf member requirement joined = parametersOf member requirement items ↔
      ¬ Reveals items joined :=
  ⟨fun he hr => hr.parametersOf_ne member requirement he,
    fun hr => h.parametersOf_eq hr member requirement⟩

/-- A bullet that is wrapped behind its type. -/
def wrappedBullet : List (List Block) :=
  [[.paragraph [.code "url", .text " String (optional) - Where", .lineBreak, .text "to go."]]]

/-- The same bullet on one line. -/
def joinedBullet : List (List Block) :=
  [[.paragraph [.code "url", .text " String (optional) - Where to go."]]]

theorem parametersOf_joinedBullet :
    LeadJoin wrappedBullet joinedBullet ∧
      parametersOf "loadURL" (.tracked []) joinedBullet =
        parametersOf "loadURL" (.tracked []) wrappedBullet := by
  have h : LeadJoin wrappedBullet joinedBullet :=
    .lead (.later _ (.here (some " String (optional) - Where") (some "to go.") [])) [] []
  refine ⟨h, (h.parametersOf_eq_iff "loadURL" (.tracked [])).mpr fun hr => ?_⟩
  generalize hw : wrappedBullet = items at hr
  generalize hj : joinedBullet = joined at hr
  cases hr with
  | lead hc hb =>
    cases hw
    exact absurd hb.type?_eq_none (by decide)
  | inside hb hd h =>
    have he := h.leadJoinIn.lead_eq
    rw [← (List.cons.inj hw).1, ← (List.cons.inj hj).1] at he
    simp [Block.lead] at he
  | later item h =>
    have he := (List.cons.inj hw).1.trans (List.cons.inj hj).1.symm
    simp at he

/-- A line break in front of a type hides it. -/
theorem not_forall_parametersOf_eq :
    ¬ ∀ items joined, LeadJoin items joined → ∀ member requirement,
      parametersOf member requirement joined = parametersOf member requirement items := by
  intro h
  have hj : LeadJoin [[.paragraph [.code "name", .lineBreak, .text "String - The name."]]]
      [[.paragraph [.code "name", .text " String - The name."]]] :=
    .lead (.later _ (.here none (some "String - The name.") [])) [] []
  have hr : Reveals [[.paragraph [.code "name", .lineBreak, .text "String - The name."]]]
      [[.paragraph [.code "name", .text " String - The name."]]] :=
    .lead (by decide) (.gap (s := none) (by decide) (some "String - The name.") []) (by decide) [] []
  exact hr.parametersOf_ne "app.x" .untracked (h _ _ hj "app.x" .untracked)

end ApiDocs
