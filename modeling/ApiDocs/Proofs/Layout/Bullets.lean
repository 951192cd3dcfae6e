import ApiDocs.Proofs.Document.Shape
import ApiDocs.Proofs.Layout.Names

/-!
# Bullets in every layout

The type of a parameter can be a word, a union in parentheses, a link or a code span; it can be
marked as one that may be left out in several places; and markers of platforms can stand anywhere
behind the type. The parameter that is read does not depend on which of these layouts was chosen.
-/

namespace ApiDocs

open Unicode

def White (s : String) : Prop :=
  ∀ c ∈ s.toList, isWhite c = true

instance (s : String) : Decidable (White s) :=
  decidable_of_iff (s.toList.all isWhite = true) List.all_eq_true

/-- A member of a union that can stand between its marks. -/
structure UnionMember (member : String) : Prop where
  member_ne : member ≠ ""
  member_trimmed : trimmed member = member
  unparted : '|' ∉ member.toList
  enclosed : ')' ∉ member.toList

/-- Whether inlines give a type, and which inlines follow it. -/
inductive Typed (type : String) : List Inline → List Inline → Prop
  | blank {space : String} {behind tail : List Inline} (hs : White space)
      (h : Typed type behind tail) : Typed type (.text space :: behind) tail
  | word {space left : String} {rest : List Inline} (hs : White space) (hw : TypeWord type)
      (hl : ∀ c ∈ left.toList.head?, isWhite c = true) :
      Typed type (.text (space ++ type ++ left) :: rest) (Bullet.textInlines left.toList ++ rest)
  | union {space left : String} {members : List String} {rest : List Inline} (hs : White space)
      (hne : members ≠ []) (hm : ∀ member ∈ members, UnionMember member)
      (ht : type = " | ".intercalate members) :
      Typed type (.text (space ++ "( " ++ type ++ " )" ++ left) :: rest)
        (Bullet.textInlines left.toList ++ rest)
  | link {url : String} {content rest : List Inline} (ht : plainText content = type) :
      Typed type (.link url content :: rest) rest
  | code {rest : List Inline} (ht : trimmed type = type) : Typed type (.code type :: rest) rest

theorem TypeWord.typeWord?_append {type : String} (h : TypeWord type) {left : List Char}
    (hl : ∀ c ∈ left.head?, isWhite c = true) :
    Bullet.typeWord? (type.toList ++ left) = some (type, left) := by
  have hw : (type.toList ++ left).takeWhile (fun c => !isWhite c) = type.toList := by
    have hn : left.takeWhile (fun c => !isWhite c) = [] := by
      cases left with
      | nil => rfl
      | cons c rest => rw [List.takeWhile_cons_of_neg (by simp [hl c rfl])]
    rw [List.takeWhile_append_of_pos fun c hc => by rw [h.unbroken c hc, Bool.not_false], hn,
      List.append_nil]
  have hd : Text.dropEndWhile (fun c => c == ',' || c == ':') type.toList = type.toList := by
    refine List.rdropWhile_eq_self_iff.mpr fun hs => ?_
    have hc := h.last _ (List.getLast?_eq_some_getLast hs)
    simp [hc]
  cases hs : type.toList with
  | nil => exact absurd (String.toList_eq_nil_iff.mp hs) h.type_ne
  | cons c rest =>
    obtain ⟨hdash, hparen⟩ := h.head c (by rw [hs]; rfl)
    have ha : Text.after? Bullet.optionalMarker (c :: rest ++ left) = none :=
      Text.after?_eq_none (by simp [Bullet.optionalMarker, Ne.symm hparen])
    rw [hs] at hw hd
    rw [Bullet.typeWord?, ha]
    · split
      · rename_i hm
        simp [hdash] at hm
      · simp only [hw, hd, List.drop_left]
        rw [← hs, String.ofList_toList]
    · rintro inner hi
      cases hi
      exact hparen rfl

/-- The members of a union with a space on either side. -/
def padded (member : List Char) : List Char :=
  ' ' :: member ++ [' ']

theorem cons_intercalate_concat {members : List (List Char)} (hne : members ≠ []) :
    ' ' :: " | ".toList.intercalate members ++ [' '] = ['|'].intercalate (members.map padded) := by
  induction members with
  | nil => exact absurd rfl hne
  | cons member rest ih =>
    cases rest with
    | nil => simp [padded]
    | cons next rest =>
      have hr := ih (List.cons_ne_nil _ _)
      rw [List.map_cons] at hr
      rw [List.map_cons, List.map_cons, List.intercalate_cons_cons, List.intercalate_cons_cons,
        ← hr]
      simp [padded]

theorem notMem_intercalate {c : Char} {separator : List Char} (hs : c ∉ separator)
    {parts : List (List Char)} (hp : ∀ part ∈ parts, c ∉ part) :
    c ∉ separator.intercalate parts := by
  induction parts with
  | nil => simp
  | cons part rest ih =>
    rw [List.forall_mem_cons] at hp
    cases rest with
    | nil => simpa using hp.1
    | cons next rest =>
      rw [List.intercalate_cons_cons, List.mem_append, List.mem_append, not_or, not_or]
      exact ⟨⟨hp.1, hs⟩, ih hp.2⟩

theorem trim_padded {member : List Char} (h : Text.Tight member) (hne : member ≠ []) :
    Text.trim (padded member) = member := by
  rw [padded, List.cons_append, Text.trim_space, h.trim_append hne]
  exact List.append_nil _

theorem unionMembers_eq {members : List String} (hne : members ≠ [])
    (hm : ∀ member ∈ members, UnionMember member) :
    Bullet.unionMembers (' ' :: (" | ".intercalate members).toList ++ [' ']) =
      members.map String.toList := by
  have hp : ∀ part ∈ (members.map String.toList).map padded, '|' ∉ part := by
    simp only [List.map_map, List.forall_mem_map]
    intro member hmem
    simp [padded, (hm member hmem).unparted]
  have ht : ((members.map String.toList).map padded).map Text.trim = members.map String.toList := by
    rw [List.map_map, List.map_map]
    refine List.map_congr_left fun member hmem => ?_
    obtain ⟨hn, htrim, -, -⟩ := hm member hmem
    exact trim_padded (Text.tight_of_trimmed htrim) (by simpa using hn)
  rw [Bullet.unionMembers, String.toList_intercalate, cons_intercalate_concat (by simpa using hne),
    List.splitOn_intercalate '|' hp (by simpa using hne), ht, List.filter_eq_self]
  simp only [List.forall_mem_map]
  intro member hmem
  simpa using (hm member hmem).member_ne

/-- A union is read up to its closing mark. -/
theorem typeWord?_union {members : List String} (hne : members ≠ [])
    (hm : ∀ member ∈ members, UnionMember member) (left : List Char) :
    Bullet.typeWord? ('(' :: ' ' :: (" | ".intercalate members).toList ++ ' ' :: ')' :: left) =
      some (" | ".intercalate members, left) := by
  have ha : Text.after? Bullet.optionalMarker
      ('(' :: ' ' :: (" | ".intercalate members).toList ++ ' ' :: ')' :: left) = none :=
    Text.after?_eq_none (by simp [Bullet.optionalMarker])
  have hc : ')' ∉ ' ' :: (" | ".intercalate members).toList ++ [' '] := by
    have hi : ')' ∉ (" | ".intercalate members).toList := by
      rw [String.toList_intercalate]
      refine notMem_intercalate (by decide) fun part hp => ?_
      obtain ⟨member, hmem, rfl⟩ := List.mem_map.mp hp
      exact (hm member hmem).enclosed
    simpa using hi
  have hcut := Text.cut?_mark hc left
  have hmembers := unionMembers_eq hne hm
  have htext : ' ' :: (" | ".intercalate members).toList ++ ' ' :: ')' :: left =
      ' ' :: (" | ".intercalate members).toList ++ [' '] ++ ')' :: left := by simp
  rw [List.cons_append, htext] at ha ⊢
  rw [Bullet.typeWord?, ha, Option.isSome_none, List.head?_cons]
  have hjoin : String.ofList (" | ".toList.intercalate (members.map String.toList)) =
      " | ".intercalate members := by rw [← String.toList_intercalate, String.ofList_toList]
  simp only [hcut, hmembers]
  cases members with
  | nil => exact absurd rfl hne
  | cons first rest =>
    rw [← hjoin]
    rfl

theorem Typed.type?_eq {type : String} {behind tail : List Inline} (h : Typed type behind tail) :
    Bullet.type? behind = some (type, tail) := by
  induction h with
  | @blank space behind tail hs _ ih =>
    have ht : Text.trimStart space.toList = [] := by
      have hw := Text.trimStart_append hs []
      rwa [List.append_nil] at hw
    rw [Bullet.type?, ht]
    exact ih
  | @word space left rest hs hw hl =>
    have ht : Text.trimStart (space ++ type ++ left).toList = type.toList ++ left.toList := by
      rw [String.toList_append, String.toList_append, List.append_assoc, Text.trimStart_append hs,
        Text.trimStart_of_head]
      rw [List.head?_append_of_ne_nil _ (by simpa using hw.type_ne)]
      exact fun c hc => hw.unbroken c (List.mem_of_mem_head? hc)
    rw [Bullet.type?, ht]
    split
    · rename_i he
      exact absurd (String.toList_eq_nil_iff.mp (List.append_eq_nil_iff.mp he).1) hw.type_ne
    · rw [hw.typeWord?_append hl]
      rfl
  | @union space left members rest hs hne hm ht =>
    have htrim : Text.trimStart (space ++ "( " ++ type ++ " )" ++ left).toList =
        '(' :: ' ' :: type.toList ++ ' ' :: ')' :: left.toList := by
      simp only [String.toList_append, List.append_assoc]
      rw [Text.trimStart_append hs]
      rfl
    subst ht
    rw [Bullet.type?, htrim]
    split
    · rename_i he
      cases he
    · rw [typeWord?_union hne hm]
      rfl
  | link ht => rw [Bullet.type?, ht]
  | code ht => rw [Bullet.type?, ht]

/-- Whether inlines are others among which marks were put anywhere. A text can be split for that,
and texts next to each other can be one. -/
inductive Spread (mark : Inline → Bool) (inlines : List Inline) : List Inline → Prop
  | refl : Spread mark inlines inlines
  | insert {front behind : List Inline} {inline : Inline} (hm : mark inline = true)
      (h : Spread mark inlines (front ++ behind)) :
      Spread mark inlines (front ++ inline :: behind)
  | split {front behind : List Inline} {s t : String}
      (h : Spread mark inlines (front ++ .text (s ++ t) :: behind)) :
      Spread mark inlines (front ++ .text s :: .text t :: behind)
  | join {front behind : List Inline} {s t : String}
      (h : Spread mark inlines (front ++ .text s :: .text t :: behind)) :
      Spread mark inlines (front ++ .text (s ++ t) :: behind)

theorem inlines_split (ticks : Bool) (state : Flat.State) (s t : String) (rest : List Inline) :
    Flat.inlines ticks state (.text s :: .text t :: rest) =
      Flat.inlines ticks state (.text (s ++ t) :: rest) := by
  simp only [Flat.inlines, Flat.inline, Flat.State.prose_append]

/-- Apart from the marks, the flat text is the same. -/
theorem Spread.richText_eq {mark : Inline → Bool} (ht : ∀ s, mark (.text s) = false)
    {inlines written : List Inline} (h : Spread mark inlines written) :
    richText (written.filter fun inline => !mark inline) =
      richText (inlines.filter fun inline => !mark inline) := by
  have hsplit : ∀ (front behind : List Inline) (s t : String),
      richText ((front ++ .text s :: .text t :: behind).filter fun inline => !mark inline) =
        richText ((front ++ .text (s ++ t) :: behind).filter fun inline => !mark inline) := by
    intro front behind s t
    simp only [List.filter_append, List.filter_cons, ht, Bool.not_false, if_true, richText,
      Flat.flatten, Flat.inlines_append, inlines_split]
  induction h with
  | refl => rfl
  | @insert front behind inline hm _ ih =>
    rw [← ih, List.filter_append, List.filter_append, List.filter_cons_of_neg (by simp [hm])]
  | @split front behind s t _ ih => rw [hsplit, ih]
  | @join front behind s t _ ih => rw [← hsplit, ih]

def Inline.namesPlatforms (inline : Inline) : Bool :=
  inline.platforms?.isSome

/-- Whether inlines say a description. -/
structure Says (content : List Inline) (description : String) : Prop where
  richText_eq : richText content = description
  description_ne : description ≠ ""
  no_platforms : ∀ inline ∈ content, inline.namesPlatforms = false

/-- The layouts of a description behind a type, with the mark of what may be left out or not. -/
inductive Described : Bool → String → List Inline → Prop
  | nothing : Described false "" []
  | mark : Described true "" [.text " (optional)"]
  | dash {description : String} {content : List Inline} (h : Says content description)
      (hu : ¬ Bullet.optionalMarker.toList <+: description.toList) :
      Described false description (.text " - " :: content)
  | markDash {description : String} {content : List Inline} (h : Says content description)
      (hu : ¬ Bullet.optionalMarker.toList <+: description.toList) :
      Described true description (.text " (optional) - " :: content)
  | dashMark {description : String} {content : List Inline} (h : Says content description) :
      Described true description (.text " - (optional) " :: content)
  | markOnly {description : String} {content : List Inline} (h : Says content description)
      (hu : ¬ Bullet.optionalMarker.toList <+: description.toList)
      (hd : description.toList.head? ≠ some '-') :
      Described true description (.text " (optional) " :: content)

theorem afterDash_dash {s : List Char} (h : Text.Tight s) (hne : s ≠ []) :
    afterDash ('-' :: ' ' :: s) = s := by
  have ht := (Text.tight_cons_append (c := '-') (by decide) h hne [' ']).trim_eq
  have ha : Text.after? "-" ('-' :: ' ' :: s) = some (' ' :: s) := Text.after?_append "-" (' ' :: s)
  change Text.trim ((Text.after? "-" (Text.trim ('-' :: ' ' :: s))).getD _) = s
  rw [show Text.trim ('-' :: ' ' :: s) = '-' :: ' ' :: s from ht, ha, Option.getD_some,
    Text.trim_space, h.trim_eq]

theorem afterOptional_marked (s : List Char) :
    afterOptional (Bullet.optionalMarker.toList ++ s) = (Text.trimStart s, true) := by
  rw [afterOptional, Text.after?_append]

theorem afterOptional_unmarked {s : List Char} (h : ¬ Bullet.optionalMarker.toList <+: s) :
    afterOptional s = (s, false) := by
  rw [afterOptional, Text.after?_eq_none h]

/-- What flat text behind a type says. -/
def told (s : List Char) : String × Bool :=
  let (text, first) := afterOptional (Text.trim s)
  let (text, second) := afterOptional (afterDash text)
  (String.ofList text, first || second)

theorem afterDash_eq_self {s : List Char} (h : Text.Tight s) (hd : s.head? ≠ some '-') :
    afterDash s = s := by
  have hn : Text.after? "-" s = none := Text.after?_eq_none (by
    rintro ⟨rest, rfl⟩
    exact hd rfl)
  rw [afterDash, h.trim_eq, hn, Option.getD_none, h.trim_eq]

namespace Says

variable {content : List Inline} {description : String}

theorem tight (h : Says content description) : Text.Tight description.toList :=
  h.richText_eq ▸ tight_richText content

theorem toList_ne (h : Says content description) : description.toList ≠ [] := by
  simpa using h.description_ne

/-- Behind a text with a space at its end a description stands as it is. -/
theorem richText_cons (h : Says content description) {front : String} {text : List Char}
    (ht : text ≠ []) (hf : Flat.State.start.prose front = ⟨text.reverse, true⟩) :
    (richText (.text front :: content)).toList = text ++ ' ' :: description.toList := by
  have hr := @richText_behind [.text front] content text ht hf (h.richText_eq ▸ h.description_ne)
  rwa [h.richText_eq] at hr

end Says

theorem trimStart_space {s : List Char} (h : Text.Tight s) : Text.trimStart (' ' :: s) = s := by
  rw [Text.trimStart, List.dropWhile_cons_of_pos (by decide)]
  exact Text.trimStart_of_head h.head

/-- The description and the mark are read back from every layout. -/
theorem Described.told_richText {marked : Bool} {description : String} {inlines : List Inline}
    (h : Described marked description inlines) :
    told (richText inlines).toList = (description, marked) := by
  rw [told, (tight_richText inlines).trim_eq]
  cases h with
  | nothing => rfl
  | mark => rfl
  | dash h hu =>
    have hr := @Says.richText_cons _ _ h " - " ['-'] (by simp) rfl
    rw [hr, afterOptional_unmarked (by simp [Bullet.optionalMarker])]
    simp only [List.singleton_append, afterDash_dash h.tight h.toList_ne, afterOptional_unmarked hu,
      String.ofList_toList, Bool.or_self]
  | markDash h hu =>
    have hr := @Says.richText_cons _ _ h " (optional) - " "(optional) -".toList (by simp) rfl
    have hd : Text.Tight ('-' :: ' ' :: description.toList) :=
      Text.tight_cons_append (by decide) h.tight h.toList_ne [' ']
    have hm : "(optional) -".toList ++ ' ' :: description.toList =
        Bullet.optionalMarker.toList ++ ' ' :: '-' :: ' ' :: description.toList := rfl
    rw [hr, hm, afterOptional_marked, trimStart_space hd]
    simp only [afterDash_dash h.tight h.toList_ne, afterOptional_unmarked hu, String.ofList_toList,
      Bool.or_false]
  | dashMark h =>
    have hr := @Says.richText_cons _ _ h " - (optional) " "- (optional)".toList (by simp) rfl
    have ht : Text.Tight (Bullet.optionalMarker.toList ++ ' ' :: description.toList) :=
      Text.tight_cons_append (by decide) h.tight h.toList_ne "optional) ".toList
    have hm : "- (optional)".toList ++ ' ' :: description.toList =
        '-' :: ' ' :: (Bullet.optionalMarker.toList ++ ' ' :: description.toList) := rfl
    rw [hr, hm, afterOptional_unmarked (by simp [Bullet.optionalMarker])]
    simp only [afterDash_dash ht (by simp), afterOptional_marked, trimStart_space h.tight,
      String.ofList_toList, Bool.or_true]
  | markOnly h hu hd =>
    have hr := @Says.richText_cons _ _ h " (optional) " "(optional)".toList (by simp) rfl
    have hm : "(optional)".toList ++ ' ' :: description.toList =
        Bullet.optionalMarker.toList ++ ' ' :: description.toList := rfl
    rw [hr, hm, afterOptional_marked, trimStart_space h.tight]
    simp only [afterDash_eq_self h.tight hd, afterOptional_unmarked hu, String.ofList_toList,
      Bool.or_false]

theorem Described.no_platforms {marked : Bool} {description : String} {inlines : List Inline}
    (h : Described marked description inlines) :
    ∀ inline ∈ inlines, inline.namesPlatforms = false := by
  cases h with
  | nothing => exact fun _ hm => absurd hm List.not_mem_nil
  | mark => exact List.forall_mem_singleton.mpr rfl
  | dash h _ | markDash h _ | dashMark h | markOnly h _ _ =>
    exact List.forall_mem_cons.mpr ⟨rfl, h.no_platforms⟩

/-- Markers of platforms do not change what is said. -/
theorem Described.description_eq {marked : Bool} {description : String}
    {inlines tail : List Inline} (h : Described marked description inlines)
    (hs : Spread Inline.namesPlatforms inlines tail) :
    Bullet.description tail = (description, marked) := by
  have hkept : inlines.filter (fun inline => !inline.namesPlatforms) = inlines :=
    List.filter_eq_self.mpr fun inline hi => by rw [h.no_platforms inline hi, Bool.not_false]
  have hnone : (fun inline : Inline => inline.platforms?.isNone) =
      fun inline => !inline.namesPlatforms := by
    funext inline
    rw [Inline.namesPlatforms, Option.not_isSome]
  have hr := hs.richText_eq fun _ => rfl
  rw [hkept] at hr
  rw [← h.told_richText, ← hr, ← hnone]
  rfl

/-- The items of a possible value. -/
inductive PossibleValue.Bulleted : PossibleValue → List Block → Prop
  | bare {value : String} (hn : value ≠ "") (ht : trimmed value = value) :
      Bulleted ⟨value, ""⟩ [.paragraph [.code value]]
  | described {value description : String} {content tail : List Inline} (hn : value ≠ "")
      (ht : trimmed value = value) (hc : richText content = description) (hd : description ≠ "")
      (hs : Spread (fun _ => false) (.text " - " :: content) tail) :
      Bulleted ⟨value, description⟩ [.paragraph (.code value :: tail)]

/-- The fronts of the items of a parameter, under a rule that says whether it is required. -/
inductive Parameter.Lead (requirement : Requirement) (p : Parameter) : List Inline → Prop
  | intro {behind tail inlines : List Inline} {marked : Bool} (hn : p.name ≠ "")
      (ht : trimmed p.name = p.name) (type : Typed p.type behind tail)
      (description : Described marked p.description inlines)
      (spread : Spread Inline.namesPlatforms inlines tail)
      (required : p.required = requirement.required p.name marked) :
      Lead requirement p (.code p.name :: behind)

mutual

/-- The items of a parameter, with one list inside for its possible values or its properties. -/
inductive Parameter.Bulleted : Requirement → Parameter → List Block → Prop
  | plain {requirement : Requirement} {p : Parameter} {lead : List Inline}
      (h : p.Lead requirement lead) (hv : p.possibleValues = none) (hp : p.properties = none) :
      Parameter.Bulleted requirement p [.paragraph lead]
  | values {requirement : Requirement} {p : Parameter} {lead : List Inline} {ordered : Bool}
      {values : List PossibleValue} {items : List (List Block)} (h : p.Lead requirement lead)
      (hv : p.possibleValues = some values) (hp : p.properties = none)
      (hd : describesProperties p.type p.description = false)
      (hi : List.Forall₂ PossibleValue.Bulleted values items) :
      Parameter.Bulleted requirement p [.paragraph lead, .list ordered items]
  | properties {requirement : Requirement} {p : Parameter} {lead : List Inline} {ordered : Bool}
      {properties : List Parameter} {items : List (List Block)} (h : p.Lead requirement lead)
      (hv : p.possibleValues = none) (hp : p.properties = some properties)
      (hd : describesProperties p.type p.description = true)
      (hi : AllBulleted requirement.nested properties items) :
      Parameter.Bulleted requirement p [.paragraph lead, .list ordered items]

inductive AllBulleted : Requirement → List Parameter → List (List Block) → Prop
  | nil {requirement : Requirement} : AllBulleted requirement [] []
  | cons {requirement : Requirement} {p : Parameter} {item : List Block} {rest : List Parameter}
      {items : List (List Block)} (h : p.Bulleted requirement item)
      (hr : AllBulleted requirement rest items) :
      AllBulleted requirement (p :: rest) (item :: items)

end

theorem possibleValues_bulleted (member parameter : String) {values : List PossibleValue}
    {items : List (List Block)} (h : List.Forall₂ PossibleValue.Bulleted values items) :
    possibleValues member parameter items = (values, []) := by
  induction h with
  | nil => rfl
  | @cons v item rest items hv _ ih =>
    have hread : v.value ≠ "" ∧ PossibleValue.ofLead (Block.lead item) = v := by
      cases hv with
      | @bare value hn ht =>
        refine ⟨hn, ?_⟩
        rw [Block.lead, PossibleValue.ofLead, ht]
        rfl
      | @described value description content tail hn ht hc hd hs =>
        refine ⟨hn, ?_⟩
        have hr := hs.richText_eq fun _ => rfl
        simp only [Bool.not_false, List.filter_true] at hr
        have hb := @richText_behind [.text " - "] content ['-'] (by simp) rfl (hc.symm ▸ hd)
        rw [List.singleton_append, ← hr, hc] at hb
        have hdash := afterDash_dash (hc ▸ tight_richText content) (by simpa using hd)
        rw [Block.lead, PossibleValue.ofLead, ht, hb, List.singleton_append, hdash,
          String.ofList_toList]
    rw [possibleValues, ih]
    simp only [hread.2, if_neg hread.1]

theorem Parameter.Lead.ofItem {requirement : Requirement} {p : Parameter} {lead : List Inline}
    (h : p.Lead requirement lead) (blocks : List Block) :
    ∃ bullet, Bullet.ofItem (.paragraph lead :: blocks) = .ok bullet ∧
      bullet.parameter requirement = { p with possibleValues := none, properties := none } := by
  obtain ⟨hn, ht, type, description, spread, required⟩ := h
  rename_i behind tail inlines marked
  refine ⟨⟨p.name, p.type, tail⟩, ?_, ?_⟩
  · simp only [Bullet.ofItem, Block.lead, ht, if_neg hn, type.type?_eq]
  · rw [Bullet.parameter_eq, description.description_eq spread]
    dsimp only
    rw [← required]

theorem Parameter.Bulleted.exists_lead {requirement : Requirement} {p : Parameter}
    {item : List Block} (h : p.Bulleted requirement item) :
    ∃ lead blocks, item = .paragraph lead :: blocks ∧ p.Lead requirement lead := by
  cases h <;> exact ⟨_, _, rfl, ‹_›⟩

mutual

theorem nestedDocs_bulleted : ∀ {requirement : Requirement} {p : Parameter} {item : List Block},
    p.Bulleted requirement item → ∀ member : String,
    nestedDocs member requirement { p with possibleValues := none, properties := none } item =
      (p, [])
  | _, ⟨_, _, _, _, _, _⟩, _, .plain _ hv hp, member => by
    cases hv
    cases hp
    simp only [nestedDocs]
  | _, ⟨_, _, _, _, _, _⟩, _, .values _ hv hp hd hi, member => by
    cases hv
    cases hp
    dsimp only at hd
    simp [nestedDocs, hd, possibleValues_bulleted _ _ hi]
  | requirement, ⟨name, _, _, _, _, _⟩, _, .properties _ hv hp hd hi, member => by
    cases hv
    cases hp
    have hr := parametersOf_append hi s!"{member}.{name}" []
    rw [List.append_nil, parametersOf, List.append_nil] at hr
    dsimp only at hd
    simp only [nestedDocs, hd, if_true, hr]

/-- In front of other items, the parameters come in front of what the others give. -/
theorem parametersOf_append : ∀ {requirement : Requirement} {parameters : List Parameter}
    {items : List (List Block)}, AllBulleted requirement parameters items →
    ∀ (member : String) (more : List (List Block)),
    parametersOf member requirement (items ++ more) =
      (parameters ++ (parametersOf member requirement more).1,
        (parametersOf member requirement more).2)
  | _, _, _, .nil, member, more => rfl
  | _, _, _, .cons h hr, member, more => by
    obtain ⟨lead, blocks, rfl, hl⟩ := h.exists_lead
    obtain ⟨bullet, hb, hp⟩ := hl.ofItem blocks
    rw [List.cons_append, parametersOf, parametersOf_append hr member more, hb]
    simp only [hp, nestedDocs_bulleted h member, List.nil_append, List.cons_append]

end

/-- Parameters are read back from their items in every layout, at any depth and without a defect,
whatever the rule that says which are required. -/
theorem parametersOf_bulleted {requirement : Requirement} {parameters : List Parameter}
    {items : List (List Block)} (h : AllBulleted requirement parameters items) (member : String) :
    parametersOf member requirement items = (parameters, []) := by
  have hr := parametersOf_append h member []
  rwa [List.append_nil, parametersOf, List.append_nil] at hr

/-- An argument with properties, one of them with the name of another argument. -/
def moveParameters : List Parameter :=
  [{ name := "options"
     type := "Object"
     description := "Where to go."
     required := some false
     possibleValues := none
     properties := some
      [{ name := "animate"
         type := "Boolean | String"
         description := ""
         required := some true
         possibleValues := none
         properties := none },
       { name := "mode"
         type := "Mode"
         description := "How to go."
         required := some false
         possibleValues := some [⟨"fast", "At once."⟩, ⟨"slow", ""⟩]
         properties := none }] },
   { name := "animate"
     type := "Boolean"
     description := ""
     required := some false
     possibleValues := none
     properties := none }]

def macMarker : Inline :=
  .emphasis [.text "macOS"]

def moveItems : List (List Block) :=
  [[.paragraph [.code "options", .text " Object (opt", macMarker, .text "ional) - Where to go."],
    .list false
      [[.paragraph [.code "animate", .text " ( Boolean | String )", macMarker]],
       [.paragraph [.code "mode", .text " ", .link "mode.md" [.text "Mode"],
          .text " - (optional) How to go."],
        .list true
          [[.paragraph [.code "fast", .text " - At once."]], [.paragraph [.code "slow"]]]]]],
   [.paragraph [.code "animate", .text " Boolean"]]]

theorem allBulleted_move : AllBulleted (.tracked ["animate"]) moveParameters moveItems := by
  have hsays : Says [.text "Where to go."] "Where to go." :=
    ⟨by decide +kernel, by decide, by decide +kernel⟩
  have hopt : ∀ c ∈ " (opt".toList.head?, isWhite c = true := by
    rintro c ⟨⟩
    decide
  have hoptions : Spread Inline.namesPlatforms
      [.text " (optional) - ", .text "Where to go."]
      [.text " (opt", macMarker, .text "ional) - Where to go."] :=
    @Spread.insert _ _ [.text " (opt"] _ macMarker (by decide +kernel)
      (@Spread.split _ _ [] [] " (opt" "ional) - Where to go."
        (@Spread.join _ _ [] [] " (optional) - " "Where to go." .refl))
  have hunion : ∀ member ∈ ["Boolean", "String"], UnionMember member := by
    rw [List.forall_mem_cons, List.forall_mem_singleton]
    exact ⟨⟨by decide, by decide +kernel, by decide, by decide⟩,
      ⟨by decide, by decide +kernel, by decide, by decide⟩⟩
  have hfast : PossibleValue.Bulleted ⟨"fast", "At once."⟩
      [.paragraph [.code "fast", .text " - At once."]] :=
    .described (by decide) (by decide +kernel) (by decide +kernel) (by decide)
      (@Spread.join _ _ [] [] " - " "At once." .refl)
  have hvalues : List.Forall₂ PossibleValue.Bulleted [⟨"fast", "At once."⟩, ⟨"slow", ""⟩]
      [[.paragraph [.code "fast", .text " - At once."]], [.paragraph [.code "slow"]]] :=
    .cons hfast (.cons (.bare (by decide) (by decide +kernel)) .nil)
  have hmode : Says [.text "How to go."] "How to go." :=
    ⟨by decide +kernel, by decide, by decide +kernel⟩
  have hboolean : TypeWord "Boolean" := .of_isIdentifier (by decide +kernel)
  have hobject : TypeWord "Object" := .of_isIdentifier (by decide +kernel)
  refine .cons (.properties (.intro (by decide) (by decide +kernel)
    (@Typed.word "Object" " " " (opt" _ (by decide) hobject hopt) (.markDash hsays (by decide))
    hoptions rfl) rfl rfl (by decide +kernel) (.cons ?_ (.cons ?_ .nil))) (.cons ?_ .nil)
  · exact .plain (.intro (by decide) (by decide +kernel)
      (@Typed.union _ " " "" ["Boolean", "String"] _ (by decide) (by decide) hunion rfl) .nothing
      (@Spread.insert _ _ [] [] macMarker (by decide +kernel) .refl) rfl) rfl rfl
  · exact .values (.intro (by decide) (by decide +kernel)
      (@Typed.blank "Mode" " " _ _ (by decide) (.link (by decide +kernel))) (.dashMark hmode)
      (@Spread.join _ _ [] [] " - (optional) " "How to go." .refl) rfl) rfl rfl
      (by decide +kernel) hvalues
  · exact .plain (.intro (by decide) (by decide +kernel)
      (@Typed.word "Boolean" " " "" [] (by decide) hboolean nofun) .nothing .refl rfl) rfl rfl

theorem parametersOf_bulleted_move :
    AllBulleted (.tracked ["animate"]) moveParameters moveItems ∧
      parametersOf "win.move" (.tracked ["animate"]) moveItems = (moveParameters, []) :=
  ⟨allBulleted_move, parametersOf_bulleted allBulleted_move "win.move"⟩

end ApiDocs
