import ApiDocs.Document.Members
import ApiDocs.Document.Surface
import ApiDocs.Proofs.Layout.Parameters

/-!
# Members laid out as sections

The heading and the blocks that documents write for a member, and their reading: the name, the
signature and the platforms come from the heading, the parameters and the description from the
blocks under it.
-/

namespace ApiDocs

open Unicode

variable (prose : String → List Inline)

def platformMark : Option (List Platform) → List Inline
  | none => []
  | some platforms =>
    [.text " ", .emphasis [.text (", ".intercalate (platforms.map Platform.name))]]

namespace Member

/-- What the heading of a member starts with. -/
def subject (object : String) (kind : MemberKind) (m : Member) : Inline :=
  match kind with
  | .event => .text ("Event: '" ++ m.name ++ "'")
  | _ => .code (object ++ "." ++ m.name ++ m.signature.getD "")

def title (object : String) (kind : MemberKind) (m : Member) : List Inline :=
  m.subject object kind :: platformMark m.platforms

def lists (kind : MemberKind) (m : Member) : List Block :=
  match kind with
  | .method =>
    if m.parameters.isEmpty then [] else [.list false (parameterItems prose m.parameters)]
  | .event =>
    if m.returns.isEmpty then []
    else [.paragraph [.text "Returns:"], .list false (parameterItems prose m.returns)]
  | .property => []

def body (kind : MemberKind) (m : Member) : List Block :=
  m.lists prose kind ++ [.paragraph (prose m.description)]

/-- What a member needs to be read back from its section: the shape of its kind, a name that its
heading delimits, the parameters of its signature, and a description that is no notice. -/
structure Legible (kind : MemberKind) (m : Member) : Prop where
  shaped : m.Shaped kind
  name_quoted : kind = .event → SingleSpaced m.name ∧ '\'' ∉ m.name.toList
  name_trimmed : kind ≠ .event → trimmed m.name = m.name ∧ '.' ∉ m.name.toList
  name_called : kind = .method → '(' ∉ m.name.toList
  signature_names : m.signatureParameters = m.signature.map Signature.names
  parameter_names : m.signatureNames = m.parameters.map Parameter.name
  optional_marked : ∀ s ∈ m.signature, ∀ p ∈ m.parameters,
    p.name ∈ Signature.optionalNames s → p.required = some false
  description_legible : richText (prose m.description) = m.description
  no_returns : isReturnsNotice (prose m.description) = false
  no_process : isProcessNotice (prose m.description) = false
  nested_legible : AllLegible prose (m.parameters ++ m.returns)

end Member

variable {prose}

theorem Platform.distinct_ofMarker? {platforms : List Platform} (hne : platforms ≠ [])
    (h : platforms.Nodup) :
    distinct ((ofMarker? (plainText [.text (", ".intercalate (platforms.map name))])).getD []) =
      platforms := by
  match platforms with
  | [] => exact absurd rfl hne
  | [p] => cases p <;> rfl
  | [p, q] => revert h; cases p <;> cases q <;> decide +kernel
  | [p, q, r] => revert h; cases p <;> cases q <;> cases r <;> decide +kernel
  -- Four platforms cannot differ, there being three.
  | p :: q :: r :: s :: rest =>
    cases p <;> cases q <;> cases r <;> cases s <;> simp at h

theorem headingPlatforms_title {m : Member} {kind : MemberKind} (h : m.Shaped kind)
    (object : String) : headingPlatforms (m.title object kind) = m.platforms := by
  rw [Member.title]
  cases hm : m.platforms with
  | none =>
    cases kind <;> rfl
  | some platforms =>
    have hne := h.platforms_ne platforms hm
    have hd := Platform.distinct_ofMarker? hne (h.platforms_nodup platforms hm)
    obtain ⟨first, rest, rfl⟩ := List.exists_cons_of_ne_nil hne
    cases kind <;>
      simp only [headingPlatforms, Member.subject, platformMark, List.flatMap_cons,
        List.flatMap_nil, List.nil_append, List.append_nil, hd]

namespace MemberHeading

theorem lastSegment_point {name : List Char} (hn : '.' ∉ name) (ht : Text.Tight name)
    (path : List Char) : lastSegment (path ++ '.' :: name) = name := by
  have hr : (path ++ '.' :: name).reverse = name.reverse ++ '.' :: path.reverse := by simp
  have hw := Text.bne_of_notMem (mt List.mem_reverse.mp hn)
  rw [lastSegment, hr, List.takeWhile_append_of_pos hw, List.takeWhile_cons_of_neg (by simp),
    List.append_nil, List.reverse_reverse, ht.trim_eq]

theorem named?_of_ne {name : List Char} (h : name ≠ []) (signature : List Char) :
    named? name signature = some ⟨String.ofList name, String.ofList signature⟩ := by
  rw [named?, if_neg (by simpa using h)]

/-- The code of a heading is trimmed to itself. -/
theorem codeOrText_code {code : String} (h : Text.Tight code.toList) (rest : List Inline) :
    codeOrText (.code code :: rest) = code :=
  h.trimmed_eq

end MemberHeading

theorem isParenthesized_ends {s : List Char} (h : isParenthesized s) :
    s.head? = some '(' ∧ s.getLast? = some ')' := by
  simp only [isParenthesized, Bool.and_eq_true, beq_iff_eq] at h
  exact ⟨h.1.1.2, h.1.2⟩

/-- A method is read at the parenthesis that opens its signature. -/
theorem MemberHeading.ofMethod?_path {path signature : List Char} (hp : '(' ∉ path)
    (hh : signature.head? = some '(') (hl : signature.getLast? = some ')') :
    ofMethod? (path ++ signature) = named? (lastSegment path) signature := by
  obtain ⟨rest, rfl⟩ := List.head?_eq_some_iff.mp hh
  have hw := Text.bne_of_notMem hp
  have hr : ('(' :: rest).rdropWhile (· != ')') = '(' :: rest := by
    refine List.rdropWhile_eq_self_iff.mpr fun hne => ?_
    rw [List.getLast?_eq_some_getLast hne, Option.some.injEq] at hl
    rw [hl]
    decide
  rw [ofMethod?, List.takeWhile_append_of_pos hw, List.takeWhile_cons_of_neg (by simp),
    List.append_nil, List.dropWhile_append_of_pos hw, List.dropWhile_cons_of_neg (by simp)]
  split
  · rename_i hn
    rw [← List.rdropWhile, hr] at hn
    cases hn
  · rw [← List.rdropWhile, hr]

namespace Member

variable {object : String} {m : Member}

theorem toList_path (object name signature : String) :
    (object ++ "." ++ name ++ signature).toList =
      object.toList ++ '.' :: (name.toList ++ signature.toList) := by
  simp

theorem subject_eq_code {kind : MemberKind} (hk : kind ≠ .event) (object : String) :
    m.subject object kind = .code (object ++ "." ++ m.name ++ m.signature.getD "") := by
  cases kind with
  | event => exact absurd rfl hk
  | _ => rfl

theorem Legible.tight_name {kind : MemberKind} (h : m.Legible prose kind) (hk : kind ≠ .event) :
    Text.Tight m.name.toList :=
  Text.tight_of_trimmed (h.name_trimmed hk).1

theorem Legible.name_ne {kind : MemberKind} (h : m.Legible prose kind) : m.name.toList ≠ [] := by
  simpa using h.shaped.name_ne

theorem signature_eq_none {kind : MemberKind} (h : m.Shaped kind) (hk : kind ≠ .method) :
    m.signature = none := by
  have hs := h.signature_isSome
  rw [beq_eq_false_iff_ne.mpr hk] at hs
  simpa using hs

/-- The code of a heading, from the object to the end of the signature. -/
theorem tight_code (ho : ObjectName object) {kind : MemberKind} (h : m.Legible prose kind)
    (hk : kind ≠ .event) :
    Text.Tight (object.toList ++ '.' :: (m.name.toList ++ (m.signature.getD "").toList)) := by
  refine ho.tight_path (by simp [h.shaped.name_ne]) ?_
  cases hs : m.signature with
  | none =>
    rw [Option.getD_none, String.toList_empty, List.append_nil]
    exact (h.tight_name hk).last
  | some signature =>
    obtain ⟨hh, hl⟩ := isParenthesized_ends (h.shaped.signature_parenthesized signature hs)
    have hne : signature.toList ≠ [] := by
      rintro he
      rw [he] at hh
      cases hh
    intro c hc
    rw [Option.getD_some, List.getLast?_append_of_ne_nil _ hne, hl] at hc
    cases hc
    decide

theorem codeOrText_title (ho : ObjectName object) {kind : MemberKind} (h : m.Legible prose kind)
    (hk : kind ≠ .event) :
    (MemberHeading.codeOrText (m.title object kind)).toList =
      object.toList ++ '.' :: (m.name.toList ++ (m.signature.getD "").toList) := by
  rw [title, subject_eq_code hk,
    MemberHeading.codeOrText_code (by rw [toList_path]; exact tight_code ho h hk), toList_path]

/-- A method is read back from its heading. -/
theorem ofTitle?_method (ho : ObjectName object) (h : m.Legible prose .method) {signature : String}
    (hs : m.signature = some signature) :
    MemberHeading.ofTitle? .method (m.title object .method) = some ⟨m.name, signature⟩ := by
  obtain ⟨hh, hl⟩ := isParenthesized_ends (h.shaped.signature_parenthesized signature hs)
  have hq : '(' ∉ object.toList ++ '.' :: m.name.toList := by
    simp [ho.uncalled, h.name_called rfl]
  have hm := MemberHeading.ofMethod?_path hq hh hl
  rw [MemberHeading.lastSegment_point (h.name_trimmed (by simp)).2 (h.tight_name (by simp)),
    MemberHeading.named?_of_ne h.name_ne, String.ofList_toList, String.ofList_toList,
    List.append_assoc, List.cons_append] at hm
  rw [MemberHeading.ofTitle?, codeOrText_title ho h (by simp), hs, Option.getD_some, hm]

/-- A property is read back from its heading. -/
theorem ofTitle?_property (ho : ObjectName object) (h : m.Legible prose .property) :
    MemberHeading.ofTitle? .property (m.title object .property) = some ⟨m.name, ""⟩ := by
  have hs := signature_eq_none h.shaped (by simp)
  rw [MemberHeading.ofTitle?, codeOrText_title ho h (by simp), hs, Option.getD_none,
    String.toList_empty, List.append_nil,
    MemberHeading.lastSegment_point (h.name_trimmed (by simp)).2 (h.tight_name (by simp)),
    MemberHeading.named?_of_ne h.name_ne, String.ofList_toList]

def quoted (name : List Char) : List Char :=
  '\'' :: name ++ ['\'']

/-- The text of an event heading starts with the quoted name. -/
theorem plainText_event (h : m.Legible prose .event) (object : String) :
    ∃ behind, (plainText (m.title object .event)).toList =
      "Event: ".toList ++ quoted m.name.toList ++ behind := by
  have hp : Flat.State.start.prose ("Event: '" ++ m.name ++ "'") =
      ⟨'\'' :: (m.name.toList.reverse ++ "Event: '".toList.reverse), false⟩ := by
    rw [Flat.State.prose_append, Flat.State.prose_append]
    change Flat.State.prose (Flat.State.prose ⟨"Event: '".toList.reverse, false⟩ m.name) "'" = _
    rw [(h.name_quoted rfl).1.prose_eq]
    rfl
  obtain ⟨behind, hb⟩ := plainText_cons (m.subject object .event) (platformMark m.platforms)
  refine ⟨behind, hb.trans ?_⟩
  change (Flat.State.start.prose ("Event: '" ++ m.name ++ "'")).done.reverse ++ behind = _
  rw [hp]
  simp [quoted]

theorem tight_mark : Text.Tight ['\''] :=
  Text.tight_iff.mpr (by decide)

theorem tight_quoted (name : List Char) : Text.Tight (quoted name) :=
  Text.tight_cons_append (by decide) tight_mark (List.cons_ne_nil _ _) name

theorem tight_event (name : List Char) : Text.Tight ("Event: ".toList ++ quoted name) :=
  Text.tight_cons_append (c := 'E') (by decide) (tight_quoted name) (List.cons_ne_nil _ _)
    "vent: ".toList

theorem ofEvent?_quoted {name : List Char} (hne : name ≠ []) (ht : Text.Tight name)
    (hq : '\'' ∉ name) (behind : List Char) :
    MemberHeading.ofEvent? ("Event: ".toList ++ quoted name ++ behind) =
      some ⟨String.ofList name, ""⟩ := by
  have hafter : Text.after? "Event:" ("Event: ".toList ++ quoted name ++ Text.trimEnd behind) =
      some (' ' :: (quoted name ++ Text.trimEnd behind)) :=
    Text.after?_append "Event:" _
  -- The text is trimmed before and after its first word, so what follows the name is cut twice.
  have hname : MemberHeading.eventName? (quoted name ++ Text.trimEnd (Text.trimEnd behind)) =
      some name := by
    rw [quoted, List.append_assoc, List.cons_append, MemberHeading.eventName?,
      List.singleton_append, Text.cut?_mark hq]
    rfl
  simp only [MemberHeading.ofEvent?, (tight_event name).trim_append (by simp), hafter,
    Text.trim_space, (tight_quoted name).trim_append (List.cons_ne_nil _ _), hname, ht.trim_eq,
    Option.bind_eq_bind, Option.bind_some]
  exact MemberHeading.named?_of_ne hne []

/-- An event is read back from its heading, whatever stands behind its name. -/
theorem ofTitle?_event (h : m.Legible prose .event) (object : String) :
    MemberHeading.ofTitle? .event (m.title object .event) = some ⟨m.name, ""⟩ := by
  obtain ⟨hs, hq⟩ := h.name_quoted rfl
  obtain ⟨behind, hb⟩ := plainText_event h object
  rw [MemberHeading.ofTitle?, hb, ofEvent?_quoted h.name_ne hs.tight hq, String.ofList_toList]

/-- The text of any other heading starts with its code. -/
theorem plainText_code {kind : MemberKind} (hk : kind ≠ .event) (object : String) :
    ∃ behind, (plainText (m.title object kind)).toList =
      object.toList ++ '.' :: (m.name.toList ++ (m.signature.getD "").toList) ++ behind := by
  have hc : (Flat.inline false .start (m.subject object kind)).done.reverse =
      object.toList ++ '.' :: (m.name.toList ++ (m.signature.getD "").toList) := by
    rw [subject_eq_code hk, Flat.inline, Flat.State.code, Flat.codeText, if_neg (by simp),
      toList_path]
    simp [Flat.State.settled, Flat.State.start]
  obtain ⟨behind, hb⟩ := plainText_cons (m.subject object kind) (platformMark m.platforms)
  exact ⟨behind, hb.trans (by rw [hc])⟩

/-- The heading of a member declares no class. -/
theorem className?_title (ho : ObjectName object) {kind : MemberKind} (h : m.Legible prose kind) :
    className? (plainText (m.title object kind)) = none := by
  refine className?_eq_none fun hp => ?_
  by_cases hk : kind = .event
  · subst hk
    obtain ⟨behind, hb⟩ := plainText_event h object
    rw [hb, (tight_event m.name.toList).trim_append (by simp)] at hp
    simp at hp
  · obtain ⟨behind, hb⟩ := plainText_code hk object
    rw [hb, (tight_code ho h hk).trim_append (by simp), List.append_assoc, List.cons_append] at hp
    exact ho.no_class (Text.prefix_of_mark (by decide) hp)

theorem memberDescription_body {kind : MemberKind} (h : m.Legible prose kind) :
    Block.memberDescription (m.body prose kind) = m.description := by
  have hl : (m.lists prose kind).findSome? Block.prose? = none := by
    cases kind with
    | property => rfl
    | _ =>
      rw [lists]
      split <;> rfl
  rw [Block.memberDescription, body, List.findSome?_append, hl, Option.none_or]
  simp [Block.prose?, h.no_returns, h.no_process, h.description_legible]

theorem firstItems?_body (h : m.parameters ≠ []) :
    Block.firstItems? (m.body prose .method) = some (parameterItems prose m.parameters) := by
  rw [body, lists, if_neg (by simpa using h)]
  rfl

theorem payloadItems?_body (h : m.Legible prose .event) :
    Block.payloadItems? (m.body prose .event) =
      if m.returns.isEmpty then none else some (parameterItems prose m.returns) := by
  rw [body, lists]
  split
  · simp [Block.payloadItems?, Block.isReturnsParagraph, h.no_returns]
  · rfl

end Member

namespace Member

variable {object : String} {m : Member}

def laidSection (prose : String → List Inline) (object : String) (level : Nat) (kind : MemberKind)
    (m : Member) : Section :=
  ⟨level, m.title object kind, m.body prose kind, []⟩

theorem plainMember_laid {kind : MemberKind} (h : m.Legible prose kind) (level : Nat) :
    (m.laidSection prose object level kind).plainMember m.name =
      { m with
        signature := none
        signatureParameters := none
        parameters := []
        returns := [] } := by
  rw [Section.plainMember, laidSection]
  simp only [memberDescription_body h, headingPlatforms_title h.shaped]

theorem names_eq (h : m.Legible prose .method) {signature : String}
    (hs : m.signature = some signature) :
    Signature.names signature = m.parameters.map Parameter.name := by
  have hn := h.parameter_names
  rw [signatureNames, h.signature_names, hs] at hn
  exact hn

theorem arguments_laid (h : m.Legible prose .method) {signature : String}
    (hs : m.signature = some signature) (level : Nat) (owner : String) :
    (m.laidSection prose object level .method).arguments owner signature = (m.parameters, []) := by
  rw [Section.arguments, names_eq h hs]
  split
  · rename_i he
    rw [List.isEmpty_iff, List.map_eq_nil_iff] at he
    rw [he]
  · rename_i he
    have hne : m.parameters ≠ [] := by simpa using he
    have hr := h.shaped.returns_eq_nil (by simp)
    have hl := h.nested_legible
    have hn := h.shaped.nested_shaped
    rw [hr, List.append_nil] at hl hn
    rw [laidSection, firstItems?_body hne]
    exact parametersOf_items m.parameters owner (.tracked (Signature.optionalNames signature))
      (fun q hq => ⟨hl q hq, hn q hq⟩) fun p hp =>
        Requirement.admits_tracked (hn p (mem_nestedParameters hp)).required_isSome
          (h.optional_marked signature hs p hp)

theorem method_laid (h : m.Legible prose .method) {signature : String}
    (hs : m.signature = some signature) (level : Nat) (owner : String) :
    (m.laidSection prose object level .method).method ⟨m.name, signature⟩ owner = (m, []) := by
  have hn := names_eq h hs
  have hp := h.signature_names
  have hr := h.shaped.returns_eq_nil (by simp)
  rw [Section.method]
  simp only [arguments_laid h hs, plainMember_laid h]
  obtain ⟨name, sig, names, description, platforms, parameters, returns⟩ := m
  dsimp only at hs hp hn hr
  subst hs hp hr
  simp [lacksParameterDocs, signatureNames, hn]

theorem event_laid (h : m.Legible prose .event) (level : Nat) (owner : String) :
    (m.laidSection prose object level .event).event ⟨m.name, ""⟩ owner = (m, []) := by
  have hs := signature_eq_none h.shaped (by simp)
  have hp := h.signature_names
  have hr := h.shaped.parameters_eq_nil (by simp)
  have hl := h.nested_legible
  have hn := h.shaped.nested_shaped
  rw [hs] at hp
  rw [hr, List.nil_append] at hl hn
  have hq := fun owner : String => parametersOf_items m.returns owner .untracked
    (fun q hq => ⟨hl q hq, hn q hq⟩) fun p hp =>
      Requirement.admits_untracked (hn p (mem_nestedParameters hp)).required_isSome
  have hb : Block.payloadItems? (m.laidSection prose object level .event).body = _ :=
    payloadItems?_body h
  rw [Section.event, hb, plainMember_laid h]
  obtain ⟨name, sig, names, description, platforms, parameters, returns⟩ := m
  dsimp only at hs hp hr hq ⊢
  subst hs hp hr
  cases returns with
  | nil => rfl
  | cons first rest =>
    simp only [List.isEmpty_cons, Bool.false_eq_true, if_false, hq, Option.map_none]

theorem property_laid (h : m.Legible prose .property) (level : Nat) :
    (m.laidSection prose object level .property).plainMember m.name = m := by
  have hs := signature_eq_none h.shaped (by simp)
  have hp := h.signature_names
  have ha := h.shaped.parameters_eq_nil (by simp)
  have hr := h.shaped.returns_eq_nil (by simp)
  rw [hs] at hp
  rw [plainMember_laid h]
  cases m
  cases hs
  cases hp
  cases ha
  cases hr
  rfl

/-- A member is read back from its section, and nothing is noted. -/
theorem member_laid (ho : ObjectName object) {collection : Collection}
    (h : m.Legible prose collection.memberKind) (level : Nat) (owner : String) :
    (m.laidSection prose object level collection.memberKind).member collection owner =
      (some m, []) := by
  rw [Section.member]
  cases hk : collection.memberKind with
  | method =>
    rw [hk] at h
    obtain ⟨signature, hs⟩ := Option.isSome_iff_exists.mp h.shaped.signature_isSome
    have ht : MemberHeading.ofTitle? .method (m.laidSection prose object level .method).title = _ :=
      ofTitle?_method ho h hs
    simp only [ht, method_laid h hs]
  | property =>
    rw [hk] at h
    have ht : MemberHeading.ofTitle? .property
        (m.laidSection prose object level .property).title = _ := ofTitle?_property ho h
    simp only [ht, property_laid h]
  | event =>
    rw [hk] at h
    have ht : MemberHeading.ofTitle? .event (m.laidSection prose object level .event).title = _ :=
      ofTitle?_event h object
    simp only [ht, event_laid h]

end Member

end ApiDocs
