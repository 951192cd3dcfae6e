import ApiDocs.Proofs.Document.Shape
import ApiDocs.Proofs.Text

/-!
# What becomes of the items of lists

Each item of a list of parameters gives one parameter or one defect. The first list inside the item
of a parameter documents its properties or its possible values, and each item of it gives one of
these or one defect again, so that as many things are documented or noted as items are visited.
-/

namespace ApiDocs

/-- Whether a description holds the words that announce possible values, in any case. -/
def AnnouncesValues (description : String) : Prop :=
  ∃ stretch, stretch <:+: description.toList ∧
    Text.asciiLower stretch = "possible values".toList

theorem describesProperties_iff {type description : String} :
    describesProperties type description = true ↔
      type ∈ structuredTypes ∧ ¬ AnnouncesValues description := by
  have ha : Text.holds "possible values".toList (Text.asciiLower description.toList) = true ↔
      AnnouncesValues description := by
    rw [Text.holds_iff, Text.asciiLower, List.infix_map_iff]
    exact exists_congr fun stretch => and_congr_right fun _ => eq_comm
  rw [describesProperties, Bool.and_eq_true, List.contains_iff_mem, Bool.not_eq_true',
    ← Bool.not_eq_true, ha]

/-- Only the first list inside an item counts. -/
theorem nestedDocs_eq (member : String) (requirement : Requirement) (p : Parameter)
    (blocks : List Block) :
    nestedDocs member requirement p blocks =
      match Block.firstItems? blocks with
      | none => (p, [])
      | some items =>
        if describesProperties p.type p.description then
          let (properties, defects) := parametersOf s!"{member}.{p.name}" requirement.nested items
          ({ p with properties := some properties }, defects)
        else
          let (values, defects) := possibleValues member p.name items
          ({ p with possibleValues := some values }, defects) := by
  induction blocks with
  | nil => rw [nestedDocs]; rfl
  | cons block rest ih =>
    cases block with
    | list ordered items => rw [nestedDocs]; rfl
    | _ => rw [nestedDocs]; exact ih; simp

/-- The possible values that a list documents, with each defect put behind those met before. -/
def possibleValuesAfter (member parameter : String) (earlier : List Defect) :
    List (List Block) → List PossibleValue × List Defect
  | [] => ([], earlier)
  | item :: rest =>
    let lead := Block.lead item
    let value := PossibleValue.ofLead lead
    if value.value = "" then
      possibleValuesAfter member parameter
        (earlier ++ [.unparsablePossibleValue member parameter (plainText lead)]) rest
    else
      let (values, defects) := possibleValuesAfter member parameter earlier rest
      (value :: values, defects)

mutual

/-- The parameter with what the first list inside its item says, with each defect put behind those
met before. -/
def nestedDocsAfter (member : String) (requirement : Requirement) (parameter : Parameter)
    (earlier : List Defect) : List Block → Parameter × List Defect
  | [] => (parameter, earlier)
  | .list _ items :: _ =>
    if describesProperties parameter.type parameter.description then
      let (properties, defects) :=
        parametersAfter s!"{member}.{parameter.name}" requirement.nested earlier items
      ({ parameter with properties := some properties }, defects)
    else
      let (values, defects) := possibleValuesAfter member parameter.name earlier items
      ({ parameter with possibleValues := some values }, defects)
  | _ :: rest => nestedDocsAfter member requirement parameter earlier rest

/-- The parameters that a list documents, with each defect put behind those met before. -/
def parametersAfter (member : String) (requirement : Requirement) (earlier : List Defect) :
    List (List Block) → List Parameter × List Defect
  | [] => ([], earlier)
  | item :: rest =>
    match Bullet.ofItem item with
    | .error fault =>
      parametersAfter member requirement (earlier ++ [fault.defect member]) rest
    | .ok bullet =>
      let (parameter, found) :=
        nestedDocsAfter member requirement (bullet.parameter requirement) earlier item
      let (parameters, defects) := parametersAfter member requirement found rest
      (parameter :: parameters, defects)

end

theorem possibleValuesAfter_eq (member parameter : String) (earlier : List Defect)
    (items : List (List Block)) :
    possibleValuesAfter member parameter earlier items =
      ((possibleValues member parameter items).1,
        earlier ++ (possibleValues member parameter items).2) := by
  induction items generalizing earlier with
  | nil => rw [possibleValuesAfter, possibleValues, List.append_nil]
  | cons item rest ih =>
    rw [possibleValuesAfter, possibleValues]
    dsimp only
    split
    · rw [ih, List.append_assoc]
      rfl
    · rw [ih]

/-- What was met before a list stays in front of what is met in it. -/
theorem parametersAfter_eq (member : String) (requirement : Requirement)
    (earlier : List Defect) (items : List (List Block)) :
    parametersAfter member requirement earlier items =
      ((parametersOf member requirement items).1,
        earlier ++ (parametersOf member requirement items).2) := by
  induction member, requirement, items using
    @parametersOf.induct fun member requirement parameter blocks => ∀ earlier,
      nestedDocsAfter member requirement parameter earlier blocks =
        ((nestedDocs member requirement parameter blocks).1,
          earlier ++ (nestedDocs member requirement parameter blocks).2)
    generalizing earlier with
  | case1 => rw [nestedDocsAfter, nestedDocs, List.append_nil]
  | case2 member requirement parameter ordered items tail h properties defects hp ih =>
    simp only [nestedDocsAfter, nestedDocs, h, ih, hp, if_true]
  | case3 member requirement parameter ordered items tail h values defects hv =>
    rw [nestedDocsAfter, nestedDocs, if_neg h, if_neg h, possibleValuesAfter_eq]
  | case4 member requirement parameter head rest h ih =>
    rw [nestedDocsAfter, nestedDocs]
    · exact ih _
    · exact h
    · exact h
  | case5 => rw [parametersAfter, parametersOf, List.append_nil]
  | case6 member requirement item rest properties defects hp fault hb ih =>
    simp only [parametersAfter, parametersOf, hb, ih, List.append_assoc, List.singleton_append]
  | case7 member requirement item rest properties defects hp bullet hb parameter found hn ih ih' =>
    simp only [parametersAfter, parametersOf, hb, ih, ih', List.append_assoc]

/-- What an item of a list of possible values gives: a value or a defect. -/
inductive ValueAccount (member parameter : String) (item : List Block) :
    List PossibleValue → List Defect → Prop
  | value {v : PossibleValue} (hv : v = PossibleValue.ofLead (Block.lead item))
      (hn : v.value ≠ "") : ValueAccount member parameter item [v] []
  | refused (hn : (PossibleValue.ofLead (Block.lead item)).value = "") :
      ValueAccount member parameter item []
        [.unparsablePossibleValue member parameter (plainText (Block.lead item))]

/-- What the items of a list of possible values give in turn. -/
inductive ValueAccounts (member parameter : String) :
    List (List Block) → List PossibleValue → List Defect → Prop
  | nil : ValueAccounts member parameter [] [] []
  | cons {item : List Block} {rest : List (List Block)} {values more : List PossibleValue}
      {defects others : List Defect} (h : ValueAccount member parameter item values defects)
      (hr : ValueAccounts member parameter rest more others) :
      ValueAccounts member parameter (item :: rest) (values ++ more) (defects ++ others)

mutual

/-- What an item of a list of parameters gives, and the items visited for it: a parameter, with what
the first list inside the item gives, or one defect. -/
inductive ItemAccount : String → Requirement → List Block → List Parameter → List Defect →
    List (List Block) → Prop
  | unnamed {member text : String} {requirement : Requirement} {item : List Block}
      (h : Bullet.ofItem item = .error (.noName text)) :
      ItemAccount member requirement item [] [.unparsableParameter member text] [item]
  | untyped {member name : String} {requirement : Requirement} {item : List Block}
      (h : Bullet.ofItem item = .error (.noType name)) :
      ItemAccount member requirement item [] [.missingType member name] [item]
  | plain {member : String} {requirement : Requirement} {item : List Block} {bullet : Bullet}
      (h : Bullet.ofItem item = .ok bullet) (hl : Block.firstItems? item = none) :
      ItemAccount member requirement item [bullet.parameter requirement] [] [item]
  | properties {member : String} {requirement : Requirement} {item : List Block} {bullet : Bullet}
      {p : Parameter} {items : List (List Block)} {properties : List Parameter}
      {defects : List Defect} {visited : List (List Block)} (h : Bullet.ofItem item = .ok bullet)
      (hp : p = bullet.parameter requirement) (hl : Block.firstItems? item = some items)
      (ht : p.type ∈ structuredTypes) (hd : ¬ AnnouncesValues p.description)
      (hi : ItemAccounts s!"{member}.{p.name}" requirement.nested items properties defects
        visited) :
      ItemAccount member requirement item [{ p with properties := some properties }] defects
        (item :: visited)
  | values {member : String} {requirement : Requirement} {item : List Block} {bullet : Bullet}
      {p : Parameter} {items : List (List Block)} {values : List PossibleValue}
      {defects : List Defect} (h : Bullet.ofItem item = .ok bullet)
      (hp : p = bullet.parameter requirement) (hl : Block.firstItems? item = some items)
      (hd : p.type ∈ structuredTypes → AnnouncesValues p.description)
      (hi : ValueAccounts member p.name items values defects) :
      ItemAccount member requirement item [{ p with possibleValues := some values }] defects
        (item :: items)

/-- What the items of a list of parameters give in turn, and the items visited. -/
inductive ItemAccounts : String → Requirement → List (List Block) → List Parameter →
    List Defect → List (List Block) → Prop
  | nil {member : String} {requirement : Requirement} :
      ItemAccounts member requirement [] [] [] []
  | cons {member : String} {requirement : Requirement} {item : List Block}
      {rest visited others : List (List Block)} {parameters more : List Parameter}
      {defects noted : List Defect}
      (h : ItemAccount member requirement item parameters defects visited)
      (hr : ItemAccounts member requirement rest more noted others) :
      ItemAccounts member requirement (item :: rest) (parameters ++ more) (defects ++ noted)
        (visited ++ others)

end

theorem valueAccounts_possibleValues (member parameter : String) (items : List (List Block)) :
    ValueAccounts member parameter items (possibleValues member parameter items).1
      (possibleValues member parameter items).2 := by
  induction items with
  | nil => exact .nil
  | cons item rest ih =>
    rw [possibleValues]
    dsimp only
    split
    · rename_i hv
      exact .cons (.refused hv) ih
    · rename_i hv
      exact .cons (.value rfl hv) ih

/-- What a bullet's item gives, once the items of its properties have been accounted for. -/
theorem itemAccount_nestedDocs {member : String} {requirement : Requirement} {item : List Block}
    {bullet : Bullet} {p : Parameter} (h : Bullet.ofItem item = .ok bullet)
    (hp : p = bullet.parameter requirement)
    (hi : ∀ items, Block.firstItems? item = some items →
      describesProperties p.type p.description = true →
      ∃ visited, ItemAccounts s!"{member}.{p.name}" requirement.nested items
        (parametersOf s!"{member}.{p.name}" requirement.nested items).1
        (parametersOf s!"{member}.{p.name}" requirement.nested items).2 visited) :
    ∃ visited, ItemAccount member requirement item [(nestedDocs member requirement p item).1]
      (nestedDocs member requirement p item).2 visited := by
  rw [nestedDocs_eq]
  cases hl : Block.firstItems? item with
  | none =>
    refine ⟨[item], ?_⟩
    rw [hp]
    exact .plain h hl
  | some items =>
    by_cases hd : describesProperties p.type p.description = true
    · obtain ⟨visited, ha⟩ := hi items hl hd
      obtain ⟨ht, hn⟩ := describesProperties_iff.mp hd
      simp only [hd, if_true]
      exact ⟨item :: visited, .properties h hp hl ht hn ha⟩
    · simp only [hd, Bool.false_eq_true, if_false]
      refine ⟨item :: items, .values h hp hl (fun ht => ?_) (valueAccounts_possibleValues ..)⟩
      by_contra hn
      exact hd (describesProperties_iff.mpr ⟨ht, hn⟩)

theorem exists_itemAccounts (member : String) (requirement : Requirement)
    (items : List (List Block)) :
    ∃ visited, ItemAccounts member requirement items (parametersOf member requirement items).1
      (parametersOf member requirement items).2 visited := by
  -- The lists inside an item are reached through its blocks, of which only the first list counts.
  induction member, requirement, items using
    @parametersOf.induct fun member requirement parameter blocks => ∀ items,
      Block.firstItems? blocks = some items →
      describesProperties parameter.type parameter.description = true →
      ∃ visited, ItemAccounts s!"{member}.{parameter.name}" requirement.nested items
        (parametersOf s!"{member}.{parameter.name}" requirement.nested items).1
        (parametersOf s!"{member}.{parameter.name}" requirement.nested items).2 visited with
  | case1 member requirement parameter items hl => cases hl
  | case2 member requirement parameter ordered items tail h properties defects hp ih =>
    rename_i hl _
    cases hl
    exact ih
  | case3 member requirement parameter ordered items tail h values defects hv items' hl hd =>
    exact absurd hd h
  | case4 member requirement parameter head rest h ih items hl hd =>
    refine ih items ?_ hd
    cases head with
    | list ordered items => exact absurd rfl (h ordered items)
    | _ => exact hl
  | case5 =>
    rw [parametersOf]
    exact ⟨[], .nil⟩
  | case6 member requirement item rest properties defects hp fault hb ih =>
    obtain ⟨visited, hr⟩ := ih
    refine ⟨item :: visited, ?_⟩
    simp only [parametersOf, hb]
    cases fault with
    | noName text => exact .cons (.unnamed hb) hr
    | noType name => exact .cons (.untyped hb) hr
  | case7 member requirement item rest properties defects hp bullet hb parameter found hn ih ih' =>
    obtain ⟨visited, hr⟩ := ih
    obtain ⟨visited', ha⟩ := itemAccount_nestedDocs hb rfl ih'
    simp only [parametersOf, hb]
    exact ⟨visited' ++ visited, .cons ha hr⟩

theorem ValueAccounts.length_eq {member parameter : String} {items : List (List Block)}
    {values : List PossibleValue} {defects : List Defect}
    (h : ValueAccounts member parameter items values defects) :
    values.length + defects.length = items.length := by
  induction h with
  | nil => rfl
  | cons h _ ih =>
    rw [List.length_append, List.length_append, List.length_cons]
    cases h <;> simp only [List.length_cons, List.length_nil] <;> omega

/-- The parameters at any depth and their possible values, counted. -/
def documentedCount (parameters : List Parameter) : Nat :=
  (nestedParameters parameters).length +
    ((nestedParameters parameters).flatMap fun p => p.possibleValues.getD []).length

theorem nestedParameters_append (parameters more : List Parameter) :
    nestedParameters (parameters ++ more) =
      nestedParameters parameters ++ nestedParameters more := by
  induction parameters with
  | nil => rfl
  | cons p rest ih =>
    rw [List.cons_append, nestedParameters, nestedParameters, ih, List.append_assoc]

theorem documentedCount_nil : documentedCount [] = 0 :=
  rfl

theorem documentedCount_append (parameters more : List Parameter) :
    documentedCount (parameters ++ more) =
      documentedCount parameters + documentedCount more := by
  rw [documentedCount, nestedParameters_append, List.flatMap_append, List.length_append,
    List.length_append, documentedCount, documentedCount]
  omega

theorem documentedCount_singleton (p : Parameter) :
    documentedCount [p] =
      1 + (p.possibleValues.getD []).length + documentedCount (p.properties.getD []) := by
  rw [documentedCount, nestedParameters, nestedParameters, List.append_nil, Parameter.nested_eq,
    List.flatMap_cons, List.length_append, List.length_cons, documentedCount]
  omega

mutual

theorem ItemAccount.length_eq {member : String} {requirement : Requirement} {item : List Block}
    {parameters : List Parameter} {defects : List Defect} {visited : List (List Block)} :
    ItemAccount member requirement item parameters defects visited →
      documentedCount parameters + defects.length = visited.length
  | .unnamed _ => rfl
  | .untyped _ => rfl
  | .plain _ _ => by
    rw [documentedCount_singleton, Bullet.parameter_eq]
    rfl
  | .properties _ hp _ _ _ hi => by
    have ih := hi.length_eq
    rw [documentedCount_singleton, hp, Bullet.parameter_eq, List.length_cons, ← ih]
    simp only [Option.getD_none, Option.getD_some, List.length_nil]
    omega
  | .values _ hp _ _ hi => by
    rw [documentedCount_singleton, hp, Bullet.parameter_eq, List.length_cons, ← hi.length_eq]
    simp only [Option.getD_none, Option.getD_some, documentedCount_nil]
    omega

theorem ItemAccounts.length_eq {member : String} {requirement : Requirement}
    {items visited : List (List Block)} {parameters : List Parameter} {defects : List Defect} :
    ItemAccounts member requirement items parameters defects visited →
      documentedCount parameters + defects.length = visited.length
  | .nil => rfl
  | .cons h hr => by
    have ih := h.length_eq
    have ihr := hr.length_eq
    rw [documentedCount_append, List.length_append, List.length_append]
    omega

end

/-- Each item of a list gives one parameter or one defect, in the order of the items, and the same
holds of the first list inside the item of a parameter. The defects met before stay in front. -/
theorem parametersAfter_accounted (member : String) (requirement : Requirement)
    (earlier : List Defect) (items : List (List Block)) :
    ∃ parameters new visited,
      parametersOf member requirement items = (parameters, new) ∧
      parametersAfter member requirement earlier items = (parameters, earlier ++ new) ∧
      ItemAccounts member requirement items parameters new visited ∧
      documentedCount parameters + new.length = visited.length := by
  obtain ⟨visited, h⟩ := exists_itemAccounts member requirement items
  exact ⟨_, _, visited, rfl, parametersAfter_eq member requirement earlier items, h, h.length_eq⟩

end ApiDocs
