import ApiDocs.Proofs.Document.Arguments

/-!
# What records tell of headings

Every heading under a label gives a member of the record or an error. A method is documented name by
name in a record without errors, and gives one error that says so where it is not.
-/

namespace ApiDocs

/-- No heading is lost and none counts twice. The `i`-th heading has the outcome that its own
reading and the headings before it decide; every collection holds the first member of each name that
was read for it; the errors are those of the surface, of the headings in turn and of the written
form; and each heading adds one member, one duplicate or one heading that cannot be read. -/
theorem Surface.headings_accounted (surface : Surface) (options : LintOptions)
    (validator : Validator) :
    let headings := surface.sections.flatMap fun entry => entry.2.children.map (entry.1, ·)
    let linted := surface.record options validator
    (∀ i : Fin headings.length, ∃ o,
      (outcomes surface.name headings)[i]? = some (headings[i].1, o) ∧
        Accounted surface.name (headings.take i) headings[i] o) ∧
    (∀ collection : Collection,
      linted.api.collection collection =
          firstBy Member.name (collection.members (membersRead surface.name headings)) ∧
        linted.api.collection collection =
          collection.members (membersKept surface.name headings)) ∧
    linted.errors =
      surface.defects.map Defect.message ++
        (notices surface.name headings).map Notice.message ++ validator linted.api.toJson ∧
    headings.length =
      (Collection.all.map fun collection => (linted.api.collection collection).length).sum +
        (notices surface.name headings).countP Notice.isDuplicate +
        (notices surface.name headings).countP Notice.isUnparsable := by
  intro headings linted
  have hh : surface.memberSections = headings := rfl
  have hm : linted.api.members = membersKept surface.name headings := by
    change (Draft.ofSurface options.version surface).members = _
    rw [Draft.ofSurface_eq, firstBy_membersRead, hh]
  refine ⟨fun i => ⟨_, ?_, accounted_outcome _ _ _⟩, fun collection => ⟨?_, ?_⟩, ?_, ?_⟩
  · simp [outcomes]
  · exact surface.collection_record options validator collection
  · rw [Api.collection, hm]
  · exact surface.errors_record options validator
  · simp only [Api.collection]
    rw [sum_length_members, hm]
    exact length_eq_count surface.name headings

/-- A surface with a label twice, a heading that cannot be read and a method that comes again. -/
def crowdedTraySurface : Surface :=
  ⟨"tray", .moduleApi, [], [], false,
    [(.methods, ⟨2, [.text "Methods"], [],
      [⟨3, [.code "tray.setIcon(icon)"], [.list false [[.paragraph [.code "icon"]]]], []⟩,
      ⟨3, [.text "Overview"], [], []⟩]⟩),
    (.events, ⟨2, [.text "Events"], [], [⟨3, [.text "Event: 'click'"], [], []⟩]⟩),
    (.methods, ⟨2, [.text "Methods"], [],
      [⟨3, [.code "tray.setIcon(path)"], [], []⟩, ⟨3, [.code "tray.destroy()"], [], []⟩]⟩)],
    [.missingDeclaration]⟩

theorem Surface.headings_accounted_crowdedTray :
    let headings := crowdedTraySurface.sections.flatMap fun entry =>
      entry.2.children.map (entry.1, ·)
    let linted := crowdedTraySurface.record ⟨"", .builtin, .standard⟩ fun _ => ["no slug"]
    headings.map (fun heading => (heading.1, heading.2.titleText)) =
      [(.methods, "tray.setIcon(icon)"), (.methods, "Overview"), (.events, "Event: 'click'"),
        (.methods, "tray.setIcon(path)"), (.methods, "tray.destroy()")] ∧
    (linted.api.collection .methods).map Member.name = ["setIcon", "destroy"] ∧
    (linted.api.collection .events).map Member.name = ["click"] ∧
    linted.errors =
      ["missing module or class declaration heading",
        "parameter 'icon' of tray.setIcon has no type",
        "tray.setIcon(icon) is missing parameter docs",
        "unable to parse methods heading 'Overview'",
        "tray.setIcon(path) is missing parameter docs",
        "duplicate methods member 'setIcon'", "no slug"] ∧
    (Collection.all.map fun collection => (linted.api.collection collection).length).sum = 3 := by
  intro headings linted
  obtain ⟨-, hc, he, hn⟩ := crowdedTraySurface.headings_accounted ⟨"", .builtin, .standard⟩
    fun _ => ["no slug"]
  refine ⟨by decide +kernel, ?_, ?_, ?_, ?_⟩
  · rw [(hc .methods).1]
    decide +kernel
  · rw [(hc .events).1]
    decide +kernel
  · rw [he]
    decide +kernel
  · have hd : (notices "tray" headings).countP Notice.isDuplicate = 1 := by decide +kernel
    have hu : (notices "tray" headings).countP Notice.isUnparsable = 1 := by decide +kernel
    have hl : headings.length = 5 := rfl
    change headings.length = (Collection.all.map fun collection =>
      (linted.api.collection collection).length).sum +
      (notices "tray" headings).countP Notice.isDuplicate +
      (notices "tray" headings).countP Notice.isUnparsable at hn
    omega

/-- In a record without errors the parameters of every method are those that its signature names, in
that order, and optional just when the signature brackets the name or the bullet says so. Any other
method with names in its signature gives one error that says its parameters are not documented, also
when it is left out as a duplicate, and keeps the parameters that its bullets document. -/
theorem Surface.signatures_documented (surface : Surface) (options : LintOptions)
    (validator : Validator) :
    let headings := surface.sections.flatMap fun entry => entry.2.children.map (entry.1, ·)
    let linted := surface.record options validator
    (linted.errors = [] → ∀ collection : Collection, collection.memberKind = .method →
      ∀ m ∈ linted.api.collection collection, ∃ s signature,
        (collection, s) ∈ headings ∧ s.member collection surface.name = (some m, []) ∧
          m.signature = some signature ∧
          m.signatureParameters = some (Signature.names signature) ∧
          (m.parameters.map fun p => p.name) = Signature.names signature ∧
          (Signature.names signature ≠ [] →
            List.Forall₂ (Bullet.Documents signature) s.bullets m.parameters)) ∧
    (∀ (i : Fin headings.length) (heading : MemberHeading),
      headings[i].1.memberKind = .method →
      MemberHeading.ofTitle? .method headings[i].2.title = some heading →
      headings[i].2.Undocumented heading.signature → ∃ o m,
        (outcomes surface.name headings)[i]? = some (headings[i].1, o) ∧
          ((o.notices headings[i].1).map Notice.message).filter tellsMissingDocs =
            [s!"{surface.name}.{heading.name}{heading.signature} is missing parameter docs"] ∧
          o.member? = some m ∧
          List.Forall₂ (Bullet.Documents heading.signature) headings[i].2.bullets m.parameters ∧
          (o.keptMember? = some m → m ∈ linted.api.collection headings[i].1)) ∧
    linted.errors =
      surface.defects.map Defect.message ++
        ((outcomes surface.name headings).flatMap fun entry =>
          (entry.2.notices entry.1).map Notice.message) ++
        validator linted.api.toJson := by
  intro headings linted
  have he : linted.errors = surface.defects.map Defect.message ++
      (notices surface.name headings).map Notice.message ++ validator linted.api.toJson :=
    surface.errors_record options validator
  refine ⟨fun h collection hk m hm => ?_, fun i heading hk ht hu => ?_, ?_⟩
  · rw [he, List.append_eq_nil_iff, List.append_eq_nil_iff,
      List.map_eq_nil_iff (f := Notice.message)] at h
    rw [surface.collection_record options validator collection] at hm
    obtain ⟨s, hs, hm⟩ := mem_membersRead (mem_of_mem_firstBy hm)
    -- Nothing is noted at any heading, so nothing at the one that gave this member.
    have hd := member_snd_of_notices h.1.2 hs
    obtain ⟨heading, ht, rfl⟩ := Section.exists_heading_of_member hk hm
    refine ⟨s, heading.signature, hs, Prod.ext hm hd, rfl, rfl, ?_, ?_⟩
    · rw [Section.member_method hk ht] at hd
      exact Section.names_method hd
    · rw [Section.method_parameters]
      exact s.arguments_documents _
  · -- The defects are the same whether the member is kept or left out.
    have hr := Section.member_method hk ht surface.name
    obtain ⟨hm, hn⟩ := filter_notices_outcome hr (headings.take i)
    have ho : (outcomes surface.name headings)[i]? =
        some (headings[i].1, outcome surface.name (headings.take i) headings[i]) := by
      simp [outcomes]
    refine ⟨_, _, ho, ?_, hm, ?_, ?_⟩
    · rw [hn, Section.filter_method, if_pos hu]
    · rw [Section.method_parameters]
      exact headings[i].2.arguments_documents _ hu.1
    · exact mem_collection_of_kept surface options validator (List.mem_of_getElem? ho)
  · rw [he, notices, List.map_flatMap]

/-- The surface of a module with a second method of one name, whose bullet has another name. -/
def repeatedTraySurface : Surface :=
  .ofModule "tray" ⟨1, [.text "tray"], [],
    [⟨2, [.text "Methods"], [],
      [⟨3, [.code "tray.setIcon(icon)"],
        [.list false [[.paragraph [.code "icon", .text " Object"]]]], []⟩,
      ⟨3, [.code "tray.setIcon(icon[, size])"],
        [.list false [[.paragraph [.code "image", .text " Object"]]]], []⟩]⟩]⟩

theorem signatures_documented_tray :
    let clean := traySurface.record ⟨"", .builtin, .standard⟩ .acceptAll
    (clean.errors = [] ∧ clean.api.collection .methods ≠ [] ∧
      ∀ m ∈ clean.api.collection .methods, ∃ signature,
        (m.parameters.map fun p => p.name) = Signature.names signature) ∧
    ∃ o, (outcomes "tray" (repeatedTraySurface.sections.flatMap fun entry =>
        entry.2.children.map (entry.1, ·)))[1]? = some (.methods, o) ∧
      ((o.notices .methods).map Notice.message).filter tellsMissingDocs =
        ["tray.setIcon(icon[, size]) is missing parameter docs"] := by
  have hc : (traySurface.record ⟨"", .builtin, .standard⟩ .acceptAll).errors = [] := by
    decide +kernel
  have hm : (traySurface.record ⟨"", .builtin, .standard⟩ .acceptAll).api.collection .methods ≠
      [] := by
    rw [ne_eq, ← List.isEmpty_iff]
    decide +kernel
  refine ⟨⟨hc, hm, fun m h => ?_⟩, ?_⟩
  · obtain ⟨s, signature, -, -, -, -, hn, -⟩ := (Surface.signatures_documented traySurface
      ⟨"", .builtin, .standard⟩ .acceptAll).1 hc .methods rfl m h
    exact ⟨signature, hn⟩
  · obtain ⟨o, m, ho, hn, -⟩ := (Surface.signatures_documented repeatedTraySurface
      ⟨"", .builtin, .standard⟩ .acceptAll).2.1 ⟨1, by decide⟩ ⟨"setIcon", "(icon[, size])"⟩ rfl
      (by decide +kernel) (by decide +kernel)
    exact ⟨o, ho, hn⟩

end ApiDocs
