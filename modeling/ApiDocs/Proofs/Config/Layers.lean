import ApiDocs.Config.Load
import ApiDocs.Proofs.Config.Aliases
import ApiDocs.Proofs.Config.Variables
import ApiDocs.Proofs.Except
import ApiDocs.Proofs.Toml.Tables

/-!
# Settings from layers

Every setting is taken from the last source that gives it: the variables, the file of the project,
the file of the user, and what is built in. Each setting is resolved on its own, and so is the alias
of each name, whatever else the sources say.
-/

namespace ApiDocs.Config

open Value (Tidy LeadsToText textAt? text? textAt?_of_get? textAt?_of_get?_eq_none)

/-- The paths of keys at which settings stand. -/
inductive IsSetting : List String → Prop
  | version : IsSetting ["lint", "version"]
  | websiteBase : IsSetting ["lint", "website_base_url"]
  | repoBase : IsSetting ["lint", "repo_base_url"]
  | alias (name : String) : IsSetting ["slugs", "aliases", name]

/-- Whether entries have tables and texts where settings stand, as far as they have anything. -/
def Documented (entries : Entries) : Prop :=
  ∀ path, IsSetting path → LeadsToText path (.table entries)

theorem IsSetting.exists_cons {path : List String} (h : IsSetting path) :
    ∃ key rest, path = key :: rest := by
  cases h <;> exact ⟨_, _, rfl⟩

/-- No setting stands inside another one. -/
theorem IsSetting.eq_of_prefix {path other : List String} (h : IsSetting path)
    (ho : IsSetting other) (hp : path <+: other) : path = other := by
  cases h <;> cases ho <;> simp_all

theorem documented_nil {path : List String} (h : IsSetting path) :
    LeadsToText path (.table []) := by
  obtain ⟨key, rest, rfl⟩ := h.exists_cons
  exact Value.leadsToText_nil key rest

/-- A setting alone has the documented shape. -/
theorem documented_nested {key : String} {path : List String} (h : IsSetting (key :: path))
    (s : String) : Documented [(key, Value.nested path (.text s))] := fun _ ho =>
  @Value.leadsToText_nested (key :: path) _ s (h.eq_of_prefix ho) (ho.eq_of_prefix h)

/-- Whether sorted entries in the documented shape give these texts to settings. -/
structure Gives (entries : Entries) (texts : List String → Option String) : Prop where
  tidy : Tidy (.table entries)
  documented : Documented entries
  textAt : ∀ path, IsSetting path → textAt? path (.table entries) = texts path

/-- Of many layers the last one that has a setting gives it. -/
theorem gives_layers {layers : List Entries} (ht : ∀ entries ∈ layers, Tidy (.table entries))
    (hd : ∀ entries ∈ layers, Documented entries) :
    Gives (layers.foldl Value.overlayEntries []) fun path =>
      layers.reverse.findSome? fun entries => textAt? path (.table entries) := by
  refine ⟨tidy_layers ht, fun path hp => ?_, fun path hp => ?_⟩
  · obtain ⟨key, rest, rfl⟩ := hp.exists_cons
    exact (textAt?_layers ht fun entries hm => hd entries hm _ hp).1
  · obtain ⟨key, rest, rfl⟩ := hp.exists_cons
    exact (textAt?_layers ht fun entries hm => hd entries hm _ hp).2

theorem setting?_decodeText {path : List String} {entries : Entries} {key : String}
    (h : LeadsToText [key] (.table entries)) :
    setting? path entries key decodeText = .ok (textAt? [key] (.table entries)) := by
  obtain ⟨_, ⟨⟩, h⟩ := h
  rw [Value.textAt?_cons, setting?]
  cases hg : Dict.get? key entries with
  | none => rfl
  | some value =>
    obtain ⟨s, rfl⟩ := h value hg
    rfl

/-- A table of texts is decoded key by key. -/
theorem decodeTexts_eq_ok {path : List String} {entries : Entries}
    (h : ∀ entry ∈ entries, ∃ s, entry.2 = .text s) :
    ∃ texts, decodeTexts path entries = .ok texts ∧ Dict.keys texts = Dict.keys entries ∧
      ∀ key, Dict.get? key texts = (Dict.get? key entries).bind text? := by
  induction entries with
  | nil => exact ⟨[], rfl, rfl, fun _ => rfl⟩
  | cons entry rest ih =>
    obtain ⟨key, value⟩ := entry
    rw [List.forall_mem_cons] at h
    obtain ⟨⟨s, hs⟩, h⟩ := h
    obtain ⟨texts, ht, hk, hg⟩ := ih h
    subst hs
    refine ⟨(key, s) :: texts, ?_, congrArg (key :: ·) hk, fun other => ?_⟩
    · exact bind_eq_ok.mpr ⟨s, rfl, bind_eq_ok.mpr ⟨texts, ht, rfl⟩⟩
    · rw [Dict.get?_cons, Dict.get?_cons, hg]
      split_ifs <;> rfl

section Decode

variable {entries : Entries} {texts : List String → Option String}

theorem Gives.decode_lint (h : Gives entries texts) :
    ∃ lint, setting? [] entries "lint" LintSettings.decode = .ok lint ∧
      lint.getD .standard = .given (texts ["lint", "version"])
        (texts ["lint", "website_base_url"]) (texts ["lint", "repo_base_url"]) := by
  rw [setting?, ← h.textAt _ .version, ← h.textAt _ .websiteBase, ← h.textAt _ .repoBase]
  cases hg : Dict.get? "lint" entries with
  | none =>
    refine ⟨none, rfl, ?_⟩
    rw [textAt?_of_get?_eq_none hg, textAt?_of_get?_eq_none hg, textAt?_of_get?_eq_none hg]
    rfl
  | some value =>
    have hv := (h.documented _ .version).below hg
    have hw := (h.documented _ .websiteBase).below hg
    have hr := (h.documented _ .repoBase).below hg
    obtain ⟨fields, rfl, -⟩ := id hv
    refine ⟨some _, ?_, rfl⟩
    rw [textAt?_of_get? hg, textAt?_of_get? hg, textAt?_of_get? hg]
    simp only [LintSettings.decode, setting?_decodeText hv, setting?_decodeText hw,
      setting?_decodeText hr]
    rfl

theorem Gives.decode_slugs (h : Gives entries texts) :
    ∃ slugs, setting? [] entries "slugs" SlugSettings.decode = .ok slugs ∧
      (Dict.keys (slugs.getD .standard).aliases).Nodup ∧
      ∀ name, Dict.get? name (slugs.getD .standard).aliases =
        texts ["slugs", "aliases", name] := by
  rw [setting?]
  simp only [← h.textAt _ (.alias _)]
  cases hg : Dict.get? "slugs" entries with
  | none =>
    exact ⟨none, rfl, List.nodup_nil, fun name => by rw [textAt?_of_get?_eq_none hg]; rfl⟩
  | some value =>
    have hl : ∀ name, LeadsToText ["aliases", name] value := fun name =>
      (h.documented _ (.alias name)).below hg
    obtain ⟨fields, rfl, -⟩ := hl ""
    cases ha : Dict.get? "aliases" fields with
    | none =>
      refine ⟨some ⟨[]⟩, ?_, List.nodup_nil, fun name => ?_⟩
      · simp only [SlugSettings.decode, setting?, ha]
        rfl
      · rw [textAt?_of_get? hg, textAt?_of_get?_eq_none ha]
        rfl
    | some value =>
      have hn : ∀ name, LeadsToText [name] value := fun name => (hl name).below ha
      obtain ⟨aliases, rfl, -⟩ := hn ""
      have ho := ((h.tidy.inner hg).inner ha).ordered
      have htexts : ∀ entry ∈ aliases, ∃ s, entry.2 = .text s := by
        rintro ⟨name, found⟩ hm
        exact (hn name).below ((Dict.get?_eq_some ho.nodup_keys).mpr hm)
      obtain ⟨found, hd, hk, hf⟩ := @decodeTexts_eq_ok ["slugs", "aliases"] aliases htexts
      refine ⟨some ⟨found⟩, ?_, hk ▸ ho.nodup_keys, fun name => ?_⟩
      · simp only [SlugSettings.decode, setting?, ha, decodeTextTable]
        rw [show ([] : List String) ++ ["slugs"] ++ ["aliases"] = ["slugs", "aliases"] from rfl, hd]
        rfl
      · rw [textAt?_of_get? hg, textAt?_of_get? ha, Value.textAt?_cons]
        exact hf name

end Decode

/-- Whether settings are those of some texts, with what is built in where there is no text. -/
structure Settings.Follow (settings : Settings) (texts : List String → Option String) : Prop where
  version : settings.lint.version = texts ["lint", "version"]
  websiteBase : settings.lint.websiteBase =
    (texts ["lint", "website_base_url"]).getD UrlTemplates.defaultWebsiteBase
  repoBase : settings.lint.repoBase =
    (texts ["lint", "repo_base_url"]).getD UrlTemplates.defaultRepoBase
  aliases : ∀ name, Dict.get? name settings.slugs.aliases = texts ["slugs", "aliases", name]
  table : (∀ name slug, texts ["slugs", "aliases", name] = some slug → Slug.IsSlug slug) →
    ∃ aliases, settings.slugs.table = .ok aliases ∧
      ∀ name, aliases.get? name = (texts ["slugs", "aliases", name]).or
        (if name = "webviewTag" then some "webview" else none)

/-- Aliases that are slugs are put over the built-in ones. -/
theorem SlugSettings.table_eq_ok {settings : SlugSettings} (hn : (Dict.keys settings.aliases).Nodup)
    (hs : ∀ name slug, Dict.get? name settings.aliases = some slug → Slug.IsSlug slug) :
    ∃ aliases, settings.table = .ok aliases ∧
      ∀ name, aliases.get? name = (Dict.get? name settings.aliases).or
        (if name = "webviewTag" then some "webview" else none) := by
  have hm : settings.misfit? = none := misfit?_eq_none.mpr fun entry he =>
    hs entry.1 entry.2 ((Dict.get?_eq_some hn).mpr he)
  refine ⟨_, by rw [table_eq, hm], fun name => ?_⟩
  rw [get?_extend_builtin hn]
  exact congrArg _ (Dict.get?_cons name _ _ [])

/-- Entries in the documented shape are decoded, setting by setting. -/
theorem Gives.decode {entries : Entries} {texts : List String → Option String}
    (h : Gives entries texts) :
    ∃ settings, Settings.decode entries = .ok settings ∧ settings.Follow texts := by
  obtain ⟨lint, hl, hlint⟩ := h.decode_lint
  obtain ⟨slugs, hs, hn, hslugs⟩ := h.decode_slugs
  refine ⟨⟨lint.getD .standard, slugs.getD .standard⟩,
    bind_eq_ok.mpr ⟨lint, hl, bind_eq_ok.mpr ⟨slugs, hs, rfl⟩⟩, ?_⟩
  refine ⟨?_, ?_, ?_, hslugs, fun hall => ?_⟩
  · rw [hlint]
    rfl
  · rw [hlint]
    rfl
  · rw [hlint]
    rfl
  · simp only [← hslugs] at hall ⊢
    exact SlugSettings.table_eq_ok hn hall

theorem entriesOfToml_eq_map (entries : Toml.Entries) :
    Value.entriesOfToml entries = entries.map fun entry => (entry.1, Value.ofToml entry.2) := by
  induction entries with
  | nil => rfl
  | cons entry rest ih => rw [Value.entriesOfToml, ih, List.map_cons]

/-- What a document gives to a setting is sorted as the document is. -/
theorem tidy_ofToml {value : Toml.Value} (h : value.Tidy) : (Value.ofToml value).Tidy := by
  induction h with
  | table ordered _ ih =>
    rw [Value.ofToml, entriesOfToml_eq_map]
    refine .table (List.pairwise_map.mpr ordered) fun entry hm => ?_
    obtain ⟨found, hf, rfl⟩ := List.mem_map.mp hm
    exact ih found hf
  | @other value h =>
    cases value with
    | table entries => exact absurd rfl (h entries)
    | moment m => exact @Value.tidy_nested ["$__toml_private_datetime"] _ (.other nofun)
    | text | integer | real | truth | array => exact .other nofun

theorem tidy_fileLayer {w : Workspace} {path : String} {layer : Layer}
    (h : fileLayer w path = .ok layer) : Tidy (.table layer.entries) := by
  rw [fileLayer] at h
  split at h
  · cases h
  · split at h
    · rename_i hr
      cases h
      have ht := tidy_ofToml (Toml.tidy_of_read? hr)
      rwa [Value.ofToml] at ht
    · cases h

theorem fileLayer_of_read? {w : Workspace} {path text : String} {entries : Toml.Entries}
    (ht : w.readText path = .ok text) (hr : Toml.read? text = some entries) :
    fileLayer w path = .ok ⟨.file (Path.shortest w.folder path), Value.entriesOfToml entries⟩ := by
  rw [fileLayer, ht]
  simp only [hr]

/-- The file with the settings of the user, where it exists. -/
def userPath? (w : Workspace) : Option String :=
  (userFile? w.environment).filter w.hasFile

/-- The file with the settings of the project: the one that was given, or else the nearest. -/
def projectPath? (w : Workspace) (project : Option String) : Option String :=
  match project with
  | some path => some path
  | none => if w.exists? projectFile then w.nearest? projectFile else none

/-- Whether a file holds settings in the shape that is documented. -/
def Readable (w : Workspace) (path : String) : Prop :=
  ∃ layer, fileLayer w path = .ok layer ∧ Documented layer.entries

/-- The text that a file gives to a setting. -/
def fileText? (w : Workspace) (path : Option String) (key : List String) : Option String :=
  path.bind fun path =>
    match fileLayer w path with
    | .ok layer => textAt? key (.table layer.entries)
    | .error _ => none

/-- The text that variables give to a setting: that of the last one that sets it. -/
def variableText? (environment : Environment) (key : List String) : Option String :=
  environment.reverse.findSome? fun setting => textAt? key (.table (Variable.additions setting))

/-- The text of a setting: from the variables, else from the file of the project, else from the file
of the user. -/
def resolved? (w : Workspace) (project : Option String) (key : List String) : Option String :=
  (variableText? w.environment key).or <|
    (fileText? w (projectPath? w project) key).or (fileText? w (userPath? w) key)

theorem fileLayers_eq {w : Workspace} {paths : List String} {layers : List Layer}
    (h : List.Forall₂ (fun path layer => fileLayer w path = .ok layer) paths layers) :
    fileLayers w paths = (layers, []) := by
  induction h with
  | nil => rfl
  | cons hl _ ih =>
    rw [fileLayers, ih]
    simp only [hl]

theorem entriesOfVariables_eq (environment : Environment) :
    entriesOfVariables environment =
      (environment.map Variable.additions).foldl Value.overlayEntries [] := by
  rw [entriesOfVariables, List.foldl_map]
  congr 1
  funext entries setting
  obtain ⟨name, text⟩ := setting
  rw [Variable.additions]
  cases hp : Variable.path? name with
  | none => simp only [hp, Value.overlayEntries]
  | some path =>
    simp only [hp]
    cases Value.nested path (Variable.valueOf text) with
    | table added => rfl
    | text | truth | signed | unsigned | real | sequence => rw [Value.overlayEntries]

section Load

variable {w : Workspace} {project : Option String}

/-- A file that may be missing gives one layer or none. -/
theorem exists_layers {path : Option String} (h : ∀ p ∈ path, Readable w p) :
    ∃ layers, List.Forall₂ (fun path layer => fileLayer w path = .ok layer) path.toList layers ∧
      (∀ layer ∈ layers, Documented layer.entries ∧ Tidy (.table layer.entries)) ∧
      ∀ key, (layers.reverse.findSome? fun layer => textAt? key (.table layer.entries)) =
        fileText? w path key := by
  cases path with
  | none => exact ⟨[], .nil, fun _ hm => absurd hm List.not_mem_nil, fun _ => rfl⟩
  | some path =>
    obtain ⟨layer, hl, hd⟩ := h path rfl
    refine ⟨[layer], .cons hl .nil, List.forall_mem_singleton.mpr ⟨hd, tidy_fileLayer hl⟩, ?_⟩
    intro key
    rw [fileText?, Option.bind_some, hl, List.reverse_singleton, List.findSome?_singleton]

theorem variableText?_eq (environment : Environment) (key : List String) :
    variableText? environment key =
      (environment.map Variable.additions).reverse.findSome? fun entries =>
        textAt? key (.table entries) := by
  rw [← List.map_reverse, List.findSome?_map]
  rfl

theorem gives_variables {environment : Environment}
    (h : ∀ setting ∈ environment, Documented (Variable.additions setting)) :
    Gives (entriesOfVariables environment) (variableText? environment) := by
  have hg := @gives_layers (environment.map Variable.additions)
    (List.forall_mem_map.mpr fun setting _ => Variable.tidy_additions setting)
    (List.forall_mem_map.mpr h)
  rw [entriesOfVariables_eq]
  exact ⟨hg.tidy, hg.documented, fun path hp => by rw [hg.textAt path hp, variableText?_eq]⟩

/-- All sources together give each setting its text. -/
theorem exists_merged (hu : ∀ path ∈ userPath? w, Readable w path)
    (hf : ∀ path ∈ projectPath? w project, Readable w path)
    (hv : ∀ setting ∈ w.environment, Documented (Variable.additions setting)) :
    ∃ files, fileLayers w (settingFiles w project) = (files, []) ∧
      Gives (merged (files ++ [Layer.mk .environment (entriesOfVariables w.environment)]))
        (resolved? w project) := by
  obtain ⟨user, hru, hdu, htu⟩ := exists_layers hu
  obtain ⟨chosen, hrc, hdc, htc⟩ := exists_layers hf
  have hvariables := gives_variables hv
  have hlayers : ∀ layer ∈ user ++ chosen ++
      [Layer.mk .environment (entriesOfVariables w.environment)],
      Documented layer.entries ∧ Tidy (.table layer.entries) := by
    rw [List.forall_mem_append, List.forall_mem_append, List.forall_mem_singleton]
    exact ⟨⟨hdu, hdc⟩, hvariables.documented, hvariables.tidy⟩
  have hg := gives_layers (List.forall_mem_map.mpr fun layer hm => (hlayers layer hm).2)
    (List.forall_mem_map.mpr fun layer hm => (hlayers layer hm).1)
  refine ⟨user ++ chosen, fileLayers_eq (List.rel_append hru hrc), ?_⟩
  rw [merged, ← List.foldl_map]
  refine ⟨hg.tidy, hg.documented, fun path hp => ?_⟩
  rw [hg.textAt path hp, ← List.map_reverse, List.findSome?_map, List.reverse_append,
    List.reverse_append, List.findSome?_append, List.findSome?_append, List.reverse_singleton,
    List.findSome?_singleton, resolved?, ← htc, ← htu, ← hvariables.textAt path hp]
  rfl

/-- Where one variable only sets a setting, its text is given. -/
theorem variableText?_of_unique {environment : Environment} {setting : String × String}
    (hm : setting ∈ environment) {key : List String} {s : String}
    (hs : textAt? key (.table (Variable.additions setting)) = some s)
    (hu : ∀ other ∈ environment, other ≠ setting →
      textAt? key (.table (Variable.additions other)) = none) :
    variableText? environment key = some s := by
  cases ht : variableText? environment key with
  | none =>
    rw [variableText?, List.findSome?_eq_none_iff] at ht
    rw [ht setting (List.mem_reverse.mpr hm)] at hs
    cases hs
  | some t =>
    rw [variableText?] at ht
    obtain ⟨other, ho, ht⟩ := List.exists_of_findSome?_eq_some ht
    by_cases he : other = setting
    · rw [← hs, ← ht, he]
    · rw [hu other (List.mem_reverse.mp ho) he] at ht
      cases ht

theorem load_eq_ok {files : List Layer} {settings : Settings}
    (hp : ∀ path ∈ project, w.hasFile path = true)
    (hf : fileLayers w (settingFiles w project) = (files, []))
    (hd : Settings.decode
        (merged (files ++ [Layer.mk .environment (entriesOfVariables w.environment)])) =
      .ok settings) : load w project = .ok settings := by
  cases project with
  | none =>
    simp only [load, hf, hd]
    rfl
  | some path =>
    simp only [load, hf, hd, hp path rfl]
    rfl

/-- Settings are resolved one by one, each from the last source that gives it. The name of a
variable selects section and field in any case and an alias letter by letter, and its text is given
to that setting and to no other. -/
theorem load_resolves (hp : ∀ path ∈ project, w.hasFile path = true)
    (hu : ∀ path ∈ userPath? w, Readable w path)
    (hf : ∀ path ∈ projectPath? w project, Readable w path)
    (hv : ∀ setting ∈ w.environment, Documented (Variable.additions setting)) :
    (∃ settings, load w project = .ok settings ∧ settings.Follow (resolved? w project)) ∧
    (∀ outer inner,
      (outer, inner) ∈ [("lint", "version"), ("lint", "website_base_url"),
        ("lint", "repo_base_url"), ("slugs", "aliases")] →
      ∀ name, Text.asciiLower name.toList = ("doclint_" ++ outer ++ "__" ++ inner).toList →
        Variable.path? name = some [outer, inner]) ∧
    (∀ front name, Text.asciiLower front = "doclint_slugs__aliases__".toList → name ≠ [] →
      (∀ c ∈ name, c ≠ '_' ∧ c ≠ '.' ∧ Unicode.isWhite c = false) →
      Variable.path? (String.ofList (front ++ name)) =
        some ["slugs", "aliases", String.ofList name]) ∧
    (∀ name text path s, Variable.path? name = some path → Variable.valueOf text = .text s →
      ∀ key, textAt? key (.table (Variable.additions (name, text))) =
        if key = path then some s else none) ∧
    (∀ setting ∈ w.environment, ∀ key s,
      textAt? key (.table (Variable.additions setting)) = some s →
      (∀ other ∈ w.environment, other ≠ setting →
        textAt? key (.table (Variable.additions other)) = none) →
      variableText? w.environment key = some s) := by
  refine ⟨?_, ?_, fun front name => Variable.path?_alias,
    fun name text path s => Variable.textAt?_additions,
    fun setting hm key s => variableText?_of_unique hm⟩
  · obtain ⟨files, hfiles, hg⟩ := exists_merged hu hf hv
    obtain ⟨settings, hd, hfollow⟩ := hg.decode
    exact ⟨settings, load_eq_ok hp hfiles hd, hfollow⟩
  · intro outer inner hm name hn
    simp only [List.mem_cons, Prod.mk.injEq, List.not_mem_nil, or_false] at hm
    rcases hm with ⟨rfl, rfl⟩ | ⟨rfl, rfl⟩ | ⟨rfl, rfl⟩ | ⟨rfl, rfl⟩
    all_goals
      refine Variable.path?_field ?_ ?_ (by decide)
      · rw [hn]
        decide
      · rw [hn]
        decide

end Load

/-- The file of a user who has an alias for a name. -/
def userText : String :=
  "slugs.aliases.app = \"application\"\n"

/-- The file of a project with a version. -/
def projectText : String :=
  "lint.version = \"1.0.0\"\n"

/-- A workspace with both files and a variable. -/
def sources : Workspace where
  root := .folder
    [("home", .folder [(".config", .folder [("doclint", .folder
        [("config.toml", .file userText.toUTF8)])])]),
      ("work", .folder [("doclint.toml", .file projectText.toUTF8)])]
  folder := "/work"
  environment := [("HOME", "/home"), ("DOCLINT_SLUGS__ALIASES__webviewTag", "webview-tag")]

def userEntries : Entries :=
  [("slugs", .table [("aliases", .table [("app", .text "application")])])]

def projectEntries : Entries :=
  [("lint", .table [("version", .text "1.0.0")])]

def variableEntries : Entries :=
  [("slugs", .table [("aliases", .table [("webviewTag", .text "webview-tag")])])]

theorem exists_fileLayer_user :
    ∃ origin, fileLayer sources "/home/.config/doclint/config.toml" = .ok ⟨origin, userEntries⟩ := by
  have hr : Toml.read? userText =
      some [("slugs", .table [("aliases", .table [("app", .text "application")])])] :=
    @Toml.read?_assignment userText ⟨["slugs", "aliases"], "app"⟩ " \"application\"\n".toList
      "application".toList ['\n'] (by decide) (by decide) (by decide +kernel) (by decide +kernel)
      (by decide +kernel) (by decide +kernel) (by decide +kernel)
  exact ⟨_, fileLayer_of_read? (by decide +kernel) hr⟩

theorem exists_fileLayer_project :
    ∃ origin, fileLayer sources "/work/doclint.toml" = .ok ⟨origin, projectEntries⟩ := by
  have hr : Toml.read? projectText = some [("lint", .table [("version", .text "1.0.0")])] :=
    @Toml.read?_assignment projectText ⟨["lint"], "version"⟩ " \"1.0.0\"\n".toList "1.0.0".toList
      ['\n'] (by decide) (by decide) (by decide +kernel) (by decide +kernel) (by decide +kernel)
      (by decide +kernel) (by decide +kernel)
  exact ⟨_, fileLayer_of_read? (by decide +kernel) hr⟩

theorem additions_sources :
    sources.environment.map Variable.additions = [[], variableEntries] := by
  have hhome : Variable.path? "HOME" = none := by decide +kernel
  have hpath : Variable.path? "DOCLINT_SLUGS__ALIASES__webviewTag" =
      some ["slugs", "aliases", "webviewTag"] := by decide +kernel
  have hread : Variable.value? "webview-tag".toList =
      some (.text "webview-tag", ⟨[], by decide⟩) := by
    rw [Variable.value?.eq_def]
    rfl
  have hvalue : Variable.valueOf "webview-tag" = .text "webview-tag" := by
    rw [Variable.valueOf, hread]
  simp only [sources, List.map_cons, List.map_nil, Variable.additions, hhome, hpath, hvalue,
    Value.nested, variableEntries]

theorem resolved?_sources (key : List String) :
    resolved? sources none key = (textAt? key (.table variableEntries)).or
      ((textAt? key (.table projectEntries)).or (textAt? key (.table userEntries))) := by
  have huser : userPath? sources = some "/home/.config/doclint/config.toml" := by decide +kernel
  have hproject : projectPath? sources none = some "/work/doclint.toml" := by decide +kernel
  have hnil : textAt? key (.table []) = none := by cases key <;> rfl
  obtain ⟨_, hu⟩ := exists_fileLayer_user
  obtain ⟨_, hf⟩ := exists_fileLayer_project
  rw [resolved?, huser, hproject, fileText?, fileText?, Option.bind_some, Option.bind_some, hu, hf,
    variableText?_eq, additions_sources]
  change (List.findSome? _ [variableEntries, []]).or _ = _
  rw [List.findSome?_cons, List.findSome?_singleton, hnil]
  cases textAt? key (.table variableEntries) <;> rfl

theorem load_resolves_sources :
    (∀ path ∈ userPath? sources, Readable sources path) ∧
    (∀ path ∈ projectPath? sources none, Readable sources path) ∧
    (∀ setting ∈ sources.environment, Documented (Variable.additions setting)) ∧
    ∃ settings, load sources none = .ok settings ∧ settings.lint.version = some "1.0.0" ∧
      Dict.get? "app" settings.slugs.aliases = some "application" ∧
      Dict.get? "webviewTag" settings.slugs.aliases = some "webview-tag" := by
  have hu : ∀ path ∈ userPath? sources, Readable sources path := by
    rw [show userPath? sources = some "/home/.config/doclint/config.toml" by decide +kernel]
    rintro path ⟨⟩
    obtain ⟨_, hl⟩ := exists_fileLayer_user
    exact ⟨_, hl, documented_nested (.alias "app") "application"⟩
  have hf : ∀ path ∈ projectPath? sources none, Readable sources path := by
    rw [show projectPath? sources none = some "/work/doclint.toml" by decide +kernel]
    rintro path ⟨⟩
    obtain ⟨_, hl⟩ := exists_fileLayer_project
    exact ⟨_, hl, documented_nested .version "1.0.0"⟩
  have hv : ∀ setting ∈ sources.environment, Documented (Variable.additions setting) := by
    rw [← List.forall_mem_map, additions_sources, List.forall_mem_cons, List.forall_mem_singleton]
    exact ⟨fun path hp => documented_nil hp, documented_nested (.alias "webviewTag") "webview-tag"⟩
  have hnone : ∀ path ∈ (none : Option String), sources.hasFile path = true :=
    fun _ h => absurd h (Option.not_mem_none _)
  obtain ⟨⟨settings, hload, hfollow⟩, -⟩ := @load_resolves sources none hnone hu hf hv
  refine ⟨hu, hf, hv, settings, hload, ?_, ?_, ?_⟩
  · rw [hfollow.version, resolved?_sources]
    rfl
  · rw [hfollow.aliases, resolved?_sources]
    rfl
  · rw [hfollow.aliases, resolved?_sources]
    rfl

end ApiDocs.Config
