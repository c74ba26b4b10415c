import IncidentRelay.Proofs.Settings.CommandLineLayer
import IncidentRelay.Proofs.Settings.EnvironmentLayer
import IncidentRelay.Proofs.Settings.Lawful
import IncidentRelay.Proofs.Settings.TomlTidy
import IncidentRelay.Settings.Load

/-!
# Settings in layers

The defaults show which paths lead to sections and which to single settings. As long as no layer has
anything but an object where there is a section, each setting that was loaded is that of the
uppermost layer that has it, whatever the layers do elsewhere: first what the options of the command
line give, then the environment, then the file, then the defaults. The named addresses of Microsoft
Teams are those of all layers together, each from the uppermost layer that has one of its name.

## Main statements

* `KeepsSections.merge`: layers with objects for sections make a document with objects for sections.
* `keepsSections_document`: the layer of a command line has objects for sections.
* `keepsSections_environment`: so has that of an environment without a variable for a section.
* `at?_setting`, `at?_namedUrl`: what was read from layers has the value of the uppermost layer at
  each setting, and at each named address.
* `load_layers`: each setting is that of the uppermost layer that has it.
-/

namespace IncidentRelay.Settings

open Json (Value)
open Layer (merge)

/-! ### Sections and settings -/

/-- Whether a path leads to a section. -/
def IsSection (path : List String) : Prop := ∃ fs, at? (codec.encode {}) path = some (.object fs)

/-- Whether a path leads to a single setting. -/
def IsSetting (path : List String) : Prop :=
  ∃ u, at? (codec.encode {}) path = some u ∧ u.asObject? = none

example : (leaves (codec.encode {})).length = 49 := by decide +kernel

/-- What is a setting is no section. -/
theorem IsSetting.not_isSection {path : List String} (h : IsSetting path) : ¬ IsSection path := by
  rintro ⟨fs, hfs⟩
  obtain ⟨u, hu, hleaf⟩ := h
  rw [hfs] at hu
  cases hu
  exact nomatch hleaf

/-- On the way to a value there are objects. -/
theorem at?_before {v u : Value} {before after : List String} {k : String}
    (h : at? v (before ++ k :: after) = some u) : ∃ fs, at? v before = some (.object fs) := by
  rw [at?_append] at h
  obtain ⟨w, hw, hu⟩ := Option.bind_eq_some_iff.mp h
  cases hobject : w.asObject? with
  | none => rw [at?_of_not_object hobject] at hu; exact nomatch hu
  | some fs => exact ⟨fs, eq_object hobject ▸ hw⟩

/-- Whether a document has nothing but objects where there are sections. -/
def KeepsSections (v : Value) : Prop := Fits v (codec.encode {})

/-- The ways to sections and settings are open in a document that keeps sections. -/
theorem KeepsSections.isOpen {v : Value} (h : KeepsSections v) {path : List String} {u : Value}
    (hpath : at? (codec.encode {}) path = some u) : IsOpen v path := by
  refine isOpen_of_sections fun before k after heq w hw => ?_
  rw [heq] at hpath
  obtain ⟨fs, hfs⟩ := at?_before hpath
  exact h before fs w hfs hw

/-- Merging keeps the sections of two documents that keep theirs. -/
theorem KeepsSections.merge {base upper : Value} (hbase : KeepsSections base)
    (hupper : KeepsSections upper) (htidy : Tidy upper) : KeepsSections (merge base upper) := by
  intro path fs u hsection hu
  rw [at?_merge htidy (hupper.isOpen hsection)] at hu
  cases hw : at? upper path with
  | none => rw [hw] at hu; exact hbase path fs u hsection hu
  | some w =>
      obtain ⟨gs, rfl⟩ := hupper path fs w hsection hw
      rw [hw] at hu
      cases hu
      exact laidOver_object _ gs

/-- Layers with objects for sections, over each other. -/
theorem keepsSections_layers {layers : List Value} {base : Value}
    (hlayers : ∀ l ∈ layers, Tidy l ∧ KeepsSections l) (htidy : Tidy base)
    (hbase : KeepsSections base) :
    Tidy (layers.foldl Layer.merge base) ∧ KeepsSections (layers.foldl Layer.merge base) := by
  induction layers generalizing base with
  | nil => exact ⟨htidy, hbase⟩
  | cons upper rest ih =>
      obtain ⟨⟨hupper, hkeeps⟩, hrest⟩ := List.forall_mem_cons.mp hlayers
      exact ih hrest (hupper.merge htidy) (hbase.merge hkeeps hupper)

/-! ### The layer of the command line -/

/-- What a command line sets is a setting. -/
theorem isSetting_of_sets? {c : CommandLine} {path : List String} {v : Value}
    (h : c.sets? path = some v) : IsSetting path := by
  unfold CommandLine.sets? at h
  split at h
  · next hpath => subst hpath; exact ⟨_, rfl, rfl⟩
  split at h
  · next hpath => subst hpath; exact ⟨_, rfl, rfl⟩
  split at h
  · next hpath => subst hpath; exact ⟨_, rfl, rfl⟩
  split at h
  · next hpath => subst hpath; exact ⟨_, rfl, rfl⟩
  split at h
  · next hpath => subst hpath; exact ⟨_, rfl, rfl⟩
  exact nomatch h

/-- The document of a command line keeps the sections. -/
theorem keepsSections_document (c : CommandLine) : KeepsSections c.document := by
  intro path fs u hsection hu
  rcases c.at?_document path with hsets | ⟨-, gs, hgs⟩
  · rw [hsets] at hu
    exact absurd ⟨fs, hsection⟩ (isSetting_of_sets? hu).not_isSection
  · rw [hgs] at hu
    cases hu
    exact ⟨gs, rfl⟩

/-- At a setting the layer of the command line has what the options give. -/
theorem at?_commandLine (c : CommandLine) {path : List String} (h : IsSetting path) :
    at? c.document path = c.sets? path := by
  refine (c.at?_document path).resolve_right ?_
  rintro ⟨hpath, -⟩
  refine h.not_isSection ?_
  simp only [List.mem_cons, List.not_mem_nil, or_false] at hpath
  rcases hpath with rfl | rfl | rfl <;> exact ⟨_, rfl⟩

/-! ### The layer of the environment -/

/-- The start of a path to a section leads to a section. -/
theorem IsSection.of_append {path rest : List String} (h : IsSection (path ++ rest)) :
    IsSection path := by
  obtain ⟨fs, hfs⟩ := h
  cases rest with
  | nil => exact ⟨fs, by rwa [List.append_nil] at hfs⟩
  | cons k rest => exact at?_before hfs

/-- A value that is not put at the place of a section keeps the sections. -/
theorem keepsSections_nest {path : List String} (h : ¬ IsSection path) (v : Value) :
    KeepsSections (Environment.nest path v) := by
  intro other fs u hsection hu
  refine (Environment.prefix_or_object hu).resolve_left ?_
  rintro ⟨rest, rfl⟩
  exact h (IsSection.of_append ⟨fs, hsection⟩)

/-- Variables none of which has the name of a section keep sections. -/
theorem keepsSections_environment {environment : Table String}
    (h : ∀ e ∈ environment, ∀ path, Environment.path? e.1 = some path → ¬ IsSection path) :
    KeepsSections (Environment.document environment) := by
  have hfold : ∀ (doc : Value), KeepsSections doc →
      KeepsSections (environment.foldl Environment.lay doc) := by
    induction environment with
    | nil => exact fun _ hdoc => hdoc
    | cons e rest ih =>
        obtain ⟨hfirst, hrest⟩ := List.forall_mem_cons.mp h
        refine fun doc hdoc => ih hrest _ ?_
        unfold Environment.lay
        split
        · next path hpath =>
            exact hdoc.merge (keepsSections_nest (hfirst path hpath) _)
              (Environment.tidy_nest path (Environment.tidy_value e.2))
        · exact hdoc
  exact hfold _ (fits_empty _)

/-! ### The layers together -/

/-- The uppermost layer comes first. -/
theorem topmost_cons (layer : Value) (layers : List Value) (path : List String) :
    topmost (layer :: layers) path = (at? layer path).or (topmost layers path) := by
  rw [topmost, List.findSome?_cons]
  cases at? layer path <;> rfl

/-- Where the named addresses of Microsoft Teams are. -/
def teamsUrls : List String := ["alert", "msteams", "other_power_urls"]

/-- Where the addresses of Teams are in the settings. -/
theorem at?_teamsUrls (s : Settings) (k : String) :
    at? (codec.encode s) (teamsUrls ++ [k]) =
      (Table.get? s.alert.teams.otherUrls k).map .string := by
  have hurls : at? (codec.encode s) ["alert", "msteams", "other_power_urls", k] =
      at? (Codec.texts.encode s.alert.teams.otherUrls) [k] :=
    calc at? (codec.encode s) ["alert", "msteams", "other_power_urls", k]
      _ = at? (Alert.codec.encode s.alert) ["msteams", "other_power_urls", k] :=
        at?_record (by decide) (by rfl) (by rfl) _
      _ = at? (Teams.codec.encode s.alert.teams) ["other_power_urls", k] :=
        at?_record (by decide) (by rfl) (by rfl) _
      _ = at? (Codec.texts.encode s.alert.teams.otherUrls) [k] :=
        at?_record (by decide) (by rfl) (by rfl) _
  change at? (codec.encode s) ["alert", "msteams", "other_power_urls", k] = _
  rw [hurls, Codec.texts, at?_object]
  induction s.alert.teams.otherUrls with
  | nil => rfl
  | cons e rest ih =>
      rw [List.map_cons, Table.get?, Table.get?]
      split
      · rfl
      · exact ih

/-- The layer of a settings file is tidy. -/
theorem tidy_fileDocument {files : Files} {path : String} {file : Value}
    (h : fileDocument? files path = some file) : Tidy file := by
  unfold fileDocument? at h
  split at h
  · cases h
    exact tidy_empty
  · exact Toml.tidy_of_read h

/-- Loaded settings are what was read from the layers. -/
theorem decode_of_load {cmd : CommandLine} {environment : Table String} {files : Files}
    {file : Value} {s : Settings} (hfile : fileDocument? files (filePath cmd) = some file)
    (hload : load cmd environment files = .ok s) :
    codec.decode ([file, Environment.document environment, cmd.document].foldl merge
      (codec.encode {})) = .ok s := by
  simp only [load, hfile] at hload
  split at hload
  · cases hload
  · next hdecode =>
      split at hload
      · cases hload
      · cases hload
        exact hdecode

/-- The way to a member of a section is open in a document that keeps sections. -/
theorem KeepsSections.isOpen_member {v : Value} (h : KeepsSections v) {path : List String}
    (hpath : IsSection path) (k : String) : IsOpen v (path ++ [k]) := by
  obtain ⟨fs, hfs⟩ := hpath
  refine isOpen_of_sections fun before name after heq w hw => ?_
  rcases List.eq_nil_or_concat after with rfl | ⟨rest, last, rfl⟩
  · obtain ⟨rfl, -⟩ := List.append_inj' heq rfl
    exact h path fs w hfs hw
  · rw [List.concat_eq_append, ← List.cons_append, ← List.append_assoc] at heq
    obtain ⟨rfl, -⟩ := List.append_inj' heq rfl
    obtain ⟨gs, hgs⟩ := at?_before hfs
    exact h before gs w hgs hw

section Layers

variable {layers : List Value} {s : Settings}
  (hread : codec.decode (layers.foldl merge (codec.encode {})) = .ok s)
  (hlayers : ∀ l ∈ layers, Tidy l ∧ KeepsSections l)

include hread hlayers

/-- Each setting that was read from layers is that of the uppermost one that has it. -/
theorem at?_setting {path : List String} (hpath : IsSetting path) :
    at? (codec.encode s) path = topmost (layers.reverse ++ [codec.encode {}]) path := by
  obtain ⟨htidy, hkeeps⟩ := keepsSections_layers hlayers codec_lawful.tidy (fits_self _)
  obtain ⟨u, hu, hleaf⟩ := hpath
  obtain ⟨w, hw, hwleaf⟩ := codec_lawful.leaf s path u hu hleaf
  have hshown := codec_lawful.read _ s hread htidy hkeeps path w hw hwleaf
  have htop := at?_layers (codec.encode {})
    (fun l hl => ⟨(hlayers l hl).1, (hlayers l hl).2.isOpen hu⟩) fun x hx => by
      rw [hx] at hshown
      cases hshown
      exact hwleaf
  rw [htop] at hshown
  rw [hw, ← hshown, topmost, List.findSome?_append]
  simp [Option.or_assoc]

/-- Each named address that was read from layers is that of the uppermost one that has it. -/
theorem at?_namedUrl (k : String) :
    at? (codec.encode s) (teamsUrls ++ [k]) =
      topmost (layers.reverse ++ [codec.encode {}]) (teamsUrls ++ [k]) := by
  obtain ⟨htidy, hkeeps⟩ := keepsSections_layers hlayers codec_lawful.tidy (fits_self _)
  have hempty : at? (codec.encode {}) teamsUrls = some (.object []) := rfl
  have hsame : at? (layers.foldl merge (codec.encode {})) (teamsUrls ++ [k]) =
      at? (codec.encode s) (teamsUrls ++ [k]) := by
    cases hu : at? (layers.foldl merge (codec.encode {})) (teamsUrls ++ [k]) with
    | some u => exact (codec_lawful.free _ s hread htidy hkeeps teamsUrls k u hempty hu).symm
    | none =>
        -- The defaults have no named address, so one that is shown was read.
        cases hw : at? (codec.encode s) (teamsUrls ++ [k]) with
        | none => rfl
        | some w =>
            rw [at?_teamsUrls] at hw
            obtain ⟨t, ht, rfl⟩ := Option.map_eq_some_iff.mp hw
            have hshown := codec_lawful.read _ s hread htidy hkeeps (teamsUrls ++ [k]) (.string t)
              (by rw [at?_teamsUrls, ht]; rfl) rfl
            rw [hu, at?_teamsUrls] at hshown
            exact nomatch hshown
  rw [← hsame]
  refine at?_layers _ (fun l hl => ⟨(hlayers l hl).1, (hlayers l hl).2.isOpen_member ⟨_, hempty⟩ k⟩)
    fun w hw => ?_
  rw [hsame, at?_teamsUrls] at hw
  obtain ⟨t, -, rfl⟩ := Option.map_eq_some_iff.mp hw
  rfl

end Layers

/-- Each setting that was loaded is what the options of the command line give, or else that of the
uppermost other layer that has it, and the named addresses of Microsoft Teams are those of all
layers, each from the uppermost one that has one of its name. -/
theorem load_layers {cmd : CommandLine} {environment : Table String} {files : Files} {file : Value}
    {s : Settings} (hfile : fileDocument? files (filePath cmd) = some file)
    (hload : load cmd environment files = .ok s) (hfileSections : KeepsSections file)
    (hsections : KeepsSections (Environment.document environment)) :
    (∀ path, IsSetting path → at? (codec.encode s) path =
      (cmd.sets? path).or
        (topmost [Environment.document environment, file, codec.encode {}] path)) ∧
      ∀ k, (Table.get? s.alert.teams.otherUrls k).map Value.string =
        topmost [cmd.document, Environment.document environment, file, codec.encode {}]
          (teamsUrls ++ [k]) := by
  have hread := decode_of_load hfile hload
  have hlayers : ∀ l ∈ [file, Environment.document environment, cmd.document],
      Tidy l ∧ KeepsSections l := by
    simp only [List.forall_mem_cons, List.not_mem_nil, false_imp_iff, implies_true, and_true]
    exact ⟨⟨tidy_fileDocument hfile, hfileSections⟩,
      ⟨Environment.tidy_document environment, hsections⟩,
      ⟨cmd.tidy_document, keepsSections_document cmd⟩⟩
  refine ⟨fun path hpath => ?_, fun k => ?_⟩
  · rw [at?_setting hread hlayers hpath, ← at?_commandLine cmd hpath]
    exact topmost_cons _ _ path
  · rw [← at?_teamsUrls]
    exact at?_namedUrl hread hlayers k

/-- The host comes from the command line, the port and one address from the environment, another
address from the file, and the rest is as by default. -/
theorem load_layers_listener :
    ∃ s, load { host := some "::1" }
        [("INCIDENTD_ALERT__MSTEAMS__OTHER_POWER_URLS__DAY", "https://day"),
          ("INCIDENTD_SERVER__PORT", "81")]
        [(defaultPath, "[alert.msteams.other_power_urls]\nnight = \"https://night\"\n")] = .ok s ∧
      at? (codec.encode s) ["server", "host"] = some (.string "::1") ∧
      at? (codec.encode s) ["server", "port"] = some (.int 81) ∧
      at? (codec.encode s) ["server", "public_host"] = some (.string "http://localhost:3000") ∧
      (Table.get? s.alert.teams.otherUrls "day").map Value.string = some (.string "https://day") ∧
      (Table.get? s.alert.teams.otherUrls "night").map Value.string =
        some (.string "https://night") := by
  have hload : load { host := some "::1" }
      [("INCIDENTD_ALERT__MSTEAMS__OTHER_POWER_URLS__DAY", "https://day"),
        ("INCIDENTD_SERVER__PORT", "81")]
      [(defaultPath, "[alert.msteams.other_power_urls]\nnight = \"https://night\"\n")] =
      .ok { server := { host := "::1", port := 81 },
            alert := { teams := { otherUrls :=
              [("day", "https://day"), ("night", "https://night")] } } } := by
    decide +kernel
  have hfile : fileDocument?
      [(defaultPath, "[alert.msteams.other_power_urls]\nnight = \"https://night\"\n")]
      (filePath { host := some "::1" }) =
      some (Environment.nest (teamsUrls ++ ["night"]) (.string "https://night")) := by
    decide +kernel
  obtain ⟨hsettings, hurls⟩ := load_layers hfile hload
    (keepsSections_nest (by rintro ⟨fs, h⟩; exact nomatch h) _)
    (keepsSections_environment (by
      simp only [List.forall_mem_cons, List.not_mem_nil, false_imp_iff, implies_true, and_true]
      refine ⟨?_, ?_⟩
      · rintro path h ⟨fs, hfs⟩
        cases h
        exact nomatch hfs
      · rintro path h ⟨fs, hfs⟩
        cases h
        exact nomatch hfs))
  exact ⟨_, hload, hsettings _ ⟨_, rfl, rfl⟩, hsettings _ ⟨_, rfl, rfl⟩, hsettings _ ⟨_, rfl, rfl⟩,
    hurls "day", hurls "night"⟩

end IncidentRelay.Settings
