import IncidentRelay.Proofs.Settings.EnvironmentText
import IncidentRelay.Proofs.Settings.Layers

/-!
# Settings from one variable

Settings that are texts, and the variables that set them. One variable alone makes settings that
are the defaults but for the text in it, as long as the text reads as nothing else; if it reads as a
truth value, a number, a list or a table the settings are refused. In quotes every text is accepted.

## Main statements

* `mem_textSettings_iff`: the settings that are texts are those that can be any text.
* `path?_variableName`: the variable of a setting leads to the setting.
* `load_text_variable`: each of them can be given through its variable.
* `chat_number_refused`: the number of a chat is refused unless it stands in quotes.
-/

namespace IncidentRelay.Settings

open Json (Value)
open Layer (merge)
open Environment (Apart nest)

/-- The settings that are texts. -/
def textSettings : List (List String) :=
  [["name"], ["log_level"], ["server", "host"], ["server", "public_host"],
    ["alert", "slack", "token"], ["alert", "slack", "channel_id"],
    ["alert", "slack", "template_path"], ["alert", "slack", "api_url"],
    ["alert", "slack", "message_properties", "button_text"],
    ["alert", "slack", "message_properties", "button_style"],
    ["alert", "telegram", "bot_token"], ["alert", "telegram", "chat_id"],
    ["alert", "telegram", "template_path"], ["alert", "telegram", "api_url"],
    ["alert", "email", "smtp_host"], ["alert", "email", "username"],
    ["alert", "email", "password"], ["alert", "email", "to"], ["alert", "email", "subject"],
    ["alert", "email", "template_path"], ["alert", "msteams", "power_automate_url"],
    ["alert", "msteams", "template_path"], ["alert", "lark", "webhook_url"],
    ["alert", "lark", "template_path"], ["oncall", "aws_incident_manager", "response_plan_arn"],
    ["oncall", "pagerduty", "routing_key"], ["oncall", "pagerduty", "events_url"],
    ["store", "redis", "host"], ["store", "redis", "password"]]

/-- The settings that are texts are settings. -/
theorem isSetting_of_text : ∀ path ∈ textSettings, IsSetting path := by
  simp only [textSettings, List.forall_mem_cons, List.not_mem_nil, false_imp_iff, implies_true,
    and_true]
  and_intros <;> exact ⟨_, rfl, rfl⟩

/-- Settings that are texts can be any text. -/
theorem reads_text : ∀ path ∈ textSettings, ∀ t,
    ∃ s, codec.decode (nest path (.string t)) = .ok s := by
  simp only [textSettings, List.forall_mem_cons, List.not_mem_nil, false_imp_iff, implies_true,
    and_true]
  and_intros <;> exact fun t => ⟨_, rfl⟩

/-- Settings that are texts can be nothing else. -/
theorem text_of_read : ∀ path ∈ textSettings, ∀ w s, codec.decode (nest path w) = .ok s →
    w ≠ .null → ∃ t, w = .string t := by
  simp only [textSettings, List.forall_mem_cons, List.not_mem_nil, false_imp_iff, implies_true,
    and_true]
  and_intros
  all_goals
    intro w s h hnull
    cases w with
    | string t => exact ⟨t, rfl⟩
    | null => exact absurd rfl hnull
    | bool | number | array | object => exact nomatch h

/-- The settings that are texts are those that can be any text. -/
theorem mem_textSettings_iff {path : List String} :
    path ∈ textSettings ↔
      IsSetting path ∧ ∀ t, ∃ s, codec.decode (nest path (.string t)) = .ok s := by
  constructor
  · exact fun h => ⟨isSetting_of_text path h, reads_text path h⟩
  · rintro ⟨⟨u, hu, hleaf⟩, hreads⟩
    -- Every other setting refuses this one text.
    have hrefused : ∀ path ∈ leaves (codec.encode {}), path ∈ textSettings ∨
        (codec.decode (nest path (.string "?"))).isOk = false := by
      decide +kernel
    obtain ⟨s, hs⟩ := hreads "?"
    refine (hrefused path (mem_leaves hu hleaf)).resolve_right ?_
    rw [hs]
    exact nofun

/-! ### The names of variables -/

/-- The characters of the name of the variable that sets a setting. -/
def variableChars (path : List String) : List Char :=
  "INCIDENTD_".toList ++ "__".toList.intercalate (path.map fun k => k.toList.map Text.upperAscii)

/-- The name of the variable that sets a setting. -/
def variableName (path : List String) : String := String.ofList (variableChars path)

/-- The characters of a variable's name as they are compared. -/
def folded (cs : List Char) : List Char := (Text.trimBy Text.isBlank cs).map Text.lowerAscii

/-- The characters of the names that a variable's name leads through. -/
def nameChars (cs : List Char) : List (List Char) :=
  Text.segments '.' (Text.trimBy Text.isBlank (Text.replaceAux "__".toList ".".toList 0
    (cs.drop Environment.namePrefix.length)))

/-- The path of a variable, from the parts of its name in small letters. -/
theorem path?_ofList {cs : List Char} {path : List String}
    (hbegins : Environment.namePrefix.isPrefixOf (folded cs) = true)
    (hnames : nameChars (folded cs) = path.map String.toList) (hne : "" ∉ path) :
    Environment.path? (String.ofList cs) = some path := by
  have hparts : (nameChars (folded cs)).map String.ofList = path := by
    rw [hnames, List.map_map]
    exact List.map_id'' (fun _ => String.ofList_toList) path
  have hany : path.any (· = "") = false :=
    List.any_eq_false.mpr fun k hk => by simpa using ne_of_mem_of_not_mem hk hne
  rw [Environment.path?, String.toList_ofList]
  dsimp only
  rw [folded] at hbegins
  rw [if_pos hbegins]
  simp only [Text.split, Text.trim, Text.replace, String.toList_ofList]
  rw [nameChars, folded] at hparts
  rw [hparts, hany]
  rfl

/-- The variable of a setting leads to the setting. -/
theorem path?_variableName {path : List String} (hpath : path ∈ textSettings) :
    Environment.path? (variableName path) = some path := by
  have hbegins : ∀ path ∈ textSettings,
      Environment.namePrefix.isPrefixOf (folded (variableChars path)) = true := by
    decide +kernel
  have hnames : ∀ path ∈ textSettings,
      nameChars (folded (variableChars path)) = path.map String.toList := by
    decide +kernel
  have hne : ∀ path ∈ textSettings, "" ∉ path := by decide +kernel
  exact path?_ofList (hbegins path hpath) (hnames path hpath) (hne path hpath)

/-! ### Loading one variable -/

/-- Whether settings are the defaults but for one text. -/
structure SetsOnly (path : List String) (v : String) (s : Settings) : Prop where
  given : at? (codec.encode s) path = some (.string v)
  others : ∀ other, IsSetting other → other ≠ path →
    at? (codec.encode s) other = at? (codec.encode {}) other
  urls : s.alert.teams.otherUrls = []

/-- Neither of two settings lies on the way to the other. -/
theorem IsSetting.apart {path other : List String} (h : IsSetting path) (h' : IsSetting other)
    (hne : path ≠ other) : Apart path other := by
  have hpart : ∀ {p q : List String}, IsSetting p → IsSetting q → p ≠ q → ¬ p <+: q := by
    rintro p q hp ⟨u, hu, -⟩ hne ⟨rest, rfl⟩
    cases rest with
    | nil => exact hne (List.append_nil p).symm
    | cons k rest => exact hp.not_isSection (at?_before hu)
  exact ⟨hpart h h' hne, hpart h' h hne.symm⟩

/-- A setting is apart from the named addresses. -/
theorem IsSetting.apart_teamsUrls {path : List String} (h : IsSetting path) (k : String) :
    Apart path (teamsUrls ++ [k]) := by
  have hurls : IsSection teamsUrls := ⟨[], rfl⟩
  have hnone : at? (codec.encode {}) (teamsUrls ++ [k]) = none := by
    rw [at?_teamsUrls]
    rfl
  obtain ⟨u, hu, hleaf⟩ := h
  refine ⟨fun hbegins => ?_, ?_⟩
  · rcases List.prefix_concat_iff.mp hbegins with rfl | ⟨rest, hrest⟩
    · rw [hnone] at hu
      exact nomatch hu
    · rw [← hrest] at hurls
      exact IsSetting.not_isSection ⟨u, hu, hleaf⟩ hurls.of_append
  · rintro ⟨rest, rfl⟩
    rw [at?_append, hnone] at hu
    exact nomatch hu

/-- What is read from one text over the defaults is the defaults but for the text. -/
theorem setsOnly_of_read {path : List String} {t : String} {s : Settings} (hpath : IsSetting path)
    (hread : codec.decode (merge (codec.encode {}) (nest path (.string t))) = .ok s) :
    SetsOnly path t s := by
  have hlayers : ∀ l ∈ [nest path (.string t)], Tidy l ∧ KeepsSections l :=
    List.forall_mem_singleton.mpr
      ⟨Environment.tidy_nest path (.leaf rfl), keepsSections_nest hpath.not_isSection _⟩
  change codec.decode ([nest path (.string t)].foldl merge (codec.encode {})) = .ok s at hread
  refine ⟨?_, fun other hother hne => ?_, ?_⟩
  · rw [at?_setting hread hlayers hpath, List.reverse_singleton, List.singleton_append,
      topmost_cons, Environment.at?_nest, Option.some_or]
  · rw [at?_setting hread hlayers hother, List.reverse_singleton, List.singleton_append,
      topmost_cons, Environment.at?_nest_of_apart (hpath.apart hother hne.symm), Option.none_or,
      topmost_cons, topmost, List.findSome?_nil, Option.or_none]
  · have hnone (k : String) : Table.get? s.alert.teams.otherUrls k = none := by
      have hurl := at?_namedUrl hread hlayers k
      rw [List.reverse_singleton, List.singleton_append, topmost_cons,
        Environment.at?_nest_of_apart (hpath.apart_teamsUrls k), Option.none_or, topmost_cons,
        topmost, List.findSome?_nil, Option.or_none, at?_teamsUrls, at?_teamsUrls] at hurl
      exact Option.map_eq_none_iff.mp hurl
    cases hurls : s.alert.teams.otherUrls with
    | nil => rfl
    | cons e rest =>
        have hget := hnone e.1
        rw [hurls, Table.get?, if_pos rfl] at hget
        cases hget

/-- An object is not changed by the empty one. -/
theorem merge_empty (fs : Json.Fields) : merge (.object fs) (.object []) = .object fs := by
  rw [merge_objects, Layer.mergeFields_nil]

/-- The window of settings that are the defaults but for one text. -/
theorem SetsOnly.waitMinutes {path : List String} {v : String} {s : Settings}
    (h : SetsOnly path v s) : s.onCall.waitMinutes = 0 := by
  have honCall (s : Settings) : at? (codec.encode s) ["oncall", "wait_minutes"] =
      at? (OnCall.codec.encode s.onCall) ["wait_minutes"] :=
    at?_record (by decide) (by rfl) (by rfl) _
  have hshown (s : Settings) : at? (codec.encode s) ["oncall", "wait_minutes"] =
      some (.nat s.onCall.waitMinutes) :=
    (honCall s).trans (at?_record (by decide) (by rfl) (by rfl) [])
  by_cases hpath : ["oncall", "wait_minutes"] = path
  · have hgiven := h.given
    rw [← hpath, hshown] at hgiven
    exact nomatch hgiven
  · have hother := h.others ["oncall", "wait_minutes"] ⟨_, rfl, rfl⟩ hpath
    rw [hshown, hshown] at hother
    simpa [Value.nat, Value.int] using hother

/-- One variable makes one layer over the defaults. -/
theorem layers_of_one {name text k : String} {path : List String}
    (hname : Environment.path? name = some (k :: path)) :
    [.object [], Environment.document [(name, text)], CommandLine.document {}].foldl merge
      (codec.encode {}) =
      merge (codec.encode {}) (nest (k :: path) (Environment.value text)) := by
  have hdocument : Environment.document [(name, text)] =
      nest (k :: path) (Environment.value text) := by
    rw [Environment.document_eq, List.foldl_cons, List.foldl_nil, Environment.lay]
    simp only [hname, Environment.nest_cons, merge_objects, mergeFields_cons, Layer.mergeFields_nil]
    rfl
  have hdefaults : codec.encode {} = .object (Table.ofList _) := rfl
  rw [hdocument, List.foldl_cons, List.foldl_cons, List.foldl_cons, List.foldl_nil, hdefaults,
    merge_empty, Environment.nest_cons, merge_objects]
  exact merge_empty _

/-- Without a file there is an empty document. -/
theorem fileDocument?_nil (path : String) : fileDocument? [] path = some (.object []) := by
  rw [fileDocument?, Files.read?_nil]

section One

variable {name text k : String} {path : List String}
  (hname : Environment.path? name = some (k :: path))

include hname

/-- Settings are loaded if a variable can be read as its setting. -/
theorem load_of_read {s : Settings}
    (hread : codec.decode (merge (codec.encode {}) (nest (k :: path) (Environment.value text))) =
      .ok s) (hwait : s.onCall.waitMinutes ≤ maxWaitMinutes) :
    load {} [(name, text)] [] = .ok s := by
  rw [← layers_of_one hname] at hread
  simp only [load, fileDocument?_nil, hread]
  exact if_neg (Nat.not_lt.mpr hwait)

/-- Loading fails if a variable cannot be read as its setting. -/
theorem load_of_fault {f : Fault}
    (hread : codec.decode (merge (codec.encode {}) (nest (k :: path) (Environment.value text))) =
      .error f) : load {} [(name, text)] [] = .error (.fault defaultPath f) := by
  rw [← layers_of_one hname] at hread
  simp only [load, fileDocument?_nil, hread, filePath, Option.getD_none]

end One

/-- The path of a setting is not empty. -/
theorem IsSetting.ne_nil {path : List String} (h : IsSetting path) : path ≠ [] := by
  rintro rfl
  exact h.not_isSection ⟨_, rfl⟩

section Given

variable {path : List String} (hpath : path ∈ textSettings) {name text : String}
  (hname : Environment.path? name = some path)

include hpath

/-- One value can be read over the defaults if it can be read alone, and only then. -/
theorem read_over_defaults_iff {w : Value} (htidy : Tidy w) :
    (∃ s, codec.decode (merge (codec.encode {}) (nest path w)) = .ok s) ↔
      ∃ s, codec.decode (nest path w) = .ok s :=
  codec_lawful.above _ (Environment.tidy_nest path htidy)
    (keepsSections_nest (isSetting_of_text path hpath).not_isSection w)

include hname

/-- A variable whose value is a text sets its setting and no other one. -/
theorem load_of_string {t : String} (hvalue : Environment.value text = .string t) :
    ∃ s, load {} [(name, text)] [] = .ok s ∧ SetsOnly path t s := by
  have hsetting := isSetting_of_text path hpath
  obtain ⟨s, hread⟩ := (read_over_defaults_iff hpath (.leaf rfl)).mpr (reads_text path hpath t)
  have honly := setsOnly_of_read hsetting hread
  obtain ⟨k, rest, rfl⟩ := List.exists_cons_of_ne_nil hsetting.ne_nil
  rw [← hvalue] at hread
  exact ⟨s, load_of_read hname hread (honly.waitMinutes ▸ Nat.zero_le _), honly⟩

/-- A variable whose value is no text is refused. -/
theorem load_of_not_string (hvalue : ∀ t, Environment.value text ≠ .string t) :
    ∃ f, load {} [(name, text)] [] = .error (.fault defaultPath f) := by
  obtain ⟨k, rest, rfl⟩ := List.exists_cons_of_ne_nil (isSetting_of_text path hpath).ne_nil
  cases hread : codec.decode
      (merge (codec.encode {}) (nest (k :: rest) (Environment.value text))) with
  | error f => exact ⟨f, load_of_fault hname hread⟩
  | ok s =>
      obtain ⟨a, halone⟩ :=
        (read_over_defaults_iff hpath (Environment.tidy_value text)).mp ⟨s, hread⟩
      obtain ⟨t, ht⟩ := text_of_read _ hpath _ a halone (Environment.value_ne_null text)
      exact absurd ht (hvalue t)

end Given

/-- Every setting that is a text can be given through its variable: as it is, if it does not read as
a truth value, a number, a list or a table, and in quotes in any case. -/
theorem load_text_variable {path : List String} (hpath : path ∈ textSettings) {v : String}
    (hne : v ≠ "") (htrim : Text.trim v = v) (hquoted : ¬ Environment.IsQuoted v) :
    (¬ Environment.IsTyped v →
      ∃ s, load {} [(variableName path, v)] [] = .ok s ∧ SetsOnly path v s) ∧
    (Environment.IsTyped v →
      ∃ f, load {} [(variableName path, v)] [] = .error (.fault defaultPath f)) ∧
    ∃ s, load {} [(variableName path, Environment.quote v)] [] = .ok s ∧ SetsOnly path v s := by
  have hname := path?_variableName hpath
  refine ⟨fun htyped => ?_, fun htyped => ?_, ?_⟩
  · exact load_of_string hpath hname (Environment.value_of_not_typed hne htrim hquoted htyped)
  · exact load_of_not_string hpath hname (Environment.value_of_typed hne htrim htyped)
  · exact load_of_string hpath hname (Environment.value_quote v)

/-- The name of a chat can be set by its variable, and its number cannot. -/
theorem load_text_variable_chat :
    (∃ s, load {} [(variableName ["alert", "telegram", "chat_id"], "@ops")] [] = .ok s ∧
      SetsOnly ["alert", "telegram", "chat_id"] "@ops" s) ∧
      ∃ f, load {} [(variableName ["alert", "telegram", "chat_id"], "-1001234567890")] [] =
        .error (.fault defaultPath f) := by
  have hplain : ¬ Environment.IsTyped "@ops" := by
    rintro (h | h | ⟨-, h⟩ | ⟨h, -⟩)
    · exact absurd h (by decide)
    · exact absurd h (by decide)
    · exact absurd h (by decide +kernel)
    · exact absurd h (by decide)
  have hplainChars : "-1001234567890".toList.all (!Environment.isSeparator ·) = true := by decide
  have htyped : Environment.IsTyped "-1001234567890" :=
    .inr (.inr (.inl ⟨fun c hc => by simpa using List.all_eq_true.mp hplainChars c hc,
      .inr (.inl (by decide +kernel))⟩))
  exact ⟨(load_text_variable (by decide +kernel) (by decide) (by decide +kernel)
      (Environment.not_isQuoted (by decide))).1 hplain,
    (load_text_variable (by decide +kernel) (by decide) (by decide +kernel)
      (Environment.not_isQuoted (by decide))).2.1 htyped⟩

/-- A number is no text even where a text is asked for, so the number of a chat needs quotes. -/
theorem chat_number_refused :
    variableName ["alert", "telegram", "chat_id"] = "INCIDENTD_ALERT__TELEGRAM__CHAT_ID" ∧
      load {} [("INCIDENTD_ALERT__TELEGRAM__CHAT_ID", "-1001234567890")] [] =
        .error (.fault defaultPath
          { kind := .invalidType, path := ["alert", "telegram", "chat_id"] }) ∧
      ¬ ∀ path ∈ textSettings, ∀ v, v ≠ "" → Text.trim v = v → ¬ Environment.IsQuoted v →
        ∃ s, load {} [(variableName path, v)] [] = .ok s ∧ SetsOnly path v s := by
  have hname : variableName ["alert", "telegram", "chat_id"] =
      "INCIDENTD_ALERT__TELEGRAM__CHAT_ID" := by decide +kernel
  have hload : load {} [("INCIDENTD_ALERT__TELEGRAM__CHAT_ID", "-1001234567890")] [] =
      .error (.fault defaultPath
        { kind := .invalidType, path := ["alert", "telegram", "chat_id"] }) := by decide +kernel
  refine ⟨hname, hload, fun hall => ?_⟩
  obtain ⟨s, hs, -⟩ := hall ["alert", "telegram", "chat_id"] (by decide +kernel) "-1001234567890"
    (by decide) (by decide +kernel) (Environment.not_isQuoted (by decide))
  rw [hname, hload] at hs
  exact nomatch hs

end IncidentRelay.Settings
