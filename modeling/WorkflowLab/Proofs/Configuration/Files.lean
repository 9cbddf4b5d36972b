import Mathlib.Data.List.Basic
import WorkflowLab.Configuration.Preferences
import WorkflowLab.Proofs.Json.Reading

/-!
# What configuration files give

- `bytesOf`, `Holds`: the bytes of a text, and the bytes of files that hold it, with a mark or without;
  `decodeText?_dropMark_iff`;
- `ConfigFile.Gives`: the settings that a file gives, one rule for each way to give them; `read_eq_ok_iff`;
- `ConfigFile.IsReadable`: the files that give settings at all, `gives_iff_isReadable`;
- `ConfigFile.IsPaired`: the files whose strings are texts of characters;
- `IsSection`, `membersOf`, `definedIn`: what the sections of the settings define; `lookUp_eq_ok_iff`;
- `modelOf`, `limitOf`, `keyNameOf`, `Preferences.ofSettings`: single settings and all preferences;
- `configuration_returns`: **what comes of every file in every environment**.

`levels` is how deep the reader goes, as in `ConfigFile.read`.
-/

namespace WorkflowLab.Configuration

open Run

/-! ## Texts in files -/

/-- The bytes of a text. -/
def bytesOf (text : String) : List UInt8 := text.toUTF8.data.toList

/-- Collecting the bytes of an array from some place on. -/
theorem toList_loop (bytes : ByteArray) (i : Nat) (seen : List UInt8) :
    ByteArray.toList.loop bytes i seen = seen.reverse ++ bytes.data.toList.drop i := by
  induction i, seen using ByteArray.toList.loop.induct bytes with
  | case1 i seen hmore ih =>
    have hbyte : bytes.get! i = bytes.data.toList[i] := getElem!_pos bytes.data i hmore
    rw [ByteArray.toList.loop, if_pos hmore, ih, List.drop_eq_getElem_cons (i := i) hmore, hbyte, List.reverse_cons,
      List.append_assoc, List.singleton_append]
  | case2 i seen hdone =>
    rw [ByteArray.toList.loop, if_neg hdone, List.drop_of_length_le (Nat.not_lt.mp hdone), List.append_nil]

/-- The bytes of an array, in order. -/
theorem toList_bytes (bytes : ByteArray) : bytes.toList = bytes.data.toList := toList_loop bytes 0 []

/-- Bytes are decoded as the text that has them. -/
theorem decodeText?_eq_some_iff {bytes : List UInt8} {text : String} :
    decodeText? bytes = some text ↔ bytes = bytesOf text := by
  constructor
  · intro h
    unfold decodeText? String.fromUTF8? at h
    split at h
    · cases h
      rfl
    · cases h
  · rintro rfl
    have hvalid : (⟨(bytesOf text).toArray⟩ : ByteArray) = text.toByteArray := rfl
    unfold decodeText? String.fromUTF8?
    rw [hvalid, dif_pos text.isValidUTF8]
    rfl

/-- A text whose bytes are a part of the mark is empty, or the mark itself. -/
theorem bytesOf_of_part {text : String} (h : bytesOf text <+: byteOrderMark) :
    bytesOf text = [] ∨ bytesOf text = byteOrderMark := by
  have hdecode : decodeText? (bytesOf text) = some text := decodeText?_eq_some_iff.mpr rfl
  have hcases : bytesOf text = [] ∨ bytesOf text = [0xEF] ∨ bytesOf text = [0xEF, 0xBB] ∨
      bytesOf text = byteOrderMark := by
    simp only [byteOrderMark, List.prefix_cons_iff, List.prefix_nil] at h
    grind [byteOrderMark]
  rcases hcases with hnone | hone | htwo | hall
  · exact .inl hnone
  · rw [hone] at hdecode
    exact absurd hdecode (by rw [show decodeText? [0xEF] = none from by decide]; nofun)
  · rw [htwo] at hdecode
    exact absurd hdecode (by rw [show decodeText? [0xEF, 0xBB] = none from by decide]; nofun)
  · exact .inr hall

/-- The bytes of a file that holds a text: those of the text, unless they start with the mark; the mark before them; and
for the empty text a part of the mark. -/
inductive Holds : String → List UInt8 → Prop where
  | plain {text : String} : ¬byteOrderMark <+: bytesOf text → Holds text (bytesOf text)
  | marked (text : String) : Holds text (byteOrderMark ++ bytesOf text)
  | cut {bytes : List UInt8} : bytes <+: byteOrderMark → Holds "" bytes

/-- Bytes that start with the mark are what follows it. -/
theorem dropMark_marked (bytes : List UInt8) : dropMark (byteOrderMark ++ bytes) = bytes := by
  rw [dropMark, if_pos (List.isPrefixOf_iff_prefix.mpr (List.prefix_append _ _)), List.drop_left]

/-- A part of the mark is nothing. -/
theorem dropMark_part {bytes : List UInt8} (h : bytes <+: byteOrderMark) : dropMark bytes = [] := by
  unfold dropMark
  split
  · exact List.drop_of_length_le h.length_le
  · rw [if_pos (List.isPrefixOf_iff_prefix.mpr h)]

/-- Other bytes stay as they are. -/
theorem dropMark_other {bytes : List UInt8} (hmark : ¬byteOrderMark <+: bytes) (hpart : ¬bytes <+: byteOrderMark) :
    dropMark bytes = bytes := by
  rw [dropMark, if_neg (mt List.isPrefixOf_iff_prefix.mp hmark), if_neg (mt List.isPrefixOf_iff_prefix.mp hpart)]

/-- **A file is read as the text that it holds.** -/
theorem decodeText?_dropMark_iff {text : String} {bytes : List UInt8} :
    decodeText? (dropMark bytes) = some text ↔ Holds text bytes := by
  rw [decodeText?_eq_some_iff]
  constructor
  · intro h
    by_cases hmark : byteOrderMark <+: bytes
    · obtain ⟨rest, rfl⟩ := hmark
      rw [dropMark_marked] at h
      rw [h]
      exact .marked text
    by_cases hpart : bytes <+: byteOrderMark
    · rw [dropMark_part hpart] at h
      obtain rfl : text = "" := Option.some.inj ((decodeText?_eq_some_iff.mpr h).symm.trans (by decide))
      exact .cut hpart
    · rw [dropMark_other hmark hpart] at h
      rw [h] at hmark ⊢
      exact .plain hmark
  · rintro (hmark | _ | hpart)
    · by_cases hpart : bytesOf text <+: byteOrderMark
      · rcases bytesOf_of_part hpart with hnone | hall
        · rw [hnone]
          rfl
        · exact absurd (hall ▸ List.prefix_rfl) hmark
      · exact dropMark_other hmark hpart
    · exact dropMark_marked _
    · rw [dropMark_part hpart]
      rfl

/-! ## What a file gives -/

variable {levels : Option Nat}

/-- **The settings that a file gives**: none if it is missing, and otherwise the members of the JSON object that it
holds, or none if its text is something else. -/
inductive ConfigFile.Gives (levels : Option Nat) : ConfigFile → Fields → Prop where
  | absent : Gives levels .absent []
  | directory : Gives levels .directory []
  | members {bytes : ByteArray} {text : String} {settings : Fields} : Holds text bytes.toList →
    Json.parseWithin levels text.toList = .ok (.obj settings) → Gives levels (.content bytes) settings
  | other {bytes : ByteArray} {text : String} {v : Json} : Holds text bytes.toList →
    Json.parseWithin levels text.toList = .ok v → v.isObject = false → Gives levels (.content bytes) []
  | malformed {bytes : ByteArray} {text : String} : Holds text bytes.toList →
    Json.parseWithin levels text.toList = .error .malformed → Gives levels (.content bytes) []

/-- The file can be read: if there is one, it holds a text, no integer in this text is too long, and it is not nested
deeper than the reader goes. -/
def ConfigFile.IsReadable (levels : Option Nat) (file : ConfigFile) : Prop :=
  ∀ bytes, file = .content bytes → ∃ text, Holds text bytes.toList ∧
    (∀ digits, Json.parseWithin levels text.toList ≠ .error (.hugeInteger digits)) ∧
      Json.parseWithin levels text.toList ≠ .error .tooNested

/-- No string in the file has half of a surrogate pair by itself. -/
def ConfigFile.IsPaired (levels : Option Nat) (file : ConfigFile) : Prop :=
  ∀ bytes text, file = .content bytes → Holds text bytes.toList →
    Json.parseWithin levels text.toList ≠ .error .halfPair

/-- A file is read as the settings in its text. -/
theorem read_content {text : String} {bytes : ByteArray} (h : Holds text bytes.toList) :
    (ConfigFile.content bytes).read levels = readSettings levels text := by
  simp only [ConfigFile.read, decodeText?_dropMark_iff.mpr h]

/-- **What is read from a file is what it gives.** -/
theorem ConfigFile.read_eq_ok_iff {file : ConfigFile} {settings : Fields} :
    file.read levels = .ok settings ↔ file.Gives levels settings := by
  constructor
  · intro h
    match file with
    | .absent => cases h; exact .absent
    | .directory => cases h; exact .directory
    | .content bytes =>
      cases hdecode : decodeText? (dropMark bytes.toList) with
      | none =>
        simp only [ConfigFile.read, hdecode] at h
        cases h
      | some text =>
        have hholds := decodeText?_dropMark_iff.mp hdecode
        rw [read_content hholds] at h
        unfold readSettings at h
        split at h <;> cases h
        · next hparse => exact .members hholds hparse
        · next v hother hparse =>
          refine .other hholds hparse ?_
          cases v with
          | obj fields => exact absurd rfl (hother fields)
          | _ => rfl
        · next hparse => exact .malformed hholds hparse
  · rintro (_ | _ | ⟨hholds, hparse⟩ | ⟨hholds, hparse, hother⟩ | ⟨hholds, hparse⟩)
    · rfl
    · rfl
    · rw [read_content hholds, readSettings, hparse]
    · rw [read_content hholds, readSettings, hparse]
      cases ‹Json› with
      | obj fields => cases hother
      | _ => rfl
    · rw [read_content hholds, readSettings, hparse]

/-- **A file whose strings are texts gives settings exactly if it can be read.** -/
theorem ConfigFile.gives_iff_isReadable {file : ConfigFile} (hpaired : file.IsPaired levels) :
    (∃ settings, file.Gives levels settings) ↔ file.IsReadable levels := by
  constructor
  · rintro ⟨settings, hgives⟩ bytes rfl
    cases hgives with
    | members hholds hparse | other hholds hparse _ | malformed hholds hparse =>
      exact ⟨_, hholds, fun digits hhuge => (nomatch hparse.symm.trans hhuge),
        fun hdeep => nomatch hparse.symm.trans hdeep⟩
  · intro hreadable
    match file with
    | .absent => exact ⟨[], .absent⟩
    | .directory => exact ⟨[], .directory⟩
    | .content bytes =>
      obtain ⟨text, hholds, hshort, hflat⟩ := hreadable bytes rfl
      cases hparse : Json.parseWithin levels text.toList with
      | error fault =>
        cases fault with
        | malformed => exact ⟨[], .malformed hholds hparse⟩
        | hugeInteger digits => exact absurd hparse (hshort digits)
        | tooNested => exact absurd hparse hflat
        | halfPair => exact absurd hparse (hpaired bytes text rfl hholds)
      | ok v =>
        cases v with
        | obj settings => exact ⟨settings, .members hholds hparse⟩
        | _ => exact ⟨[], .other hholds hparse rfl⟩

/-- A file holds one text. -/
theorem Holds.unique {text other : String} {bytes : List UInt8} (h : Holds text bytes) (hother : Holds other bytes) :
    text = other :=
  Option.some.inj ((decodeText?_dropMark_iff.mpr h).symm.trans (decodeText?_dropMark_iff.mpr hother))

/-- The strings of a file that gives settings are texts. -/
theorem ConfigFile.Gives.isPaired {file : ConfigFile} {settings : Fields} (h : file.Gives levels settings) :
    file.IsPaired levels := by
  rintro bytes text rfl hholds hhalf
  cases h with
  | members hown hparse | other hown hparse _ | malformed hown hparse =>
    obtain rfl := hown.unique hholds
    exact nomatch hparse.symm.trans hhalf

/-! ## What sections define -/

/-- The section is missing from the settings, or it is an object. -/
def IsSection (settings : Fields) (name : String) : Prop := ∀ v, settings.get? name = some v → v.isObject = true

/-- The members of a section, none if there is no such section. -/
def membersOf (settings : Fields) (name : String) : Fields :=
  match settings.get? name with
  | some (.obj fields) => fields
  | _ => []

/-- The value of a setting, if the settings have this section and the section has it. -/
def definedIn (settings : Fields) (name key : String) : Option Json := (membersOf settings name).get? key

/-- A section can be used exactly if it is one, and then by its members. -/
theorem sectionOf_eq_ok_iff {settings fields : Fields} {name : String} :
    sectionOf settings name = .ok fields ↔ IsSection settings name ∧ membersOf settings name = fields := by
  unfold sectionOf IsSection membersOf
  cases settings.get? name with
  | none => simp
  | some v => cases v <;> simp [Json.isObject]

/-- What comes to a value has come to another one before. -/
theorem bind_eq_ok_iff {α β : Type} {x : Except ConfigFault α} {f : α → Except ConfigFault β} {b : β} :
    (x >>= f) = .ok b ↔ ∃ a, x = .ok a ∧ f a = .ok b := by
  cases x with
  | error fault => exact ⟨nofun, fun ⟨_, hx, _⟩ => nomatch hx⟩
  | ok a => exact ⟨fun h => ⟨a, rfl, h⟩, fun ⟨_, hx, h⟩ => by cases hx; exact h⟩

/-- A value that is returned is come to. -/
theorem pure_eq_ok_iff {α : Type} {a b : α} : (pure a : Except ConfigFault α) = .ok b ↔ a = b :=
  ⟨Except.ok.inj, congrArg Except.ok⟩

/-- Going on from the members of a section comes to a value exactly when the file gives settings, the section is one,
and its members lead to the value. -/
theorem lookUp_eq_ok_iff {α : Type} {file : ConfigFile} {name : String} {rest : Fields → Except ConfigFault α} {a : α} :
    (file.read levels >>= fun settings => sectionOf settings name >>= rest) = .ok a ↔
      ∃ settings, file.Gives levels settings ∧ IsSection settings name ∧ rest (membersOf settings name) = .ok a := by
  simp only [bind_eq_ok_iff, ConfigFile.read_eq_ok_iff, sectionOf_eq_ok_iff]
  refine exists_congr fun settings => and_congr_right' ?_
  constructor
  · rintro ⟨fields, ⟨hsection, rfl⟩, h⟩
    exact ⟨hsection, h⟩
  · rintro ⟨hsection, h⟩
    exact ⟨_, ⟨hsection, rfl⟩, h⟩

/-- The first of some values that counts, or a default. -/
def firstOf (candidates : List (Option Json)) (default : Json) : Json :=
  ((candidates.filterMap id).find? Json.truthy).getD default

/-- A value that is there and counts comes before the others. -/
theorem firstOf_cons (candidate : Option Json) (candidates : List (Option Json)) (default : Json) :
    firstOf (candidate :: candidates) default = (candidate.getD .null).orElse (firstOf candidates default) := by
  cases candidate with
  | none => rfl
  | some v => by_cases hv : v.truthy = true <;> simp [firstOf, Json.orElse, hv]

section Settings

variable (settings : Fields) (env : Environment)

/-- The model that settings and environment prefer. -/
def modelOf : Json :=
  firstOf [definedIn settings "llm" "model", (env.get? modelVariable).map .str] (.str Setup.defaultModel)

/-- The limit on the length of answers that the settings define, whatever it is. -/
def limitOf : Json := (definedIn settings "llm" "max_tokens").getD (.int Setup.defaultMaxTokens)

/-- What the settings say is the name of the variable for the key. -/
def keyNameOf : Json := firstOf [definedIn settings "llm" "api_key_env_var"] (.str keyVariable)

/-- All preferences, given the name of the variable for the key. -/
def Preferences.ofSettings (keyName : String) : Preferences where
  model := modelOf settings env
  temperature := .float Setup.defaultTemperature
  maxTokens := limitOf settings
  apiKey := .ofString? (env.get? keyName)
  apiBase := .null
  promptTimeout := (definedIn settings "execution" "llm_timeout_seconds").getD (.float Setup.defaultPromptTimeout)
  fetchTimeout := (definedIn settings "execution" "http_timeout_seconds").getD (.float Setup.defaultFetchTimeout)
  demoUrl := .str Setup.defaultDemoUrl
  branchMode := (definedIn settings "execution" "branch_mode").getD (.str BranchMode.legacy.name)

end Settings

section Lookups

variable {file : ConfigFile} {env : Environment} {v : Json}

theorem preferredModel_eq_ok_iff : preferredModel levels file env = .ok v ↔
    ∃ settings, file.Gives levels settings ∧ IsSection settings "llm" ∧ modelOf settings env = v := by
  have hmodel (settings : Fields) : modelOf settings env = (((membersOf settings "llm").get? "model").getD .null).orElse
      ((Json.ofString? (env.get? modelVariable)).orElse (.str Setup.defaultModel)) := by
    rw [modelOf, firstOf_cons, firstOf_cons]
    cases env.get? modelVariable <;> rfl
  refine lookUp_eq_ok_iff.trans ?_
  simp only [hmodel, pure_eq_ok_iff]

theorem maxTokens_eq_ok_iff : maxTokens levels file = .ok v ↔
    ∃ settings, file.Gives levels settings ∧ IsSection settings "llm" ∧ limitOf settings = v := by
  refine lookUp_eq_ok_iff.trans ?_
  simp only [limitOf, definedIn, pure_eq_ok_iff]

theorem executionSetting_eq_ok_iff {key : String} {default : Json} : executionSetting levels file key default = .ok v ↔
    ∃ settings, file.Gives levels settings ∧ IsSection settings "execution" ∧
      (definedIn settings "execution" key).getD default = v := by
  refine lookUp_eq_ok_iff.trans ?_
  simp only [definedIn, pure_eq_ok_iff]

theorem apiKey_eq_ok_iff : apiKey levels file env = .ok v ↔
    ∃ settings, file.Gives levels settings ∧ IsSection settings "llm" ∧
      ∃ name, keyNameOf settings = .str name ∧ Json.ofString? (env.get? name) = v := by
  refine lookUp_eq_ok_iff.trans (exists_congr fun settings => and_congr_right' (and_congr_right' ?_))
  have hname : (((membersOf settings "llm").get? "api_key_env_var").getD .null).orElse (.str keyVariable) =
    keyNameOf settings := (firstOf_cons _ [] _).symm
  rw [hname]
  cases keyNameOf settings <;> simp [pure_eq_ok_iff, throw, throwThe, MonadExceptOf.throw]

/-- A file gives only these settings. -/
theorem ConfigFile.Gives.unique {settings others : Fields} (h : file.Gives levels settings)
    (hother : file.Gives levels others) : others = settings :=
  Except.ok.inj ((read_eq_ok_iff.mpr hother).symm.trans (read_eq_ok_iff.mpr h))

/-- Without settings given by the program, file and environment are asked for each in turn. -/
theorem Preferences.read_nil (levels : Option Nat) (file : ConfigFile) (env : Environment) :
    Preferences.read levels file env [] = do
    let model ← preferredModel levels file env
    let limit ← Configuration.maxTokens levels file
    let key ← Configuration.apiKey levels file env
    let promptTimeout ← executionSetting levels file "llm_timeout_seconds" (.float Setup.defaultPromptTimeout)
    let fetchTimeout ← executionSetting levels file "http_timeout_seconds" (.float Setup.defaultFetchTimeout)
    let branchMode ← executionSetting levels file "branch_mode" (.str BranchMode.legacy.name)
    return ⟨model, .float Setup.defaultTemperature, limit, key, .null, promptTimeout, fetchTimeout,
      .str Setup.defaultDemoUrl, branchMode⟩ := rfl

theorem Preferences.read_eq_ok_iff {p : Preferences} : Preferences.read levels file env [] = .ok p ↔
    ∃ settings, file.Gives levels settings ∧ IsSection settings "llm" ∧ IsSection settings "execution" ∧
      ∃ name, keyNameOf settings = .str name ∧ Preferences.ofSettings settings env name = p := by
  rw [Preferences.read_nil]
  simp only [bind_eq_ok_iff, preferredModel_eq_ok_iff, maxTokens_eq_ok_iff, apiKey_eq_ok_iff,
    executionSetting_eq_ok_iff, pure_eq_ok_iff]
  constructor
  · rintro ⟨_, ⟨settings, hgives, hllm, rfl⟩, _, ⟨s₁, h₁, -, rfl⟩, _, ⟨s₂, h₂, -, name, hname, rfl⟩,
      _, ⟨s₃, h₃, hexecution, rfl⟩, _, ⟨s₄, h₄, -, rfl⟩, _, ⟨s₅, h₅, -, rfl⟩, rfl⟩
    -- all of them are asked of the same file
    obtain rfl := hgives.unique h₁
    obtain rfl := hgives.unique h₂
    obtain rfl := hgives.unique h₃
    obtain rfl := hgives.unique h₄
    obtain rfl := hgives.unique h₅
    exact ⟨_, hgives, hllm, hexecution, name, hname, rfl⟩
  · rintro ⟨settings, hgives, hllm, hexecution, name, hname, rfl⟩
    exact ⟨_, ⟨settings, hgives, hllm, rfl⟩, _, ⟨settings, hgives, hllm, rfl⟩,
      _, ⟨settings, hgives, hllm, name, hname, rfl⟩, _, ⟨settings, hgives, hexecution, rfl⟩,
      _, ⟨settings, hgives, hexecution, rfl⟩, _, ⟨settings, hgives, hexecution, rfl⟩, rfl⟩

end Lookups

/-! ## Usable configurations -/

/-- **What comes of every file in every environment**, of any nesting, whose strings are texts. Settings are read exactly
if the file is missing or holds a text in which no integer is too long and which is not nested deeper than the reader
goes; they are the members of the JSON object that it holds, and none otherwise. Single settings and the preferences as a
whole come from there exactly if the sections that they look into are objects or missing and, for the key, if the name of
its variable is a text; whatever the settings do not define has its default. -/
theorem configuration_returns (levels : Option Nat) (file : ConfigFile) (env : Environment)
    (hpaired : file.IsPaired levels) :
    ((∃ settings, file.read levels = .ok settings) ↔ file.IsReadable levels) ∧
    (∀ settings, file.read levels = .ok settings ↔ file.Gives levels settings) ∧
    (∀ v, preferredModel levels file env = .ok v ↔
      ∃ settings, file.Gives levels settings ∧ IsSection settings "llm" ∧ modelOf settings env = v) ∧
    (∀ v, maxTokens levels file = .ok v ↔
      ∃ settings, file.Gives levels settings ∧ IsSection settings "llm" ∧ limitOf settings = v) ∧
    (∀ v, apiKey levels file env = .ok v ↔
      ∃ settings, file.Gives levels settings ∧ IsSection settings "llm" ∧
        ∃ name, keyNameOf settings = .str name ∧ Json.ofString? (env.get? name) = v) ∧
    (∀ p, Preferences.read levels file env [] = .ok p ↔
      ∃ settings, file.Gives levels settings ∧ IsSection settings "llm" ∧ IsSection settings "execution" ∧
        ∃ name, keyNameOf settings = .str name ∧ Preferences.ofSettings settings env name = p) := by
  refine ⟨?_, fun _ => ConfigFile.read_eq_ok_iff, fun _ => preferredModel_eq_ok_iff, fun _ => maxTokens_eq_ok_iff,
    fun _ => apiKey_eq_ok_iff, fun _ => Preferences.read_eq_ok_iff⟩
  simp only [ConfigFile.read_eq_ok_iff]
  exact ConfigFile.gives_iff_isReadable hpaired

/-- The settings of a file that has only a model. -/
def tuning : Fields := [("llm", .obj [("model", .str "large")])]

/-- This file, with a mark at its start. -/
def tuned : ConfigFile := .content ⟨(byteOrderMark ++ bytesOf "\x7b\"llm\": \x7b\"model\": \"large\"\x7d\x7d").toArray⟩

theorem gives_tuned : tuned.Gives none tuning := by
  have hparse : Json.parse "\x7b\"llm\": \x7b\"model\": \"large\"\x7d\x7d".toList = .ok (.obj tuning) :=
    Json.parse_renderAt Json.isSeparated_spaced (v := .obj tuning) (by decide) (by decide)
  refine .members ?_ hparse
  rw [toList_bytes]
  exact .marked _

/-- The model of the file is preferred to the one of the environment; the limit has its default, and the key is that of the
environment. -/
theorem configuration_returns_tuned :
    tuned.IsPaired none ∧ tuned.read none = .ok tuning ∧
      preferredModel none tuned [(modelVariable, "small")] = .ok (.str "large") ∧
      maxTokens none tuned = .ok (.int 500) ∧ apiKey none tuned [(keyVariable, "secret")] = .ok (.str "secret") ∧
      ∃ p, Preferences.read none tuned [(keyVariable, "secret")] [] = .ok p ∧ p.model = .str "large" ∧
        p.apiKey = .str "secret" ∧ p.branchMode = .str "legacy" := by
  have hllm : IsSection tuning "llm" := fun v hv => by cases hv; rfl
  have hexecution : IsSection tuning "execution" := nofun
  obtain ⟨-, hread, hmodel, hlimit, -⟩ :=
    configuration_returns none tuned [(modelVariable, "small")] gives_tuned.isPaired
  obtain ⟨-, -, -, -, hkey, hall⟩ :=
    configuration_returns none tuned [(keyVariable, "secret")] gives_tuned.isPaired
  exact ⟨gives_tuned.isPaired, (hread _).mpr gives_tuned, (hmodel _).mpr ⟨_, gives_tuned, hllm, rfl⟩,
    (hlimit _).mpr ⟨_, gives_tuned, hllm, rfl⟩, (hkey _).mpr ⟨_, gives_tuned, hllm, _, rfl, rfl⟩, _,
    (hall _).mpr ⟨_, gives_tuned, hllm, hexecution, _, rfl, rfl⟩, rfl, rfl, rfl⟩

/-- A file whose only byte stands in no text. -/
def garbled : ConfigFile := .content ⟨#[0xFF]⟩

/-- A file in which a section is a number. -/
def numbered : ConfigFile := .content "\x7b\"llm\": 5\x7d".toUTF8

theorem gives_numbered : numbered.Gives none [("llm", .int 5)] := by
  have hparse : Json.parse "\x7b\"llm\": 5\x7d".toList = .ok (.obj [("llm", .int 5)]) :=
    Json.parse_renderAt Json.isSeparated_spaced (v := .obj [("llm", .int 5)]) (by decide) (by decide)
  refine .members ?_ hparse
  rw [toList_bytes]
  exact .plain (by decide)

/-- The first file gives no settings at all. The other one gives settings, but no model, no limit, no key and no
preferences. -/
theorem configuration_fails :
    (∀ settings, garbled.read none ≠ .ok settings) ∧ numbered.read none = .ok [("llm", .int 5)] ∧
      (∀ v, preferredModel none numbered [] ≠ .ok v) ∧ (∀ v, maxTokens none numbered ≠ .ok v) ∧
      (∀ v, apiKey none numbered [] ≠ .ok v) ∧ ∀ p, Preferences.read none numbered [] [] ≠ .ok p := by
  have hgarbled : ∀ settings, garbled.read none ≠ .ok settings := by
    intro settings h
    have hgives := ConfigFile.read_eq_ok_iff.mp h
    obtain ⟨text, hholds, -⟩ := (ConfigFile.gives_iff_isReadable hgives.isPaired).mp ⟨settings, hgives⟩ _ rfl
    rw [toList_bytes, ← decodeText?_dropMark_iff] at hholds
    exact Option.some_ne_none text (hholds.symm.trans (by decide))
  have hsection : ∀ settings, numbered.Gives none settings → ¬IsSection settings "llm" := by
    intro settings hgives hsection
    obtain rfl := gives_numbered.unique hgives
    exact nomatch hsection (.int 5) rfl
  refine ⟨hgarbled, ConfigFile.read_eq_ok_iff.mpr gives_numbered,
    fun v h => ?_, fun v h => ?_, fun v h => ?_, fun p h => ?_⟩
  · obtain ⟨settings, hgives, hllm, -⟩ := preferredModel_eq_ok_iff.mp h
    exact hsection settings hgives hllm
  · obtain ⟨settings, hgives, hllm, -⟩ := maxTokens_eq_ok_iff.mp h
    exact hsection settings hgives hllm
  · obtain ⟨settings, hgives, hllm, -⟩ := apiKey_eq_ok_iff.mp h
    exact hsection settings hgives hllm
  · obtain ⟨settings, hgives, hllm, -⟩ := Preferences.read_eq_ok_iff.mp h
    exact hsection settings hgives hllm

end WorkflowLab.Configuration
