import AsmAtlas.Workspace.Config
import Mathlib

/-!
# Two layers of settings

The settings of a root are those of the user with those of the workspace put over them. The layers
are put together entry by entry before any value is looked at. So an entry that says nothing, of an
unknown name or with a value of another type, is as good as none where it hides nothing. Where it
hides an entry of the user that does say something, the setting has its default, as if both entries
were missing.
-/

namespace AsmAtlas

/-- What kind of value a setting has. -/
inductive SettingKind where
  | switch
  | length
  | glob
  | labels
deriving DecidableEq

/-- Whether a value is one for settings of a kind. A boolean is no length. -/
def SettingKind.admits : SettingKind → Json → Bool
  | switch, .bool _ => true
  | length, .int _ => true
  | glob, .string _ => true
  | labels, .list _ => true
  | _, _ => false

/-- The settings that there are. -/
def settingKinds : List (String × SettingKind) :=
  [("include_files", .glob), ("exclude_files", .glob), ("labels_excludes", .labels),
    ("labels_with_colons", .switch), ("labels_without_colons", .switch),
    ("ca65_cheap_local_label_nesting", .switch), ("workspace_symbols_required_length", .length),
    ("completions_required_length", .length), ("skip_gitignored", .switch),
    ("enable_outline_view", .switch), ("enable_find_all_references", .switch),
    ("enable_goto_definition", .switch), ("enable_completions", .switch),
    ("enable_workspace_symbols", .switch), ("enable_rename", .switch),
    ("enable_code_lenses", .switch), ("enable_hovering", .switch)]

namespace Settings

variable {s other user workspace : Settings} {key : LooseText}

/-- The entries in a settings file; none if there is no file. -/
def ofFile (file : Option ByteArray) : Settings :=
  (file.map ofBytes).getD []

/-- The entries in the settings file of a root. -/
def ownOf (t : FileTree) (root : Path) : Settings :=
  ofFile (t.read? (root.child Config.fileName))

/-- The entry of a name, be it that of a setting or not. -/
def valueAt? (s : Settings) (key : LooseText) : Option Json :=
  s.reverse.lookup key

/-- Whether an entry says something: it is named like a setting and has a value for it. -/
def Tells (key : LooseText) (value : Json) : Prop :=
  ∃ setting ∈ settingKinds, LooseText.ofText setting.1.toList = key ∧ setting.2.admits value

/-- Whether settings say nothing under a name: they have no entry there, or one that says
    nothing. -/
def IsSilent (s : Settings) (key : LooseText) : Prop :=
  ∀ value ∈ s.valueAt? key, ¬Tells key value

/-- Whether the second settings are the first ones without the entry of a name. -/
def IsWithout (key : LooseText) (s other : Settings) : Prop :=
  ∀ name, other.valueAt? name = if name = key then none else s.valueAt? name

/-- Whether settings have the same entries under all names but one. -/
def AgreeBut (key : LooseText) (s other : Settings) : Prop :=
  ∀ name, name ≠ key → other.valueAt? name = s.valueAt? name

/-- What settings say about one of the settings that there are. -/
def told? (s : Settings) (setting : String × SettingKind) : Option Json :=
  (s.get? setting.1).filter setting.2.admits

theorem valueAt?_override (user workspace : Settings) (key : LooseText) :
    (user.override workspace).valueAt? key = (workspace.valueAt? key).or (user.valueAt? key) := by
  rw [valueAt?, override, List.reverse_append, List.lookup_append]
  rfl

theorem told?_eq (s : Settings) (setting : String × SettingKind) :
    s.told? setting = (s.valueAt? (.ofText setting.1.toList)).filter setting.2.admits :=
  rfl

theorem switch_eq (s : Settings) (name : String) (default : Bool) :
    s.switch name default =
      match s.told? (name, .switch) with
      | some (.bool b) => b
      | _ => default := by
  unfold switch told?
  rcases s.get? name with _ | (_ | _ | _ | _ | _ | _ | _) <;> rfl

theorem length_eq (s : Settings) (name : String) (default : Nat) :
    s.length name default =
      match s.told? (name, .length) with
      | some (.int n) => n.toNat
      | _ => default := by
  unfold length told?
  rcases s.get? name with _ | (_ | _ | _ | _ | _ | _ | _) <;> rfl

theorem glob_eq (s : Settings) (name : String) (default : LooseText) :
    s.glob name default =
      match s.told? (name, .glob) with
      | some (.string t) => t.trim
      | _ => default := by
  unfold glob told?
  rcases s.get? name with _ | (_ | _ | _ | _ | _ | _ | _) <;> rfl

theorem labels_eq (s : Settings) (name : String) :
    s.labels name =
      match s.told? (name, .labels) with
      | some (.list items) => items.foldl addLabel defaultExcludes
      | _ => defaultExcludes := by
  unfold labels told?
  rcases s.get? name with _ | (_ | _ | _ | _ | _ | _ | _) <;> rfl

/-- Settings that are silent under the name of a setting say nothing about it. -/
theorem IsSilent.told?_eq_none (silent : s.IsSilent key) {setting : String × SettingKind}
    (isSetting : setting ∈ settingKinds) (named : LooseText.ofText setting.1.toList = key) :
    s.told? setting = none := by
  rw [told?_eq, named, Option.filter_eq_none_iff]
  intro value found admitted
  exact silent value found ⟨setting, isSetting, named, admitted⟩

/-- Settings that differ only under a name where both are silent say the same. -/
theorem AgreeBut.told?_eq (agree : AgreeBut key s other) (silent : s.IsSilent key)
    (silentOther : other.IsSilent key) :
    ∀ setting ∈ settingKinds, other.told? setting = s.told? setting := by
  intro setting isSetting
  by_cases named : LooseText.ofText setting.1.toList = key
  · rw [silent.told?_eq_none isSetting named, silentOther.told?_eq_none isSetting named]
  · rw [Settings.told?_eq, Settings.told?_eq, agree _ named]

theorem AgreeBut.refl (key : LooseText) (s : Settings) : AgreeBut key s s :=
  fun _ _ => rfl

theorem AgreeBut.override {user' workspace' : Settings} (agreeUser : AgreeBut key user user')
    (agree : AgreeBut key workspace workspace') :
    AgreeBut key (user.override workspace) (user'.override workspace') := by
  intro name differs
  rw [valueAt?_override, valueAt?_override, agreeUser name differs, agree name differs]

theorem isSilent_of_valueAt?_eq_none (none : s.valueAt? key = none) : s.IsSilent key := by
  intro value found
  simp [none] at found

/-- Under a name where the workspace has an entry, the settings of the user do not matter. -/
theorem IsSilent.override_of_isSome (silent : workspace.IsSilent key)
    (present : (workspace.valueAt? key).isSome) : (user.override workspace).IsSilent key := by
  obtain ⟨value, found⟩ := Option.isSome_iff_exists.1 present
  intro other isOther
  rw [valueAt?_override, found, Option.some_or] at isOther
  exact silent other (found.trans isOther)

theorem IsSilent.override (silentUser : user.IsSilent key) (silent : workspace.IsSilent key) :
    (user.override workspace).IsSilent key := by
  intro value found
  rw [valueAt?_override] at found
  cases own : workspace.valueAt? key with
  | some first =>
    rw [own, Option.some_or] at found
    exact silent value (own.trans found)
  | none =>
    rw [own, Option.none_or] at found
    exact silentUser value found

theorem IsWithout.agreeBut (without : IsWithout key s other) : AgreeBut key s other := by
  intro name differs
  rw [without, if_neg differs]

theorem IsWithout.isSilent (without : IsWithout key s other) : other.IsSilent key :=
  isSilent_of_valueAt?_eq_none (by rw [without, if_pos rfl])

/-- What a list of excluded labels is like: it begins with the one that is always excluded, and has
    no repetitions and no empty names. -/
structure IsLabelList (labels : List Text) : Prop where
  head : labels.head? = some "include".toList
  nodup : labels.Nodup
  nonempty : [] ∉ labels

theorem isLabelList_default : IsLabelList defaultExcludes :=
  ⟨rfl, by decide, by decide⟩

/-- One more item leaves the list as it is, or adds a name to it. -/
theorem IsLabelList.addLabel {labels : List Text} (valid : IsLabelList labels) (item : Json) :
    IsLabelList (addLabel labels item) := by
  unfold Settings.addLabel
  split
  · split
    · next name _ =>
      split_ifs with known
      · exact valid
      · simp only [Bool.or_eq_true, List.isEmpty_iff, List.contains_iff_mem, not_or] at known
        obtain ⟨visible, new⟩ := known
        refine ⟨?_, ?_, ?_⟩
        · rw [List.head?_append, valid.head]
          rfl
        · rw [← List.concat_eq_append]
          exact valid.nodup.concat new
        · intro isEmpty
          rcases List.mem_append.1 isEmpty with before | last
          · exact valid.nonempty before
          · exact visible (List.mem_singleton.1 last).symm
    · exact valid
  · exact valid

theorem IsLabelList.foldl {labels : List Text} (valid : IsLabelList labels) (items : List Json) :
    IsLabelList (items.foldl Settings.addLabel labels) := by
  induction items generalizing labels with
  | nil => exact valid
  | cons item items ih => exact ih (valid.addLabel item)

/-- Whatever the settings say, the list of excluded labels is a proper one. -/
theorem isLabelList_labels (s : Settings) (name : String) : IsLabelList (s.labels name) := by
  unfold labels
  split
  · exact isLabelList_default.foldl _
  · exact isLabelList_default

/-- The number that settings have for a length. -/
def number? (s : Settings) (name : String) : Option Int :=
  (s.told? (name, .length)).bind fun value =>
    match value with
    | .int n => some n
    | _ => none

/-- A length is the number in the settings, or the default, but never a negative one. -/
theorem length_eq_max (s : Settings) (name : String) (default : Nat) :
    (s.length name default : Int) = max 0 ((s.number? name).getD default) := by
  rw [length_eq, number?]
  rcases s.told? (name, .length) with _ | (_ | _ | n | _ | _ | _ | _)
  case some.int => simp [Int.max_comm]
  all_goals simp

end Settings

namespace Config

open Settings

/-- The settings of a root are what its entries say about them. -/
theorem ofSettings_congr (root : Path) {s other : Settings}
    (alike : ∀ setting ∈ settingKinds, s.told? setting = other.told? setting) :
    ofSettings root s = ofSettings root other := by
  simp only [settingKinds, List.forall_mem_cons] at alike
  simp only [ofSettings, switch_eq, length_eq, glob_eq, labels_eq, alike]

theorem load_eq (t : FileTree) (user : Option ByteArray) (root : Path) :
    load t user root = ofSettings root ((ofFile user).override (ownOf t root)) :=
  rfl

/-- A root has the same settings if its entries differ only where they say nothing. -/
theorem load_congr {t t' : FileTree} {user user' : Option ByteArray} {root : Path}
    {key : LooseText} (agreeUser : AgreeBut key (ofFile user) (ofFile user'))
    (agree : AgreeBut key (ownOf t root) (ownOf t' root))
    (silent : ((ofFile user).override (ownOf t root)).IsSilent key)
    (silent' : ((ofFile user').override (ownOf t' root)).IsSilent key) :
    load t' user' root = load t user root := by
  rw [load_eq, load_eq]
  exact ofSettings_congr root ((agreeUser.override agree).told?_eq silent silent')

/-- Entries of the user that say nothing can be left out. -/
theorem load_without_user {t : FileTree} {user user' : Option ByteArray} {root : Path}
    {key : LooseText} (silent : (ofFile user).IsSilent key)
    (without : IsWithout key (ofFile user) (ofFile user')) :
    load t user' root = load t user root := by
  cases own : (ownOf t root).valueAt? key with
  | none =>
    have ownSilent : (ownOf t root).IsSilent key := isSilent_of_valueAt?_eq_none own
    exact load_congr without.agreeBut (.refl key _) (silent.override ownSilent)
      (without.isSilent.override ownSilent)
  | some value =>
    -- The workspace decides what stands under the name, so all entries are the same.
    have same : ∀ name, ((ofFile user').override (ownOf t root)).valueAt? name =
        ((ofFile user).override (ownOf t root)).valueAt? name := by
      intro name
      by_cases named : name = key
      · rw [named, valueAt?_override, valueAt?_override, own, Option.some_or, Option.some_or]
      · exact (without.agreeBut.override (.refl key _)) name named
    rw [load_eq, load_eq]
    apply ofSettings_congr
    intro setting _
    rw [told?_eq, told?_eq, same]

/-- Entries that say nothing count as absent. One of the user can be left out, and so can one of the
    workspace, unless the user has an entry of that name that does say something: this one is
    hidden, and the setting has its default, as if both were left out. Whatever the files say, no
    length is negative, and the excluded labels are a proper list. -/
theorem silent_entries_count_as_absent (t t' : FileTree) (user user' : Option ByteArray)
    (root : Path) (key : LooseText) :
    ((ofFile user).IsSilent key → IsWithout key (ofFile user) (ofFile user') →
        load t user' root = load t user root) ∧
      ((ofFile user).IsSilent key → (ownOf t root).IsSilent key →
        IsWithout key (ownOf t root) (ownOf t' root) → load t' user root = load t user root) ∧
      (((ownOf t root).valueAt? key).isSome → (ownOf t root).IsSilent key →
        IsWithout key (ofFile user) (ofFile user') →
          IsWithout key (ownOf t root) (ownOf t' root) →
            load t' user' root = load t user root) ∧
      (((load t user root).symbolsLength : Int) =
          max 0 ((((ofFile user).override (ownOf t root)).number?
            "workspace_symbols_required_length").getD 2) ∧
        ((load t user root).completionsLength : Int) =
          max 0 ((((ofFile user).override (ownOf t root)).number?
            "completions_required_length").getD 1)) ∧
      IsLabelList (load t user root).labelsExcludes := by
  refine ⟨load_without_user, ?_, ?_, ⟨?_, ?_⟩, ?_⟩
  · intro silentUser silent without
    exact load_congr (.refl key _) without.agreeBut (silentUser.override silent)
      (silentUser.override without.isSilent)
  · intro present silent withoutUser without
    exact load_congr withoutUser.agreeBut without.agreeBut (silent.override_of_isSome present)
      (withoutUser.isSilent.override without.isSilent)
  · rw [load_eq]
    exact length_eq_max _ _ _
  · rw [load_eq]
    exact length_eq_max _ _ _
  · rw [load_eq]
    exact isLabelList_labels _ _

/-- The name of a switch. -/
def renameKey : LooseText :=
  .ofText "enable_rename".toList

/-- A folder whose settings file has the given text. -/
def settled (text : String) : FileTree :=
  .folder [(fileName, .file text.toUTF8)]

/-- Settings of the user in which the switch is a number. -/
def numberUser : Option ByteArray :=
  some "\x7b\"enable_rename\": 0\x7d".toUTF8

/-- Settings of the user in which the switch is off. -/
def offUser : Option ByteArray :=
  some "\x7b\"enable_rename\": false\x7d".toUTF8

/-- Settings of a workspace in which the switch is a word. -/
def wordTree : FileTree :=
  settled "\x7b\"enable_rename\": \"no\"\x7d"

theorem ofFile_numberUser : ofFile numberUser = [(renameKey, .int 0)] := by
  cbv

theorem ofFile_offUser : ofFile offUser = [(renameKey, .bool false)] := by
  cbv

theorem ownOf_wordTree :
    ownOf wordTree ⟨[]⟩ = [(renameKey, .string (.ofText "no".toList))] := by
  cbv

theorem isWithout_singleton (key : LooseText) (value : Json) : IsWithout key [(key, value)] [] := by
  intro name
  by_cases same : name = key
  · simp [same, valueAt?]
  · have other : (name == key) = false := beq_eq_false_iff_ne.2 same
    simp [same, valueAt?, List.lookup, other]

/-- What is no boolean says nothing about the switch. -/
theorem isSilent_renameKey {value : Json} (wrong : SettingKind.switch.admits value = false) :
    IsSilent [(renameKey, value)] renameKey := by
  have kinds : ∀ setting ∈ settingKinds, LooseText.ofText setting.1.toList = renameKey →
      setting.2 = .switch := by
    decide +kernel
  rintro other isOther ⟨setting, isSetting, named, admitted⟩
  obtain rfl : value = other := by simpa [valueAt?] using isOther
  rw [kinds setting isSetting named, wrong] at admitted
  exact absurd admitted (by simp)

/-- The number and the word can be left out each, and the word together with what it hides. -/
theorem wordTree_counts_as_absent :
    ((ofFile numberUser).IsSilent renameKey ∧ (ownOf wordTree ⟨[]⟩).IsSilent renameKey ∧
        ((ownOf wordTree ⟨[]⟩).valueAt? renameKey).isSome) ∧
      load wordTree none ⟨[]⟩ = load wordTree numberUser ⟨[]⟩ ∧
      load (.folder []) numberUser ⟨[]⟩ = load wordTree numberUser ⟨[]⟩ ∧
      load (.folder []) none ⟨[]⟩ = load wordTree offUser ⟨[]⟩ := by
  have silentUser : (ofFile numberUser).IsSilent renameKey := by
    rw [ofFile_numberUser]
    exact isSilent_renameKey rfl
  have silent : (ownOf wordTree ⟨[]⟩).IsSilent renameKey := by
    rw [ownOf_wordTree]
    exact isSilent_renameKey rfl
  have present : ((ownOf wordTree ⟨[]⟩).valueAt? renameKey).isSome := by
    rw [ownOf_wordTree]
    simp [valueAt?]
  have withoutNumber : IsWithout renameKey (ofFile numberUser) (ofFile none) := by
    rw [ofFile_numberUser]
    exact isWithout_singleton _ _
  have withoutOff : IsWithout renameKey (ofFile offUser) (ofFile none) := by
    rw [ofFile_offUser]
    exact isWithout_singleton _ _
  have without : IsWithout renameKey (ownOf wordTree ⟨[]⟩) (ownOf (.folder []) ⟨[]⟩) := by
    rw [ownOf_wordTree]
    exact isWithout_singleton _ _
  obtain ⟨user, own, _⟩ :=
    silent_entries_count_as_absent wordTree (.folder []) numberUser none ⟨[]⟩ renameKey
  obtain ⟨_, _, both, _⟩ :=
    silent_entries_count_as_absent wordTree (.folder []) offUser none ⟨[]⟩ renameKey
  exact ⟨⟨silentUser, silent, present⟩, user silentUser withoutNumber,
    own silentUser silent without, both present silent withoutOff without⟩

/-- Where the word hides that the user turned the switch off, leaving the word out turns it off. -/
theorem hidden_switch_returns :
    (ownOf wordTree ⟨[]⟩).IsSilent renameKey ∧
      IsWithout renameKey (ownOf wordTree ⟨[]⟩) (ownOf (.folder []) ⟨[]⟩) ∧
      (load wordTree offUser ⟨[]⟩).rename = true ∧
      (load (.folder []) offUser ⟨[]⟩).rename = false := by
  refine ⟨?_, ?_, ?_, ?_⟩
  · rw [ownOf_wordTree]
    exact isSilent_renameKey rfl
  · rw [ownOf_wordTree]
    exact isWithout_singleton _ _
  · rw [load_eq, ofFile_offUser, ownOf_wordTree]
    rfl
  · rw [load_eq, ofFile_offUser]
    rfl

end Config

end AsmAtlas
