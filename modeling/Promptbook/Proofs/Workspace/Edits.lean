import Mathlib.Data.List.Induction
import Promptbook.Proofs.Files.Joining
import Promptbook.Workspace.Config

/-! What is in force behind edits of a configuration.

A configuration starts from a root and is edited by texts and by directories that are added. A text
that is refused is as good as none (`after_accepted`). Every key of a configuration is decided by the
last text that gave it, and by nothing before (`LastGiven`); the edits behind that text have left it
alone, but for directories, which they may have added to. Both are one induction over the edits
(`after_induction`), and `edited_laws` puts together what it says of each key. -/
namespace Promptbook.Config

/-! ### Edits -/

/-- What is done to a configuration. -/
inductive Edit where
  | apply (text : String)
  | addDir (dir : Path)

namespace Edit

/-- Whether an edit is done: only a text can be refused. -/
def accepted : Edit → Bool
  | .apply text => (Overrides.ofText? text).isSome
  | .addDir _ => true

/-- What an edit gives for a key, if it is done and gives anything. -/
def gives? (key : Overrides → Option α) : Edit → Option α
  | .apply text => (Overrides.ofText? text).bind key
  | .addDir _ => none

def dir? : Edit → Option Path
  | .apply _ => none
  | .addDir dir => some dir

end Edit

/-- Does an edit, and tells whether it was accepted. -/
def edit (config : Config) : Edit → Except LoadError Unit × Config
  | .apply text =>
    match config.withText? text with
    | some config => (.ok (), config)
    | none => (.error (.refused config.configFile), config)
  | .addDir dir => (.ok (), config.withTemplateDir dir)

/-- The configuration behind these edits. -/
def after (config : Config) (edits : List Edit) : Config :=
  edits.foldl (fun config e => (config.edit e).2) config

/-- The last of these edits that gives a key, with what it gives and with the edits behind it: all
of them if there is none that does. -/
inductive LastGiven (key : Overrides → Option α) (edits : List Edit) :
    Option α → List Edit → Prop where
  | never (h : ∀ e ∈ edits, e.gives? key = none) : LastGiven key edits none edits
  | given {before behind : List Edit} {text : String} {overrides : Overrides} {value : α}
      (hsplit : edits = before ++ .apply text :: behind)
      (htext : Overrides.ofText? text = some overrides) (hvalue : key overrides = some value)
      (h : ∀ e ∈ behind, e.gives? key = none) : LastGiven key edits (some value) behind

section
variable {config : Config} {text : String} {overrides : Overrides}

theorem edit_apply (h : Overrides.ofText? text = some overrides) :
    config.edit (.apply text) = (.ok (), config.override overrides) := by
  simp [edit, withText?, h]

theorem edit_refused (h : Overrides.ofText? text = none) :
    config.edit (.apply text) = (.error (.refused config.configFile), config) := by
  simp [edit, withText?, h]

theorem after_concat (config : Config) (edits : List Edit) (e : Edit) :
    config.after (edits ++ [e]) = ((config.after edits).edit e).2 := by
  simp [after]

/-- What overrides and further directories leave alone is left alone by every edit. -/
theorem edit_keeps {field : Config → β} {e : Edit}
    (hover : ∀ text overrides, e = .apply text → Overrides.ofText? text = some overrides →
      field (config.override overrides) = field config)
    (hdir : ∀ dir, field (config.withTemplateDir dir) = field config) :
    field (config.edit e).2 = field config := by
  cases e with
  | apply text =>
    cases h : Overrides.ofText? text with
    | none => rw [edit_refused h]
    | some overrides => rw [edit_apply h, hover text overrides rfl h]
  | addDir dir => exact hdir dir

/-- What nothing changes stays through all edits. -/
theorem after_keeps {field : Config → β}
    (hover : ∀ config overrides, field (override config overrides) = field config)
    (hdir : ∀ config dir, field (withTemplateDir config dir) = field config)
    (config : Config) (edits : List Edit) : field (config.after edits) = field config := by
  induction edits using List.reverseRecOn with
  | nil => rfl
  | append_singleton edits e ih =>
    rw [after_concat, edit_keeps (fun _ overrides _ _ => hover _ overrides) (hdir _), ih]

theorem root_after (config : Config) (edits : List Edit) : (config.after edits).root = config.root :=
  after_keeps (fun _ _ => rfl) (fun _ _ => rfl) config edits

theorem configFile_after (config : Config) (edits : List Edit) :
    (config.after edits).configFile = config.configFile :=
  after_keeps (fun _ _ => rfl) (fun _ _ => rfl) config edits

/-! ### Refused texts -/

theorem edit_of_not_accepted {e : Edit} (h : e.accepted = false) :
    config.edit e = (.error (.refused config.configFile), config) := by
  cases e with
  | apply text => exact edit_refused (by simpa [Edit.accepted] using h)
  | addDir dir => cases h

theorem edit_of_accepted {e : Edit} (h : e.accepted = true) : (config.edit e).1 = .ok () := by
  cases e with
  | apply text =>
    obtain ⟨overrides, hoverrides⟩ := Option.isSome_iff_exists.mp h
    rw [edit_apply hoverrides]
  | addDir dir => rfl

/-- **Refused texts leave no trace.** -/
theorem after_accepted (config : Config) (edits : List Edit) :
    config.after (edits.filter Edit.accepted) = config.after edits := by
  induction edits using List.reverseRecOn with
  | nil => rfl
  | append_singleton edits e ih =>
    rw [List.filter_append, after_concat, ← ih]
    cases h : e.accepted with
    | true => rw [List.filter_cons_of_pos h, List.filter_nil, after_concat]
    | false =>
      rw [List.filter_cons_of_neg (by simp [h]), List.filter_nil, List.append_nil,
        edit_of_not_accepted h]

end

/-! ### What was given last -/

section
variable {key : Overrides → Option α} {edits behind : List Edit} {value : Option α}

/-- An edit that does not give the key stands behind the last that did. -/
theorem LastGiven.concat_of_none (h : LastGiven key edits value behind) {e : Edit}
    (he : e.gives? key = none) : LastGiven key (edits ++ [e]) value (behind ++ [e]) := by
  have hall {edits : List Edit} (h : ∀ e ∈ edits, e.gives? key = none) :
      ∀ other ∈ edits ++ [e], other.gives? key = none := by
    intro other hother
    rcases List.mem_append.mp hother with hother | hother
    · exact h other hother
    · exact List.mem_singleton.mp hother ▸ he
  cases h with
  | never h => exact .never (hall h)
  | given hsplit htext hvalue h =>
    exact .given (by rw [hsplit, List.append_assoc, List.cons_append]) htext hvalue (hall h)

theorem LastGiven.concat_apply {text : String} {overrides : Overrides} {value : α}
    (htext : Overrides.ofText? text = some overrides) (hvalue : key overrides = some value) :
    LastGiven key (edits ++ [.apply text]) (some value) [] :=
  .given rfl htext hvalue (by simp)

/-- **The induction over edits**: what holds at the start, is made to hold by a text that gives the
key, and is kept by all other edits, holds of what was given last. -/
theorem after_induction {motive : Option α → List Edit → Config → Prop} (start : Config)
    (hstart : motive none [] start)
    (hgiven : ∀ (config : Config) text overrides value, config.root = start.root →
      Overrides.ofText? text = some overrides → key overrides = some value →
      motive (some value) [] (config.override overrides))
    (hkeeps : ∀ value behind (config : Config) e, config.root = start.root → e.gives? key = none →
      motive value behind config → motive value (behind ++ [e]) (config.edit e).2)
    (edits : List Edit) :
    ∃ value behind, LastGiven key edits value behind ∧ motive value behind (start.after edits) := by
  induction edits using List.reverseRecOn with
  | nil => exact ⟨none, [], .never (by simp), hstart⟩
  | append_singleton edits e ih =>
    obtain ⟨value, behind, hlast, hmotive⟩ := ih
    have hroot := root_after start edits
    rw [after_concat]
    cases he : e.gives? key with
    | none =>
      exact ⟨value, behind ++ [e], hlast.concat_of_none he, hkeeps _ _ _ _ hroot he hmotive⟩
    | some given =>
      cases e with
      | addDir dir => cases he
      | apply text =>
        obtain ⟨overrides, htext, hvalue⟩ := Option.bind_eq_some_iff.mp he
        rw [edit_apply htext]
        exact ⟨some given, [], .concat_apply htext hvalue, hgiven _ _ _ _ hroot htext hvalue⟩

end

/-! ### Keys -/

/-- The configuration of a root directory behind these edits. -/
def edited (root : Path) (edits : List Edit) : Config := (ofRoot root).after edits

/-- A field that is read off a key, and that nothing else has to do with. -/
structure Decides (key : Overrides → Option α) (read : Option α → β) (field : Config → β) :
    Prop where
  start : ∀ root, field (ofRoot root) = read none
  given : ∀ config overrides value, key overrides = some value →
    field (override config overrides) = read (some value)
  kept : ∀ config overrides, key overrides = none →
    field (override config overrides) = field config
  dir : ∀ config dir, field (withTemplateDir config dir) = field config

theorem decides_pattern : Decides Overrides.pattern (·.getD "*.md") Config.pattern where
  start _ := rfl
  given _ _ _ h := by simp [override, h]
  kept _ _ h := by simp [override, h]
  dir _ _ := rfl

theorem decides_requireName : Decides Overrides.requireName (·.getD true) Config.requireName where
  start _ := rfl
  given _ _ _ h := by simp [override, h]
  kept _ _ h := by simp [override, h]
  dir _ _ := rfl

theorem decides_merge : Decides Overrides.merge (·.getD .accumulate) Config.merge where
  start _ := rfl
  given _ _ _ h := by simp [override, h]
  kept _ _ h := by simp [override, h]
  dir _ _ := rfl

theorem decides_defaultModel : Decides Overrides.defaultModel id Config.defaultModel where
  start _ := rfl
  given _ _ _ h := by simp [override, h]
  kept _ _ h := by simp [override, h]
  dir _ _ := rfl

/-- **A key that decides a field** is in force as it was given last. -/
theorem Decides.edited {key : Overrides → Option α} {read : Option α → β} {field : Config → β}
    (h : Decides key read field) (root : Path) (edits : List Edit) :
    ∃ value behind, LastGiven key edits value behind ∧
      field (Config.edited root edits) = read value := by
  refine after_induction (motive := fun value _ config => field config = read value) _
    (h.start root) (fun config _ overrides value _ _ => h.given config overrides value) ?_ edits
  intro value behind config e _ he hfield
  rw [← hfield]
  refine edit_keeps (fun text overrides hedit htext => h.kept config overrides ?_) (h.dir config)
  rw [hedit, Edit.gives?, htext] at he
  exact he

/-- **The directories** are those that were given last, and those added since. -/
theorem templateDirs_edited (root : Path) (edits : List Edit) :
    ∃ value behind, LastGiven Overrides.templateDirs edits value behind ∧
      (edited root edits).templateDirs =
        (value.getD [⟨"prompts"⟩] ++ behind.filterMap Edit.dir?).map root.join := by
  refine after_induction (motive := fun (value : Option (List Path)) behind config =>
    config.templateDirs = (value.getD [⟨"prompts"⟩] ++ behind.filterMap Edit.dir?).map root.join)
    (ofRoot root) rfl ?_ ?_ edits
  · intro config text overrides dirs hroot _ hdirs
    have hresolve : config.resolve = root.join := by
      funext dir
      rw [resolve, hroot]
      rfl
    simp [override, hdirs, hresolve]
  · intro value behind config e hroot he hfield
    cases e with
    | apply text =>
      have hkeeps : (config.edit (.apply text)).2.templateDirs = config.templateDirs := by
        cases htext : Overrides.ofText? text with
        | none => rw [edit_refused htext]
        | some overrides =>
          rw [Edit.gives?, htext] at he
          have hnone : overrides.templateDirs = none := he
          simp [edit_apply htext, override, hnone]
      simp [hkeeps, hfield, Edit.dir?]
    | addDir dir =>
      have hadded : (config.edit (.addDir dir)).2.templateDirs =
          config.templateDirs ++ [root.join dir] := by
        rw [edit, withTemplateDir, resolve, hroot]
        rfl
      simp [hadded, hfield, Edit.dir?]

/-- A directory is seen from the root: an absolute one is itself, and any other is put behind it. -/
theorem resolve_laws (config : Config) (dir : Path) :
    (dir.isAbsolute = true → config.resolve dir = dir) ∧
    (dir.isAbsolute = false →
      (∃ separator ∈ ["", "/"],
        (config.resolve dir).text = config.root.text ++ separator ++ dir.text) ∧
      (config.resolve dir).components = config.root.components ++
        if config.root.text = "" then dir.components else dir.components.filter (· ≠ .here)) := by
  refine ⟨Path.join_of_absolute, fun h => ⟨?_, ?_⟩⟩
  · rw [resolve, Path.join, if_neg (by simp [h])]
    split
    · exact ⟨"", by simp, by simp⟩
    · exact ⟨"/", by simp, rfl⟩
  · rw [resolve]
    split
    · next hroot =>
      have hnone : config.root.components = [] := by
        rw [Path.components_eq, hroot]
        rfl
      rw [Path.join_of_empty hroot, hnone, List.nil_append]
    · next hroot => exact Path.components_join hroot h

/-- **What is in force behind edits.** The root and the file stay. A refused text says so, and
changes nothing, at once or later. Every key is as the last text gave it that gave it, or as it was at
the start; to the directories come those that were added behind that text, all as seen from the
root. -/
theorem edited_laws (root : Path) (edits : List Edit) :
    ((edited root edits).root = root ∧
      (edited root edits).configFile = (root.join ⟨".lmp"⟩).join ⟨"config.toml"⟩) ∧
    (∀ e, (e.accepted = true → ((edited root edits).edit e).1 = .ok ()) ∧
      (e.accepted = false → (edited root edits).edit e =
        (.error (.refused (edited root edits).configFile), edited root edits))) ∧
    edited root (edits.filter Edit.accepted) = edited root edits ∧
    (∃ value behind, LastGiven Overrides.pattern edits value behind ∧
      (edited root edits).pattern = value.getD "*.md") ∧
    (∃ value behind, LastGiven Overrides.requireName edits value behind ∧
      (edited root edits).requireName = value.getD true) ∧
    (∃ value behind, LastGiven Overrides.merge edits value behind ∧
      (edited root edits).merge = value.getD .accumulate) ∧
    (∃ value behind, LastGiven Overrides.defaultModel edits value behind ∧
      (edited root edits).defaultModel = value) ∧
    (∃ value behind, LastGiven Overrides.templateDirs edits value behind ∧
      (edited root edits).templateDirs =
        (value.getD [⟨"prompts"⟩] ++ behind.filterMap Edit.dir?).map (edited root edits).resolve) ∧
    ∀ dir, (dir.isAbsolute = true → (edited root edits).resolve dir = dir) ∧
      (dir.isAbsolute = false →
        (∃ separator ∈ ["", "/"],
          ((edited root edits).resolve dir).text = root.text ++ separator ++ dir.text) ∧
        ((edited root edits).resolve dir).components = root.components ++
          if root.text = "" then dir.components else dir.components.filter (· ≠ .here)) := by
  have hroot : (edited root edits).root = root := root_after _ edits
  have hresolve : (edited root edits).resolve = root.join := by
    funext dir
    rw [resolve, hroot]
  refine ⟨⟨hroot, configFile_after _ edits⟩, fun e => ⟨edit_of_accepted, edit_of_not_accepted⟩,
    after_accepted _ edits, decides_pattern.edited root edits,
    decides_requireName.edited root edits, decides_merge.edited root edits,
    decides_defaultModel.edited root edits, ?_, fun dir => ?_⟩
  · rw [hresolve]
    exact templateDirs_edited root edits
  · have hlaws := resolve_laws (edited root edits) dir
    rwa [hroot] at hlaws

/-- A text that gives the directories hides what was added before it, and one with a key that nobody
knows is refused as a whole. -/
example :
    (edited ⟨"/w"⟩ [.addDir ⟨"a"⟩, .apply "template_dirs = [\"x\"]", .addDir ⟨"/b"⟩,
      .apply "template_dirs = []\ncolour = \"red\""]).templateDirs = [⟨"/w/x"⟩, ⟨"/b"⟩] := by
  decide +kernel

end Promptbook.Config
