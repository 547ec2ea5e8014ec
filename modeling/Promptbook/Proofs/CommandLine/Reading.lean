import Mathlib.Data.List.TakeDrop
import Mathlib.Data.List.TakeWhile
import Promptbook.CommandLine.Arguments

/-! Arguments that say a rendering.

Every rendering can be asked for: whatever the name, the kind of file and the texts of the
registers are, `renderArguments` writes arguments that are read as just that (`read_render`).
Values stand attached to their options and the name stands behind the end of the options, so
that none of them is taken for an option itself. -/
namespace Promptbook.CommandLine
open Substitution (Registers)

/-! ### Writing -/

/-- A long option with its value attached. -/
def attached (option value : String) : String := "--" ++ option ++ "=" ++ value

/-- A register and its text, as an option takes them. -/
def registerValue (register : Char × String) : String :=
  String.singleton register.1 ++ "=" ++ register.2

/-- Arguments that ask for a rendering. -/
def renderArguments (root : Option Path) (dirs : List Path) (name filetype : String)
    (registers : Registers) (json : Bool) : List String :=
  root.toList.map (fun path => attached "root" path.text) ++
  dirs.map (fun path => attached "dir" path.text) ++
  "render" :: attached "filetype" filetype ::
  (registers.map fun register => attached "register" (registerValue register)) ++
  (if json then ["--json"] else []) ++ ["--", name]

/-! ### Options one after another -/

theorem splitLong_attached {option : List Char} (h : '=' ∉ option) (value : List Char) :
    splitLong (option ++ '=' :: value) = (String.ofList option, some (String.ofList value)) := by
  have hspan : (option ++ '=' :: value).span (· != '=') = (option, '=' :: value) := by
    rw [List.span_eq_takeWhile_dropWhile]
    have hall : ∀ c ∈ option, (c != '=') = true := fun c hc => by
      simpa using fun heq : c = '=' => h (heq ▸ hc)
    rw [List.takeWhile_append_of_pos hall, List.dropWhile_append_of_pos hall]
    simp
  rw [splitLong, hspan]

section
variable (before : Option Level) (level : Level) (text : String) {option : OptionName}

theorem toList_attached (option value : String) :
    (attached option value).toList = '-' :: '-' :: (option.toList ++ '=' :: value.toList) := by
  simp [attached]

/-- A long option with its value is given to the level. -/
theorem readLevels_attached (hoption : OptionName.ofLong? text = some option)
    (htext : '=' ∉ text.toList) (hknown : option.isKnown level.command = true)
    (hvalue : option.hasValue = true) (hopen : level.operandsOnly = false) (value : String)
    (rest : List String) :
    readLevels before level (attached text value :: rest) =
      match level.give option value with
      | .ok level => readLevels before level rest
      | .error ending => .error ending := by
  obtain ⟨c, more, hmore⟩ := List.exists_cons_of_ne_nil
    (show text.toList ++ '=' :: value.toList ≠ [] by simp)
  have hsplit := splitLong_attached htext value.toList
  rw [String.ofList_toList, String.ofList_toList, hmore] at hsplit
  rw [readLevels, toList_attached, hmore]
  cases hgive : level.give option value <;>
    simp [hopen, hsplit, hoption, hknown, hvalue, hgive]

/-- A repeated option that takes the value is noted behind the others. -/
theorem give_repeated (hrepeats : option.repeats = true) {value : String}
    (haccepts : option.accepts value = true) :
    level.give option value = .ok { level with options := level.options ++ [(option, value)] } := by
  cases option <;> simp_all [Level.give, OptionName.repeats]

/-- A repeated option with each of these values. -/
theorem readLevels_repeated (hoption : OptionName.ofLong? text = some option)
    (htext : '=' ∉ text.toList) (hknown : option.isKnown level.command = true)
    (hvalue : option.hasValue = true) (hrepeats : option.repeats = true)
    (hopen : level.operandsOnly = false) {values : List String}
    (haccepts : ∀ value ∈ values, option.accepts value = true) (rest : List String) :
    readLevels before level (values.map (attached text) ++ rest) =
      readLevels before
        { level with options := level.options ++ values.map fun value => (option, value) }
        rest := by
  induction values generalizing level with
  | nil => simp
  | cons value values ih =>
    have hrest := @ih { level with options := level.options ++ [(option, value)] } hknown hopen
      fun other hother => haccepts other (List.mem_cons_of_mem _ hother)
    rw [List.map_cons, List.cons_append,
      readLevels_attached _ _ _ hoption htext hknown hvalue hopen,
      give_repeated _ hrepeats (haccepts value List.mem_cons_self)]
    simpa using hrest

/-- The flag for the other form of the output. -/
theorem readLevels_json (hcommand : level.command = some .render)
    (hopen : level.operandsOnly = false) (hnew : ∀ given ∈ level.options, given.1 ≠ .json)
    (rest : List String) :
    readLevels before level ("--json" :: rest) =
      readLevels before { level with options := level.options ++ [(.json, "")] } rest := by
  have hgive : level.give .json "" =
      .ok { level with options := level.options ++ [(.json, "")] } := by
    have hany : level.options.any (·.1 = .json) = false := by simpa using hnew
    simp [Level.give, OptionName.repeats, OptionName.accepts, hany]
  have hchars : "--json".toList = ['-', '-', 'j', 's', 'o', 'n'] := by decide
  have hsplit : splitLong ['j', 's', 'o', 'n'] = ("json", none) := by decide
  rw [readLevels, hchars]
  simp [hopen, hsplit, OptionName.ofLong?, OptionName.isKnown, OptionName.hasValue, hcommand, hgive]

/-- The operand behind the end of the options, whatever it looks like. -/
theorem readLevels_operand (hcommand : level.command = some .render)
    (hopen : level.operandsOnly = false) (hnone : level.operand = none) (name : String) :
    readLevels before level ["--", name] =
      .ok (before, { level with operand := some name, operandsOnly := true }) := by
  have hchars : "--".toList = ['-', '-'] := by decide
  rw [readLevels, hchars]
  simp [hopen, readLevels, Level.giveOperand, hcommand, hnone, CommandName.hasOperand]

end

/-! ### Renderings -/

theorem accepts_registerValue {register : Char × String} (h : register.1 ≠ '=') :
    OptionName.register.accepts (registerValue register) = true := by
  simp [OptionName.accepts, registerValue, h]

theorem registerOf_registerValue (register : Char × String) :
    registerOf (registerValue register) = register := by
  simp [registerOf, registerValue]

/-- What is read before the command. -/
def placesLevel (root : Option Path) (dirs : List Path) : Level where
  options := root.toList.map (fun path => (.root, path.text)) ++
    dirs.map fun path => (.dir, path.text)

/-- What is read behind the command. -/
def renderLevel (name filetype : String) (registers : Registers) (json : Bool) : Level where
  command := some .render
  options := (.filetype, filetype) ::
    (registers.map fun register => (.register, registerValue register)) ++
      if json then [(.json, "")] else []
  operand := some name
  operandsOnly := true

section
variable {root : Option Path} {dirs : List Path} {registers : Registers}

/-- Before the command stand the root and the directories. -/
theorem readLevels_places (hroot : ∀ path ∈ root, path.text ≠ "")
    (hdirs : ∀ path ∈ dirs, path.text ≠ "") (rest : List String) :
    readLevels none {} (root.toList.map (fun path => attached "root" path.text) ++
        (dirs.map (fun path => attached "dir" path.text) ++ rest)) =
      readLevels none (placesLevel root dirs) rest := by
  have haccepts : ∀ value ∈ dirs.map Path.text, OptionName.dir.accepts value = true := by
    intro value hvalue
    obtain ⟨path, hpath, rfl⟩ := List.mem_map.mp hvalue
    simpa [OptionName.accepts] using hdirs path hpath
  have hrepeated (options : List (OptionName × String)) :=
    readLevels_repeated none { options := options } "dir" rfl (by decide) rfl rfl rfl rfl
      haccepts rest
  simp only [List.map_map] at hrepeated
  cases root with
  | none => exact hrepeated []
  | some path =>
    have hgive : Level.give {} .root path.text = .ok { options := [(.root, path.text)] } := by
      simp [Level.give, OptionName.accepts, hroot path rfl]
    rw [Option.toList_some, List.map_singleton, List.singleton_append,
      readLevels_attached none {} "root" rfl (by decide) rfl rfl rfl, hgive]
    exact hrepeated [(.root, path.text)]

/-- Behind the command stand its options and its operand. -/
theorem readLevels_render (hregisters : ∀ register ∈ registers, register.1 ≠ '=')
    (before : Level) (name filetype : String) (json : Bool) :
    readLevels (some before) { command := some .render }
        (attached "filetype" filetype ::
          ((registers.map fun register => attached "register" (registerValue register)) ++
            ((if json then ["--json"] else []) ++ ["--", name]))) =
      .ok (some before, renderLevel name filetype registers json) := by
  have haccepts : ∀ value ∈ registers.map registerValue,
      OptionName.register.accepts value = true := by
    intro value hvalue
    obtain ⟨register, hregister, rfl⟩ := List.mem_map.mp hvalue
    exact accepts_registerValue (hregisters register hregister)
  have hgive : Level.give { command := some .render } .filetype filetype =
      .ok { command := some .render, options := [(.filetype, filetype)] } := rfl
  have hrepeated := readLevels_repeated (some before)
    { command := some .render, options := [(.filetype, filetype)] } "register" rfl
    (by decide) rfl rfl rfl rfl haccepts
  simp only [List.map_map] at hrepeated
  rw [readLevels_attached (some before) { command := some .render } "filetype" rfl
    (by decide) rfl rfl rfl, hgive]
  refine (hrepeated _).trans ?_
  cases json with
  | false =>
    refine (readLevels_operand _ _ rfl rfl rfl name).trans ?_
    simp [renderLevel]
  | true =>
    refine (readLevels_json _ _ rfl rfl ?_ _).trans
      ((readLevels_operand _ _ rfl rfl rfl name).trans ?_)
    · intro given hgiven
      rcases List.mem_append.mp hgiven with hgiven | hgiven
      · obtain rfl := List.mem_singleton.mp hgiven
        nofun
      · obtain ⟨register, -, rfl⟩ := List.mem_map.mp hgiven
        nofun
    · simp [renderLevel]

theorem filter_given_same {α : Type} (text : α → String) (option : OptionName) (items : List α) :
    (items.map fun item => (option, text item)).filter (·.1 = option) =
      items.map fun item => (option, text item) :=
  List.filter_eq_self.mpr fun given hgiven => by
    obtain ⟨item, -, rfl⟩ := List.mem_map.mp hgiven
    exact decide_eq_true rfl

theorem filter_given_other {α : Type} (text : α → String) {option other : OptionName}
    (h : other ≠ option) (items : List α) :
    (items.map fun item => (other, text item)).filter (·.1 = option) = [] :=
  List.filter_eq_nil_iff.mpr fun given hgiven => by
    obtain ⟨item, -, rfl⟩ := List.mem_map.mp hgiven
    simpa using h

theorem values_placesLevel (root : Option Path) (dirs : List Path) :
    (placesLevel root dirs).values .root = root.toList.map Path.text ∧
      (placesLevel root dirs).values .dir = dirs.map Path.text := by
  constructor
  · simp only [Level.values, placesLevel, List.filter_append, filter_given_same Path.text,
      filter_given_other Path.text (show OptionName.dir ≠ .root by decide)]
    simp
  · simp only [Level.values, placesLevel, List.filter_append, filter_given_same Path.text,
      filter_given_other Path.text (show OptionName.root ≠ .dir by decide)]
    simp

theorem values_renderLevel (name filetype : String) (registers : Registers) (json : Bool) :
    (renderLevel name filetype registers json).values .filetype = [filetype] ∧
      (renderLevel name filetype registers json).values .register = registers.map registerValue ∧
      (renderLevel name filetype registers json).values .json = (if json then [""] else []) ∧
      (renderLevel name filetype registers json).values .root = [] ∧
      (renderLevel name filetype registers json).values .dir = [] := by
  have hother {option : OptionName} (h : OptionName.register ≠ option) :=
    filter_given_other registerValue h registers
  refine ⟨?_, ?_, ?_, ?_, ?_⟩ <;> cases json <;>
    simp [Level.values, renderLevel, hother, filter_given_same registerValue]

theorem commandOf?_renderLevel (name filetype : String) (registers : Registers) (json : Bool) :
    commandOf? (renderLevel name filetype registers json) =
      some (.render name filetype registers json) := by
  obtain ⟨hfiletype, hregister, hjson, -, -⟩ := values_renderLevel name filetype registers json
  have hregisters : (registers.map registerValue).map registerOf = registers := by
    rw [List.map_map]
    exact List.map_id'' registerOf_registerValue registers
  rw [commandOf?, hfiletype, hregister, hjson, hregisters]
  cases json <;> rfl

/-- **Every rendering can be asked for.** -/
theorem read_render (hroot : ∀ path ∈ root, path.text ≠ "")
    (hdirs : ∀ path ∈ dirs, path.text ≠ "")
    (hregisters : ∀ register ∈ registers, register.1 ≠ '=') (name filetype : String) (json : Bool) :
    read (renderArguments root dirs name filetype registers json) =
      .ok ⟨.render name filetype registers json, root, dirs⟩ := by
  have hcommand (rest : List String) : readLevels none (placesLevel root dirs) ("render" :: rest) =
      readLevels (some (placesLevel root dirs)) { command := some .render } rest := rfl
  obtain ⟨hroots, hplaces⟩ := values_placesLevel root dirs
  obtain ⟨-, -, -, hnoroot, hnodir⟩ := values_renderLevel name filetype registers json
  rw [read, renderArguments]
  simp only [List.append_assoc, List.cons_append]
  rw [readLevels_places hroot hdirs, hcommand, readLevels_render hregisters]
  simp only [commandOf?_renderLevel, hnoroot, hnodir, Option.getD_some, hroots, hplaces]
  have hpaths : (dirs.map Path.text).map Path.mk = dirs := by
    rw [List.map_map]
    exact List.map_id'' (fun _ => rfl) dirs
  cases root <;> simp [hpaths]

end
end Promptbook.CommandLine
