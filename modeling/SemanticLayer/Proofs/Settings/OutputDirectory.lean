import SemanticLayer.Proofs.Settings.Template
import SemanticLayer.Settings.Decoding
namespace SemanticLayer.Settings

/-! Where files go.

The directory is checked as the settings write it, before the variables in it are looked up. With
references it can still come out blank. -/

variable {environment : Environment} {settings : Settings} {text directory : String}
  {scanned : List Part}

/-- Some character is not white space. -/
def IsVisible (text : String) : Prop := ∃ c ∈ text.toList, Text.isBlank c = false

instance (text : String) : Decidable (IsVisible text) :=
  List.decidableBEx (fun c => Text.isBlank c = false) text.toList

theorem validate_eq_ok_iff :
    settings.validate = .ok () ↔ settings.maxJoinHops ≠ some 0 ∧ IsVisible settings.directory := by
  have checks : settings.validate =
      if settings.maxJoinHops = some 0 then .error .noJoinHops
      else if settings.directory.toList.all Text.isBlank then .error .blankDirectory
      else .ok () := rfl
  rw [checks]
  by_cases hops : settings.maxJoinHops = some 0
  · simp [hops]
  · simp [hops, IsVisible]

theorem visible_of_ofToml (accepted : ofToml text = .ok settings) : IsVisible settings.directory := by
  obtain ⟨decoded, _, checked⟩ := Attempt.bind_eq_ok_iff.mp accepted
  obtain ⟨valid, same⟩ := Attempt.check_bind_eq_ok_iff.mp checked
  cases same
  exact (validate_eq_ok_iff.mp valid).2

theorem resolve_eq_ok_iff :
    resolve environment text = .ok directory ↔
      (∀ name, .reference name ∈ parts text.toList → ∃ value, environment name = some value) ∧
        directory = String.ofList ((parts text.toList).flatMap (Part.filled environment)) := by
  rw [resolve_eq, ← firstUnset?_eq_none_iff]
  cases firstUnset? environment (parts text.toList) with
  | none => simp [eq_comm]
  | some name => simp

/-- What is visible after expansion was so before, or is in the value of a variable. -/
theorem visible_filled_iff (set : ∀ name, .reference name ∈ scanned → ∃ value, environment name = some value) :
    IsVisible (String.ofList (scanned.flatMap (Part.filled environment))) ↔
      (∃ c, .literal c ∈ scanned ∧ Text.isBlank c = false) ∨
        ∃ name value, .reference name ∈ scanned ∧ environment name = some value ∧ IsVisible value := by
  rw [IsVisible, String.toList_ofList]
  constructor
  · rintro ⟨c, member, visible⟩
    obtain ⟨part, partMember, inside⟩ := List.mem_flatMap.mp member
    cases part with
    | literal d =>
        cases List.mem_singleton.mp inside
        exact .inl ⟨c, partMember, visible⟩
    | reference name =>
        obtain ⟨value, holds⟩ := set name partMember
        rw [Part.filled, holds, Option.getD_some] at inside
        exact .inr ⟨name, value, partMember, holds, c, inside, visible⟩
  · rintro (⟨c, member, visible⟩ | ⟨name, value, member, holds, c, inside, visible⟩)
    · exact ⟨c, List.mem_flatMap.mpr ⟨_, member, List.mem_singleton_self c⟩, visible⟩
    · refine ⟨c, List.mem_flatMap.mpr ⟨_, member, ?_⟩, visible⟩
      rwa [Part.filled, holds, Option.getD_some]

/-- Without a reference, visible text consists of visible characters. -/
theorem exists_reference_of_blank (scan : Scanned text.toList scanned) (visible : IsVisible text)
    (blank : ∀ c, .literal c ∈ scanned → Text.isBlank c = true) : ∃ name, .reference name ∈ scanned := by
  obtain ⟨c, member, shown⟩ := visible
  rw [← flatMap_written scan] at member
  obtain ⟨part, partMember, inside⟩ := List.mem_flatMap.mp member
  cases part with
  | reference name => exact ⟨name, partMember⟩
  | literal d =>
      cases List.mem_singleton.mp inside
      rw [blank c partMember] at shown
      cases shown

/-- Accepted settings name a directory, and it stays visible unless all that can be seen of it are
references to variables with blank values. -/
theorem directory_visible_iff (accepted : ofToml text = .ok settings)
    (resolved : settings.resolvedDirectory environment = .ok directory) :
    IsVisible settings.directory ∧ ∃ scanned, Scanned settings.directory.toList scanned ∧
      (IsVisible directory ↔
        (∃ c, .literal c ∈ scanned ∧ Text.isBlank c = false) ∨
          ∃ name value, .reference name ∈ scanned ∧ environment name = some value ∧ IsVisible value) ∧
      (¬ IsVisible directory →
        ∃ name value, .reference name ∈ scanned ∧ environment name = some value ∧ ¬ IsVisible value) := by
  have visible := visible_of_ofToml accepted
  have scan := scanned_parts settings.directory.toList
  obtain ⟨set, rfl⟩ := resolve_eq_ok_iff.mp resolved
  refine ⟨visible, parts settings.directory.toList, scan, visible_filled_iff set, fun blank => ?_⟩
  rw [visible_filled_iff set] at blank
  push Not at blank
  obtain ⟨literals, values⟩ := blank
  obtain ⟨name, member⟩ :=
    exists_reference_of_blank scan visible fun c literal => by simpa using literals c literal
  obtain ⟨value, holds⟩ := set name member
  exact ⟨name, value, member, holds, values name value member holds⟩

/-- An environment with one variable. -/
def onlyVariable (name value : String) : Environment :=
  fun other => if other = name then some value else none

theorem views_under_empty_root :
    ofToml "[output]\ndirectory = \"$\x7bROOT\x7d/views\"" = .ok { directory := "$\x7bROOT\x7d/views" } ∧
    resolvedDirectory { directory := "$\x7bROOT\x7d/views" } (onlyVariable "ROOT" "") = .ok "/views" ∧
    IsVisible "/views" := by
  have accepted :
      ofToml "[output]\ndirectory = \"$\x7bROOT\x7d/views\"" = .ok { directory := "$\x7bROOT\x7d/views" } :=
    Attempt.toOption_eq_some_iff.mp (by decide +kernel)
  have resolved :
      resolvedDirectory { directory := "$\x7bROOT\x7d/views" } (onlyVariable "ROOT" "") = .ok "/views" :=
    Attempt.toOption_eq_some_iff.mp (by decide +kernel)
  obtain ⟨_, scanned, scan, visible, _⟩ := directory_visible_iff accepted resolved
  refine ⟨accepted, resolved, visible.mpr (.inl ⟨'/', ?_, by decide⟩)⟩
  rw [scanned_iff.mp scan]
  decide +kernel

/-- A variable may be set and hold nothing. -/
theorem blank_directory_accepted :
    ofToml "[output]\ndirectory = \"$\x7bROOT\x7d\"" = .ok { directory := "$\x7bROOT\x7d" } ∧
    resolvedDirectory { directory := "$\x7bROOT\x7d" } (onlyVariable "ROOT" "") = .ok "" ∧
    ¬ IsVisible "" :=
  ⟨Attempt.toOption_eq_some_iff.mp (by decide +kernel), Attempt.toOption_eq_some_iff.mp (by decide +kernel),
    by decide⟩

end SemanticLayer.Settings
