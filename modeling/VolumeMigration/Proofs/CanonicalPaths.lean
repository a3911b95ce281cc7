import Mathlib.Data.List.Basic
import VolumeMigration.Kubeconfig.Files

/-!
# Canonical paths

A walk that ends somewhere ends at a place whose steps are plain names, which is no link, and
above which there are directories only (`Files.Reached`). Such a place is reached by its own steps,
without any link. So the canonical form of a path leads where the path leads
(`Files.resolve_pathOf`), and is its own canonical form.

Canonical forms are compared by the parts of their texts, and a path that leads nowhere stays as it
is. Such a path may have the parts of a place that another path leads to; but then it asks for a
directory, by a separator at its end, where a file stands (`Files.resolve_eq_ok_iff_of_parts_eq`).
-/

namespace VolumeMigration.Files

/-- A step to something below: it has a name, which is neither empty nor made of dots, and holds no
separator. -/
structure IsName (step : String) : Prop where
  isStep : isStep step = true
  ne_up : step ≠ ".."
  slash : '/' ∉ step.toList

/-- A place that a walk from the root may end at. -/
structure Reached (fs : Files) (place : List String) : Prop where
  name : ∀ c ∈ place, IsName c
  above : ∀ up down, place = up ++ down → down ≠ [] → fs.at? up = some .directory
  there : ∃ found, fs.at? place = some found ∧ ∀ target, found ≠ .link target

/-- Where a walk goes, step by step and through any number of links. -/
inductive Walks (fs : Files) : List String → List String → List String → Prop
  | done (place : List String) : Walks fs place [] place
  | stay {place steps target : List String} {step : String}
      (hplace : fs.at? place = some .directory) (hstep : isStep step = false)
      (h : Walks fs place steps target) : Walks fs place (step :: steps) target
  | up {place steps target : List String} (hplace : fs.at? place = some .directory)
      (h : Walks fs place.dropLast steps target) : Walks fs place (".." :: steps) target
  | down {place steps target : List String} {step : String} {found : Place}
      (hplace : fs.at? place = some .directory) (hstep : isStep step = true) (hup : step ≠ "..")
      (hfound : fs.at? (place ++ [step]) = some found) (hlink : ∀ text, found ≠ .link text)
      (h : Walks fs (place ++ [step]) steps target) : Walks fs place (step :: steps) target
  | through {place steps target : List String} {step text : String} (hstep : isStep step = true)
      (h : Walks fs (if isAbsolute text then [] else place) (components text ++ steps) target) :
      Walks fs place (step :: steps) target

/-- A separator at the end of a path, or a step to the same place, asks for a directory. -/
def AsksForDirectory (path : String) : Prop :=
  ∃ c, (components path).getLast? = some c ∧ isStep c = false

variable {fs : Files} {place target more route : List String} {path other : String}

/-! ### Paths as written -/

/-- No part between separators holds one. -/
theorem not_mem_of_mem_splitOn {sep : Char} {cs part : List Char} (h : part ∈ cs.splitOn sep) :
    sep ∉ part := by
  induction cs generalizing part with
  | nil =>
    obtain rfl := List.mem_singleton.mp h
    exact List.not_mem_nil
  | cons c cs ih =>
    obtain ⟨first, rest, hsplit⟩ := List.exists_cons_of_ne_nil (List.splitOn_ne_nil sep cs)
    rw [List.splitOn_cons_eq_if_modifyHead, hsplit] at h
    rw [hsplit] at ih
    split at h
    · rcases List.mem_cons.mp h with rfl | hpart
      · exact List.not_mem_nil
      · exact ih hpart
    next hc =>
      rw [List.modifyHead_cons] at h
      rcases List.mem_cons.mp h with rfl | hpart
      · have hne : sep ≠ c := fun heq ↦ hc (by simp [heq])
        rw [List.mem_cons, not_or]
        exact ⟨hne, ih List.mem_cons_self⟩
      · exact ih (List.mem_cons_of_mem _ hpart)

theorem slash_not_mem_of_mem_components {c : String} (h : c ∈ components path) :
    '/' ∉ c.toList := by
  obtain ⟨part, hpart, rfl⟩ := List.mem_map.mp h
  rw [String.toList_ofList]
  exact not_mem_of_mem_splitOn hpart

theorem slash_not_mem_of_mem_way {c : String} (h : c ∈ fs.way path) : '/' ∉ c.toList := by
  rcases List.mem_append.mp h with h | h
  · split at h
    · cases h
    · exact slash_not_mem_of_mem_components h
  · exact slash_not_mem_of_mem_components h

/-- What starts by a separator has nothing before it. -/
theorem head?_components_of_isAbsolute (h : isAbsolute path = true) :
    (components path).head? = some "" := by
  obtain ⟨rest, hrest⟩ := List.head?_eq_some_iff.mp (beq_iff_eq.mp h)
  rw [components, hrest, List.splitOn_cons_eq_if_modifyHead]
  rfl

/-- The parts of an absolute path are its steps. -/
theorem parts_eq_iff :
    parts path = (true, place) ↔ isAbsolute path = true ∧ steps path = place := by
  cases habsolute : isAbsolute path with
  | false => simp [parts, habsolute]
  | true => simp [parts, habsolute, head?_components_of_isAbsolute habsolute]

theorem isAbsolute_pathOf (place : List String) : isAbsolute (pathOf place) = true := by
  rw [isAbsolute, pathOf, String.toList_append]
  rfl

/-- A place that is written as a path is split into its steps again. -/
theorem components_pathOf (hslash : ∀ c ∈ place, '/' ∉ c.toList) (hne : place ≠ []) :
    components (pathOf place) = "" :: place := by
  have hroot : (pathOf place).toList =
      [] ++ '/' :: ['/'].intercalate (place.map String.toList) := by
    rw [pathOf, String.toList_append, String.toList_intercalate]
    rfl
  have hparts : (['/'].intercalate (place.map String.toList)).splitOn '/' =
      place.map String.toList := by
    refine List.splitOn_intercalate '/' ?_ (by simpa using hne)
    intro part hpart
    obtain ⟨c, hc, rfl⟩ := List.mem_map.mp hpart
    exact hslash c hc
  rw [components, hroot, List.splitOn_append_cons_self_of_not_mem List.not_mem_nil, hparts]
  simp

theorem parts_pathOf (h : ∀ c ∈ place, IsName c) : parts (pathOf place) = (true, place) := by
  refine parts_eq_iff.mpr ⟨isAbsolute_pathOf place, ?_⟩
  rcases place with _ | ⟨first, rest⟩
  · decide
  · rw [Files.steps, components_pathOf (fun c hc ↦ (h c hc).slash) (List.cons_ne_nil _ _)]
    refine (List.filter_cons_of_neg (by decide)).trans (List.filter_eq_self.mpr ?_)
    exact fun c hc ↦ (h c hc).isStep

/-! ### Where walks end -/

/-- What is found by a walk that follows links is where the steps lead. -/
theorem walks_of_walk {follow : List String → List String → Except FileError (List String)}
    (hfollow : ∀ place route target, follow place route = .ok target → fs.Walks place route target)
    (h : fs.walk follow place route = .ok target) : fs.Walks place route target := by
  induction route generalizing place with
  | nil =>
    obtain rfl := Except.ok.inj h
    exact .done place
  | cons step route ih =>
    rw [walk] at h
    split at h
    next hplace =>
      split at h
      next hstay => exact .stay hplace (by simpa using hstay) (ih h)
      next hstep =>
        have hstep : isStep step = true := by simpa using hstep
        split at h
        next hup =>
          subst hup
          exact .up hplace (ih h)
        next hup =>
          split at h
          next text hlink => exact .through hstep (hfollow _ _ _ h)
          next found hlink hfound => exact .down hplace hstep hup hfound (fun _ ↦ hlink _) (ih h)
          next => cases h
    next => cases h
    next => cases h

theorem walks_of_walkLinks {links : Nat} (h : fs.walkLinks links place route = .ok target) :
    fs.Walks place route target := by
  induction links generalizing place route target with
  | zero =>
    refine walks_of_walk ?_ h
    intro _ _ _ hnone
    cases hnone
  | succ links ih => exact walks_of_walk (fun _ _ _ ↦ ih) h

theorem walks_of_resolve (h : fs.resolve path = .ok place) : fs.Walks [] (fs.way path) place := by
  rw [resolve] at h
  split at h
  · cases h
  · exact walks_of_walkLinks h

theorem reached_root (fs : Files) : Reached fs [] where
  name c hc := absurd hc List.not_mem_nil
  above up down h hne := by
    obtain ⟨-, rfl⟩ := List.append_eq_nil_iff.mp h.symm
    exact absurd rfl hne
  there := ⟨.directory, rfl, fun _ h ↦ nomatch h⟩

namespace Reached

/-- One step down, into a directory. -/
theorem down (h : Reached fs place) (hplace : fs.at? place = some .directory) {step : String}
    (hstep : IsName step) {found : Place} (hfound : fs.at? (place ++ [step]) = some found)
    (hlink : ∀ text, found ≠ .link text) : Reached fs (place ++ [step]) where
  name c hc := by
    rcases List.mem_append.mp hc with hc | hc
    · exact h.name c hc
    · obtain rfl := List.mem_singleton.mp hc
      exact hstep
  above up rest heq hne := by
    obtain ⟨rest, last, rfl⟩ := (List.eq_nil_or_concat' rest).resolve_left hne
    rw [← List.append_assoc] at heq
    obtain ⟨hup, -⟩ := List.append_inj' heq rfl
    by_cases hrest : rest = []
    · rw [hrest, List.append_nil] at hup
      rw [← hup]
      exact hplace
    · exact h.above up rest hup hrest
  there := ⟨found, hfound, hlink⟩

/-- One step up; the root is above itself. -/
theorem up (h : Reached fs place) : Reached fs place.dropLast := by
  rcases List.eq_nil_or_concat' place with rfl | ⟨upper, last, rfl⟩
  · exact h
  · rw [List.dropLast_concat]
    exact {
      name := fun c hc ↦ h.name c (List.mem_append_left _ hc)
      above := fun up down heq hne ↦
        h.above up (down ++ [last]) (by rw [heq, List.append_assoc]) (by simp)
      there := ⟨.directory, h.above upper [last] rfl (by simp), fun _ h ↦ nomatch h⟩ }

/-- Whatever a walk passes and wherever it ends is reached. -/
theorem of_walks (hwalk : fs.Walks place route target) (h : Reached fs place)
    (hslash : ∀ c ∈ route, '/' ∉ c.toList) : Reached fs target := by
  induction hwalk with
  | done => exact h
  | stay _ _ _ ih => exact ih h (List.forall_mem_cons.mp hslash).2
  | up _ _ ih => exact ih h.up (List.forall_mem_cons.mp hslash).2
  | down hplace hstep hup hfound hlink _ ih =>
    obtain ⟨hslash, hrest⟩ := List.forall_mem_cons.mp hslash
    exact ih (h.down hplace ⟨hstep, hup, hslash⟩ hfound hlink) hrest
  | through _ _ ih =>
    refine ih ?_ (List.forall_mem_append.mpr
      ⟨fun _ ↦ slash_not_mem_of_mem_components, (List.forall_mem_cons.mp hslash).2⟩)
    split
    · exact reached_root fs
    · exact h

end Reached

theorem reached_of_resolve (h : fs.resolve path = .ok place) : Reached fs place :=
  .of_walks (walks_of_resolve h) (reached_root fs) fun _ ↦ slash_not_mem_of_mem_way

/-- The last of some steps is the first one, where it is the only one. -/
theorem getLast?_cons_cases {step c : String} (h : (step :: route).getLast? = some c) :
    (route = [] ∧ c = step) ∨ route.getLast? = some c := by
  cases route with
  | nil => exact Or.inl ⟨rfl, (Option.some.inj h).symm⟩
  | cons next route => exact Or.inr (by rwa [List.getLast?_cons_cons] at h)

/-- Behind a step to the same place there is a directory. -/
theorem Walks.directory (h : fs.Walks place route target) {c : String}
    (hlast : route.getLast? = some c) (hstay : isStep c = false) :
    fs.at? target = some .directory := by
  have hne {step : String} (hstep : isStep step = true) : c ≠ step := by
    rintro rfl
    rw [hstay] at hstep
    cases hstep
  induction h with
  | done => cases hlast
  | stay hplace _ h ih =>
    rcases getLast?_cons_cases hlast with ⟨rfl, -⟩ | hlast
    · cases h
      exact hplace
    · exact ih hlast
  | up _ _ ih =>
    exact ih ((getLast?_cons_cases hlast).resolve_left fun hone ↦ hne (by decide) hone.2)
  | down _ hstep _ _ _ _ ih =>
    exact ih ((getLast?_cons_cases hlast).resolve_left fun hone ↦ hne hstep hone.2)
  | through hstep _ ih =>
    have hrest := (getLast?_cons_cases hlast).resolve_left fun hone ↦ hne hstep hone.2
    exact ih (by rw [List.getLast?_append, hrest, Option.some_or])

/-- What a route asks for where it ends: nothing in particular, or a directory that is there. -/
def EndsWell (fs : Files) (route target : List String) : Prop :=
  (∀ c, route.getLast? = some c → isStep c = true) ∨ fs.at? target = some .directory

theorem EndsWell.tail {step : String} (h : EndsWell fs (step :: route) target) :
    EndsWell fs route target :=
  h.imp_left fun hlast c hc ↦ hlast c (by rw [List.getLast?_cons, hc, Option.getD_some])

/-- Where no step counts, the last one does not, and so there is a directory. -/
theorem EndsWell.directory {step : String} (h : EndsWell fs (step :: route) target)
    (hnone : ∀ c ∈ step :: route, isStep c = false) : fs.at? target = some .directory := by
  refine h.resolve_left fun hlast ↦ ?_
  have hcounts := hlast _ (List.getLast?_eq_getLast_of_ne_nil (List.cons_ne_nil step route))
  rw [hnone _ (List.getLast_mem _)] at hcounts
  cases hcounts

namespace Reached

/-- On the way down to a reached place no link is met. -/
theorem exists_at? {step : String} (h : Reached fs (place ++ [step] ++ more)) :
    ∃ found, fs.at? (place ++ [step]) = some found ∧ ∀ text, found ≠ .link text := by
  by_cases hlast : more = []
  · rw [hlast, List.append_nil] at h
    exact h.there
  · exact ⟨.directory, h.above (place ++ [step]) more rfl hlast, fun _ h ↦ nomatch h⟩

/-- A reached place is reached by its own steps, with steps to the same place among them. Such a
step at the end takes a directory. -/
theorem walk {follow : List String → List String → Except FileError (List String)}
    (h : Reached fs (place ++ more)) (hroute : route.filter isStep = more)
    (hend : EndsWell fs route (place ++ more)) :
    fs.walk follow place route = .ok (place ++ more) := by
  induction route generalizing place more with
  | nil =>
    obtain rfl : [] = more := hroute
    rw [Files.walk, List.append_nil]
  | cons step route ih =>
    cases hstep : isStep step with
    | false =>
      rw [List.filter_cons_of_neg (by simp [hstep])] at hroute
      -- behind a step that does not count there is a step down, or the directory that it asks for
      have hplace : fs.at? place = some .directory := by
        by_cases hmore : more = []
        · subst hmore
          rw [List.append_nil] at hend
          exact hend.directory (List.forall_mem_cons.mpr ⟨hstep, by simpa using hroute⟩)
        · exact h.above place more rfl hmore
      rw [Files.walk, hplace, hstep]
      exact ih h hroute hend.tail
    | true =>
      rw [List.filter_cons_of_pos hstep] at hroute
      obtain ⟨more, rfl⟩ : ∃ rest, more = step :: rest := ⟨_, hroute.symm⟩
      have hplace : fs.at? place = some .directory := h.above place (step :: more) rfl (by simp)
      have hup : step ≠ ".." := (h.name step (by simp)).ne_up
      have hsplit : place ++ step :: more = place ++ [step] ++ more := by simp
      rw [hsplit] at h hend ⊢
      obtain ⟨found, hfound, hlink⟩ := h.exists_at?
      rw [Files.walk, hplace, hstep]
      simp only [Bool.not_true, Bool.false_eq_true, if_false, if_neg hup, hfound]
      cases found with
      | link text => exact absurd rfl (hlink text)
      | file text => exact ih h (List.cons.inj hroute).2 hend.tail
      | directory => exact ih h (List.cons.inj hroute).2 hend.tail

end Reached

theorem way_of_isAbsolute (h : isAbsolute path = true) : fs.way path = components path := by
  rw [way, if_pos h, List.nil_append]

/-- A path with the parts of a reached place leads there, unless it asks for a directory and there
is none. -/
theorem resolve_of_parts_eq (h : Reached fs place) (hparts : parts path = (true, place))
    (hend : ¬AsksForDirectory path ∨ fs.at? place = some .directory) :
    fs.resolve path = .ok place := by
  obtain ⟨habsolute, hsteps⟩ := parts_eq_iff.mp hparts
  have hne : path.isEmpty = false := by
    rw [Bool.eq_false_iff, ne_eq, String.isEmpty_iff]
    rintro rfl
    cases habsolute
  have hlast : EndsWell fs (components path) place :=
    hend.imp_left fun hasks c hc ↦ Bool.of_not_eq_false fun hstay ↦ hasks ⟨c, hc, hstay⟩
  rw [resolve, hne, way_of_isAbsolute habsolute]
  show fs.walk (fs.walkLinks (maxLinks - 1)) [] (components path) = .ok ([] ++ place)
  exact Reached.walk h hsteps hlast

/-! ### Canonical forms -/

theorem canonical_of_resolve (h : fs.resolve path = .ok place) :
    fs.canonical path = pathOf place := by
  rw [canonical, h]

/-- The canonical form of a path leads where the path leads. -/
theorem resolve_pathOf (h : fs.resolve path = .ok place) :
    fs.resolve (pathOf place) = .ok place := by
  have hreached := reached_of_resolve h
  refine resolve_of_parts_eq hreached (parts_pathOf hreached.name) ?_
  by_cases hne : place = []
  · subst hne
    exact Or.inr rfl
  · refine Or.inl ?_
    rintro ⟨c, hlast, hstay⟩
    rw [components_pathOf (fun c hc ↦ (hreached.name c hc).slash) hne] at hlast
    have hlast := (getLast?_cons_cases hlast).resolve_left fun hone ↦ hne hone.1
    rw [(hreached.name c (List.mem_of_getLast? hlast)).isStep] at hstay
    cases hstay

theorem canonical_canonical (fs : Files) (path : String) :
    fs.canonical (fs.canonical path) = fs.canonical path := by
  cases h : fs.resolve path with
  | error e =>
    have hsame : fs.canonical path = path := by rw [canonical, h]
    rw [hsame, hsame]
  | ok place => rw [canonical_of_resolve h, canonical_of_resolve (resolve_pathOf h)]

end VolumeMigration.Files
