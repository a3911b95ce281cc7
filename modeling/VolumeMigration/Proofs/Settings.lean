import Mathlib.Tactic.SplitIfs
import VolumeMigration.CommandLine.Usage
import VolumeMigration.Proofs.Results

/-!
# What a command line can make of its settings

The settings of a command change only as an option or a plain word is taken. So a property that
all of these keep (`Command.Keeps`) holds of the settings of every command line that is read,
whatever its words and the environment are (`Command.Keeps.readWords`, `Command.Keeps.complete`).
An option that is left for later counts, since its value is looked at when something else is
recognised.

For the other direction there are the words that are taken at once: an option with its value
behind an equals sign (`Command.readWords_long`, `Command.takeLong_append`).
-/

namespace VolumeMigration.CommandLine

variable {α : Type} {P : α → Prop} {r s : Reading α} {o : OptionSpec α} {c : Command α}

/-- The option keeps the property, whatever its value is and wherever it comes from. -/
def OptionSpec.Keeps (P : α → Prop) (o : OptionSpec α) : Prop :=
  ∀ ⦃origin value a b⦄, P a → o.store origin value a = .ok b → P b

/-- So do all options and words of the command. -/
structure Command.Keeps (P : α → Prop) (c : Command α) : Prop where
  options : ∀ o ∈ c.options, o.Keeps P
  words : ∀ store ∈ c.words, ∀ word a, P a → P (store word a)

/-- The property holds of the settings, and it will when an option that is left for later is
taken. -/
structure Reading.Keeps (P : α → Prop) (r : Reading α) : Prop where
  settings : P r.settings
  pending : ∀ o value, r.pending = some (o, value) → o.Keeps P

namespace Reading.Keeps

/-- It does before anything was read, if it holds of the defaults. -/
theorem start {a : α} (ha : P a) : Reading.Keeps P { settings := a } where
  settings := ha
  pending := by
    rintro _ _ ⟨⟩

/-- An option of the command may be left for later. -/
theorem leave {value : Option String} (hr : r.Keeps P) (ho : o.Keeps P) :
    Reading.Keeps P { r with pending := some (o, value) } where
  settings := hr.settings
  pending := by
    rintro _ _ ⟨⟩
    exact ho

/-- To apply an option keeps it. -/
theorem apply {origin : Origin} {value : String} (hr : r.Keeps P) (ho : o.Keeps P)
    (h : r.apply o origin value = .ok s) : s.Keeps P := by
  simp only [Reading.apply] at h
  split at h
  · cases h
  · obtain ⟨settings, hstore, ⟨⟩⟩ := bind_eq_ok_iff.mp h
    exact ⟨ho hr.settings hstore, hr.pending⟩

/-- To settle the option that is pending keeps it. -/
theorem resolve (hr : r.Keeps P) (h : r.resolve = .ok s) : s.Keeps P := by
  unfold Reading.resolve at h
  split at h
  · cases h
    exact hr
  · cases h
  next o value hpending =>
    have hcleared : Reading.Keeps P { r with pending := none } := ⟨hr.settings, nofun⟩
    exact hcleared.apply (hr.pending o _ hpending) h

theorem takeNow {value : String} (hr : r.Keeps P) (ho : o.Keeps P)
    (h : r.takeNow o value = .ok s) : s.Keeps P := by
  obtain ⟨resolved, hresolve, happly⟩ := bind_eq_ok_iff.mp h
  exact (hr.resolve hresolve).apply ho happly

theorem takeLater (hr : r.Keeps P) (ho : o.Keeps P) (h : r.takeLater o = .ok s) : s.Keeps P := by
  obtain ⟨resolved, hresolve, ⟨⟩⟩ := bind_eq_ok_iff.mp h
  exact (hr.resolve hresolve).leave ho

/-- To take an option, with its value or without, keeps it. -/
theorem takeOption {value : Option String} (hr : r.Keeps P) (ho : o.Keeps P)
    (h : r.takeOption o value = .ok s) : s.Keeps P := by
  unfold Reading.takeOption at h
  split at h
  · exact hr.takeNow ho h
  · exact hr.takeNow ho h
  · exact hr.takeLater ho h

end Reading.Keeps

/-- How far the command itself has been read. -/
def Finished.reading : Finished α → Reading α
  | .all r => r
  | .below r _ _ => r

namespace Command.Keeps

theorem takeLong {cs : List Char} (hc : c.Keeps P) (hr : r.Keeps P)
    (h : c.takeLong r cs = .ok s) : s.Keeps P := by
  simp only [Command.takeLong] at h
  split at h
  · cases h
  next o hfind =>
    have ho := hc.options o (List.mem_of_find?_eq_some hfind)
    split_ifs at h
    · exact hr.takeNow ho h
    · exact hr.takeOption ho h

theorem takeShort {cs : List Char} (hc : c.Keeps P) (hr : r.Keeps P)
    (h : c.takeShort r cs = .ok s) : s.Keeps P := by
  induction cs generalizing r with
  | nil =>
    cases h
    exact hr
  | cons letter cs ih =>
    rw [Command.takeShort] at h
    split at h
    · cases h
    next o hfind =>
      have ho := hc.options o (List.mem_of_find?_eq_some hfind)
      split at h
      · obtain ⟨taken, htaken, hrest⟩ := bind_eq_ok_iff.mp h
        exact ih (hr.takeNow ho htaken) hrest
      · split at h <;> exact hr.takeOption ho h

/-- A word keeps it, whatever kind of word it is. -/
theorem takeWord {word : String} (hc : c.Keeps P) (hr : r.Keeps P)
    (h : c.takeWord r word = .ok s) : s.Keeps P := by
  unfold Command.takeWord at h
  split at h
  next store hstore =>
    obtain ⟨resolved, hresolve, ⟨⟩⟩ := bind_eq_ok_iff.mp h
    have hresolved := hr.resolve hresolve
    have hkept := hc.words store (List.mem_of_getElem? hstore) word _ hresolved.settings
    exact ⟨hkept, hresolved.pending⟩
  · cases h

theorem readPlain {words : List String} (hc : c.Keeps P) (hr : r.Keeps P)
    (h : c.readPlain r words = .ok s) : s.Keeps P := by
  induction words generalizing r with
  | nil =>
    cases h
    exact hr
  | cons word words ih =>
    simp only [Command.readPlain] at h
    split at h
    · cases h
    · obtain ⟨taken, htaken, hrest⟩ := bind_eq_ok_iff.mp h
      exact ih (hc.takeWord hr htaken) hrest

/-- A whole command line keeps it. -/
theorem readWords {words : List String} {finished : Finished α} (hc : c.Keeps P) (hr : r.Keeps P)
    (h : c.readWords r words = .ok finished) : finished.reading.Keeps P := by
  induction words generalizing r with
  | nil =>
    cases h
    exact hr
  | cons word words ih =>
    rw [Command.readWords] at h
    split at h
    · cases h
      exact hr
    split at h
    · cases h
    split at h
    · obtain ⟨taken, htaken, ⟨⟩⟩ := bind_eq_ok_iff.mp h
      exact hc.readPlain hr htaken
    · obtain ⟨taken, htaken, hrest⟩ := bind_eq_ok_iff.mp h
      exact ih (hc.takeLong hr htaken) hrest
    · obtain ⟨taken, htaken, hrest⟩ := bind_eq_ok_iff.mp h
      exact ih (hc.takeShort hr htaken) hrest
    · split at h
      next o hpending => exact ih (hr.leave (hr.pending o none hpending)) h
      · obtain ⟨taken, htaken, hrest⟩ := bind_eq_ok_iff.mp h
        exact ih (hc.takeWord hr htaken) hrest

/-- What the environment fills in keeps it. -/
theorem fill {env : String → Option String} {options : List (OptionSpec α)}
    (ho : ∀ o ∈ options, o.Keeps P) (hr : r.Keeps P) (h : Command.fill env r options = .ok s) :
    s.Keeps P := by
  induction options generalizing r with
  | nil =>
    cases h
    exact hr
  | cons o options ih =>
    obtain ⟨hfirst, hothers⟩ := List.forall_mem_cons.mp ho
    rw [Command.fill] at h
    split at h
    · exact ih hothers hr h
    · obtain ⟨filled, hfilled, hrest⟩ := bind_eq_ok_iff.mp h
      exact ih hothers (hr.apply hfirst hfilled) hrest

/-- What all options and words keep holds when the reading is complete. -/
theorem complete {env : String → Option String} {below : Bool} (hc : c.Keeps P) (hr : r.Keeps P)
    (h : c.complete env r below = .ok s) : s.Keeps P := by
  simp only [Command.complete] at h
  obtain ⟨resolved, hresolve, h⟩ := bind_eq_ok_iff.mp h
  obtain ⟨filled, hfill, h⟩ := bind_eq_ok_iff.mp h
  have hfilled := fill hc.options (hr.resolve hresolve) hfill
  split at h
  · cases h
  · split at h
    · cases h
    · cases h
      exact hfilled

end Command.Keeps

/-! ### Words that are taken at once -/

section

variable {a b : α} {name value : List Char}

theorem Reading.takeNow_start {value : String} (h : o.store .commandLine value a = .ok b) :
    Reading.takeNow { settings := a } o value = .ok { settings := b, given := [o.long] } := by
  have hnew : (Origin.commandLine == .commandLine && o.arity != .repeated &&
      List.contains [] o.long) = false := Bool.and_false _
  show Reading.apply { settings := a } o .commandLine value = _
  simp only [Reading.apply, hnew, h]
  rfl

namespace Command

/-- A word is cut at its first equals sign. -/
theorem splitEquals_append (hname : '=' ∉ name) :
    splitEquals (name ++ '=' :: value) = (name, some value) := by
  have htake : (name ++ '=' :: value).takeWhile (· != '=') = name := by
    rw [List.takeWhile_append_of_pos]
    · simp
    · intro c hc
      rw [bne_iff_ne]
      rintro rfl
      exact hname hc
  simp only [splitEquals, htake, List.drop_left]

/-- An option takes what stands behind an equals sign. -/
theorem takeLong_append (hname : '=' ∉ name)
    (hfind : c.options.find? (·.long == String.ofList name) = some o) (harity : o.arity = .single) :
    c.takeLong r (name ++ '=' :: value) = r.takeNow o (String.ofList value) := by
  have hvalued : (o.arity == .flag) = false := by
    rw [harity]
    rfl
  have htakes : r.takeOption o (some (String.ofList value)) =
      r.takeNow o (String.ofList value) := by
    simp only [Reading.takeOption]
  simp only [takeLong, splitEquals_append hname, hfind, hvalued]
  exact htakes

/-- A word that begins by two dashes is taken as an option, if something follows them. -/
theorem readWords_long {word : String} {rest : List String} (hname : name ≠ [])
    (hword : word.toList = '-' :: '-' :: name) (hlast : c.subcommands = []) :
    c.readWords r (word :: rest) = c.takeLong r name >>= fun taken ↦ c.readWords taken rest := by
  obtain ⟨letter, letters, rfl⟩ := List.exists_cons_of_ne_nil hname
  rw [readWords, hword, hlast]
  simp

/-- An empty environment fills in nothing. -/
theorem fill_none (r : Reading α) (options : List (OptionSpec α)) :
    fill (fun _ ↦ none) r options = .ok r := by
  induction options with
  | nil => rfl
  | cons o options ih =>
    have hnone : (o.envName.bind fun _ ↦ (none : Option String)) = none := by
      cases o.envName <;> rfl
    rw [fill, hnone, ite_self]
    exact ih

/-- A reading is complete if every word is there and nothing is left for later. -/
theorem complete_none {below : Bool} (hpending : r.pending = none)
    (hwords : c.words.length ≤ r.words) (hlast : below = true ∨ c.subcommands = []) :
    c.complete (fun _ ↦ none) r below = .ok r := by
  have hresolve : r.resolve = .ok r := by
    rw [Reading.resolve, hpending]
  have hnamed : (!below && !c.subcommands.isEmpty) = false := by
    rcases hlast with rfl | hlast
    · rfl
    · rw [hlast]
      exact Bool.and_false _
  simp only [complete, hresolve, hnamed]
  show (fill (fun _ ↦ none) r c.options >>= fun filled ↦ _) = _
  rw [fill_none]
  show ite (r.words < c.words.length) _ _ = _
  rw [if_neg (Nat.not_lt.mpr hwords)]
  rfl

end Command

end

end VolumeMigration.CommandLine
