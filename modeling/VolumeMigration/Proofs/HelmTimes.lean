import VolumeMigration.CommandLine.Options
import VolumeMigration.Proofs.DurationWords
import VolumeMigration.Proofs.Settings

/-!
# The time that helm is given

Of all the options only one says what time helm is given (`Migrate.helmTimeoutOption`), and what
it takes has 64 bits of whole seconds, as every duration in words has. All other options leave
that time as it is (`Migrate.Spares`). So it fits whatever the command line and the environment
say (`Invocation.fits_read`), and any time that fits can be set (`Invocation.exists_read_iff`).
Nothing on the way keeps it any shorter.
-/

namespace VolumeMigration.CommandLine

namespace Migrate

/-- The time that helm is given fits. -/
def TimeFits (s : MigrateSettings) : Prop := s.request.helmTimeout.Fits

/-- What is stored has nothing to do with the time that helm is given. -/
def Spares (store : String → Request → Except UsageError Request) : Prop :=
  ∀ ⦃value a b⦄, store value a = .ok b → b.helmTimeout = a.helmTimeout

section

variable {store : String → Request → Except UsageError Request}

/-- An option that spares the helm timeout keeps what holds of it. -/
theorem Spares.keeps {short : Option Char} {long : String} {arity : Arity}
    {envName : Option String} (h : Spares store) :
    (option short long store arity envName).Keeps TimeFits := by
  intro origin value a b ha hb
  obtain ⟨request, hrequest, ⟨⟩⟩ := bind_eq_ok_iff.mp hb
  show request.helmTimeout.Fits
  rw [h hrequest]
  exact ha

/-- One that takes any text does, if it changes something else. -/
theorem spares_anyText {change : String → Request → Request}
    (h : ∀ value r, (change value r).helmTimeout = r.helmTimeout) : Spares (anyText change) := by
  rintro value a _ ⟨⟩
  exact h value a

/-- So does one that takes a path. -/
theorem spares_path {change : String → Request → Request}
    (h : ∀ value r, (change value r).helmTimeout = r.helmTimeout) : Spares (path change) := by
  intro value a b hb
  unfold path at hb
  split at hb <;> cases hb
  exact h value a

theorem spares_truth {change : Bool → Request → Request}
    (h : ∀ value r, (change value r).helmTimeout = r.helmTimeout) : Spares (truth change) := by
  intro value a b hb
  unfold truth at hb
  split_ifs at hb <;> cases hb
  · exact h true a
  · exact h false a

/-- So does one that takes another duration. -/
theorem spares_duration {change : Duration → Request → Request}
    (h : ∀ value r, (change value r).helmTimeout = r.helmTimeout) : Spares (duration change) := by
  intro value a b hb
  unfold duration at hb
  split at hb <;> cases hb
  exact h _ a

theorem spares_keyAlgorithm : Spares keyAlgorithm := by
  intro value a b hb
  unfold keyAlgorithm at hb
  split_ifs at hb <;> cases hb <;> rfl

theorem spares_nodePort : Spares nodePort := by
  intro value a b hb
  unfold nodePort at hb
  split at hb <;> cases hb
  rfl

theorem spares_flag {change : Request → Request}
    (h : ∀ r, (change r).helmTimeout = r.helmTimeout) : Spares fun _ r ↦ .ok (change r) := by
  rintro value a _ ⟨⟩
  exact h a

end

/-! ### The options of the command -/

/-- The option that says what time helm is given. -/
def helmTimeoutOption : OptionSpec MigrateSettings :=
  option none "helm-timeout" (duration fun d r ↦ { r with helmTimeout := d })

/-- The option of the helm timeout stores the duration that its text is read as. -/
theorem store_helmTimeout {text : String} {d : Duration} (h : Duration.ofText text = .ok d)
    (origin : Origin) (s : MigrateSettings) :
    helmTimeoutOption.store origin text s =
      .ok { s with request := { s.request with helmTimeout := d } } := by
  simp only [helmTimeoutOption, option, duration, h]
  rfl

/-- What it stores has been read from a text, and so it fits. -/
theorem keeps_helmTimeout : helmTimeoutOption.Keeps TimeFits := by
  intro origin value a b ha hb
  obtain ⟨request, hrequest, ⟨⟩⟩ := bind_eq_ok_iff.mp hb
  unfold duration at hrequest
  split at hrequest <;> cases hrequest
  next d hd => exact Duration.fits_ofText hd

theorem keeps_of_mem_sourceOptions : ∀ o ∈ sourceOptions, o.Keeps TimeFits := by
  simp only [sourceOptions, List.forall_mem_cons]
  refine ⟨?_, ?_, ?_, ?_, nofun⟩ <;> apply Spares.keeps
  · exact spares_path fun _ _ ↦ rfl
  all_goals exact spares_anyText fun _ _ ↦ rfl

theorem keeps_of_mem_destinationOptions : ∀ o ∈ destinationOptions, o.Keeps TimeFits := by
  simp only [destinationOptions, List.forall_mem_cons]
  refine ⟨?_, ?_, ?_, ?_, nofun⟩ <;> apply Spares.keeps
  · exact spares_path fun _ _ ↦ rfl
  all_goals exact spares_anyText fun _ _ ↦ rfl

theorem keeps_of_mem_transferOptions : ∀ o ∈ transferOptions, o.Keeps TimeFits := by
  simp only [transferOptions, List.forall_mem_cons]
  refine ⟨?_, ?_, ?_, ?_, ?_, ?_, ?_, ?_, ?_, ?_, ?_, nofun⟩ <;> apply Spares.keeps
  · exact spares_flag fun _ ↦ rfl
  · exact spares_flag fun _ ↦ rfl
  · exact spares_flag fun _ ↦ rfl
  · exact spares_flag fun _ ↦ rfl
  · exact spares_truth fun _ _ ↦ rfl
  · exact spares_truth fun _ _ ↦ rfl
  · exact spares_flag fun _ ↦ rfl
  · exact spares_keyAlgorithm
  · exact spares_anyText fun _ _ ↦ rfl
  · exact spares_nodePort
  · exact spares_duration fun _ _ ↦ rfl

/-- Of the options about helm one sets the timeout, and the others spare it. -/
theorem keeps_of_mem_helmOptions : ∀ o ∈ helmOptions, o.Keeps TimeFits := by
  simp only [helmOptions, List.forall_mem_cons]
  refine ⟨keeps_helmTimeout, ?_, ?_, ?_, ?_, ?_, nofun⟩ <;> apply Spares.keeps
  · exact spares_path fun _ _ ↦ rfl
  · exact spares_path fun _ _ ↦ rfl
  all_goals exact spares_anyText fun _ _ ↦ rfl

/-- Only one option says what time helm is given, and it takes no time that does not fit. -/
theorem command_keeps : command.Keeps TimeFits where
  options := by
    have hstrategies : ∀ o ∈ [strategyOption], o.Keeps TimeFits := by
      rw [List.forall_mem_singleton]
      rintro origin value a _ ha ⟨⟩
      exact ha
    have hlog : ∀ o ∈ logOptions fun f (s : MigrateSettings) ↦ { s with log := f s.log },
        o.Keeps TimeFits := by
      simp only [logOptions, List.forall_mem_cons]
      refine ⟨?_, ?_, nofun⟩
      · rintro origin value a _ ha ⟨⟩
        exact ha
      · intro origin value a b ha hb
        obtain ⟨format, -, ⟨⟩⟩ := bind_eq_ok_iff.mp hb
        exact ha
    have hhelp : ∀ o ∈ [asking "help" 'h' UsageError.displayHelp], o.Keeps TimeFits := by
      rw [List.forall_mem_singleton]
      intro origin value a b ha hb
      cases hb
    simp only [command, List.forall_mem_append]
    exact ⟨⟨⟨⟨⟨⟨keeps_of_mem_sourceOptions, keeps_of_mem_destinationOptions⟩,
      keeps_of_mem_transferOptions⟩, hstrategies⟩, keeps_of_mem_helmOptions⟩, hlog⟩, hhelp⟩
  words := by
    simp only [command, List.forall_mem_cons]
    exact ⟨fun _ _ ↦ id, fun _ _ ↦ id, nofun⟩

/-! ### Words that set the time -/

/-- The settings that say what time helm is given, and which claims are meant. -/
def timed (d : Duration) (source dest : String) : MigrateSettings :=
  { request := { source := { name := source }, destination := { name := dest }, helmTimeout := d } }

/-- The reading of words that say just that. -/
def timedReading (d : Duration) : Reading MigrateSettings :=
  { settings := timed d "source" "dest", given := ["helm-timeout"], words := 2 }

/-- The word with the timeout is taken in one step. -/
theorem takeLong_timed {text : String} {d : Duration} (h : Duration.ofText text = .ok d) :
    command.takeLong { settings := {} } ("helm-timeout".toList ++ '=' :: text.toList) =
      .ok { settings := timed d "" "", given := ["helm-timeout"] } := by
  have hfind : command.options.find? (·.long == String.ofList "helm-timeout".toList) =
      some helmTimeoutOption := rfl
  rw [Command.takeLong_append (by decide) hfind rfl, String.ofList_toList]
  exact Reading.takeNow_start (store_helmTimeout h _ _)

theorem readWords_timed {text : String} {d : Duration} (h : Duration.ofText text = .ok d) :
    command.readWords { settings := {} } ["--helm-timeout=" ++ text, "source", "dest"] =
      .ok (.all (timedReading d)) := by
  have hword : ("--helm-timeout=" ++ text).toList =
      '-' :: '-' :: ("helm-timeout".toList ++ '=' :: text.toList) := by
    rw [String.toList_append]
    rfl
  rw [Command.readWords_long (by simp) hword rfl, takeLong_timed h]
  rfl

end Migrate

/-! ### Whole command lines -/

namespace Invocation

/-- No command line gives helm a time that does not fit. -/
theorem fits_read {env : String → Option String} {words : List String} {i : Invocation}
    (h : read env words = .ok i) : i.request.helmTimeout.Fits := by
  have hdefault : Migrate.TimeFits {} := by
    show (Duration.ofSeconds 60).Fits
    decide
  have hcomplete : ∀ {r s : Reading MigrateSettings}, r.Keeps Migrate.TimeFits →
      Migrate.command.complete env r false = .ok s → Migrate.TimeFits s.settings :=
    fun hr hs ↦ (Migrate.command_keeps.complete hr hs).settings
  simp only [read] at h
  obtain ⟨finished, -, h⟩ := bind_eq_ok_iff.mp h
  split at h
  · obtain ⟨completed, -, ⟨⟩⟩ := bind_eq_ok_iff.mp h
  next outer name rest =>
    obtain ⟨finished, hfinished, h⟩ := bind_eq_ok_iff.mp h
    have hkept := Migrate.command_keeps.readWords (.start hdefault) hfinished
    split at h
    all_goals
      obtain ⟨_, ⟨⟩, h⟩ := bind_eq_ok_iff.mp h
      obtain ⟨inner, hinner, h⟩ := bind_eq_ok_iff.mp h
      obtain ⟨_, -, ⟨⟩⟩ := bind_eq_ok_iff.mp h
      exact hcomplete hkept hinner

/-- Words that say what time helm is given, and beyond that only what has to be said. -/
def timeoutWords (text : String) : List String :=
  ["migrate", "--helm-timeout=" ++ text, "source", "dest"]

/-- A whole command line with this timeout is read, and its request has the timeout. -/
theorem exists_read_timeoutWords {text : String} {d : Duration}
    (h : Duration.ofText text = .ok d) :
    ∃ i, read (fun _ ↦ none) (timeoutWords text) = .ok i ∧ i.request.helmTimeout = d := by
  have houter : program.readWords { settings := {} } (timeoutWords text) =
      .ok (.below { settings := {} } "migrate" ["--helm-timeout=" ++ text, "source", "dest"]) := by
    simp [Command.readWords, Reading.awaits, program, timeoutWords]
  have hinner := Migrate.readWords_timed h
  have hlast : Migrate.command.complete (fun _ ↦ none) (Migrate.timedReading d) false = .ok _ :=
    Command.complete_none rfl (Nat.le_refl 2) (Or.inr rfl)
  have hfirst : program.complete (fun _ ↦ none) { settings := {} } true = .ok _ :=
    Command.complete_none rfl (Nat.le_refl 0) (Or.inl rfl)
  have hread : read (fun _ ↦ none) (timeoutWords text) =
      .ok (ofSettings {} (Migrate.timed d "source" "dest")) := by
    simp only [read]
    refine bind_eq_ok_iff.mpr ⟨_, houter, bind_eq_ok_iff.mpr ⟨_, hinner, ?_⟩⟩
    exact bind_eq_ok_iff.mpr ⟨_, rfl, bind_eq_ok_iff.mpr ⟨_, hlast,
      bind_eq_ok_iff.mpr ⟨_, hfirst, rfl⟩⟩⟩
  exact ⟨_, hread, rfl⟩

/-- The times that command lines give helm are those that fit. -/
theorem exists_read_iff {d : Duration} :
    (∃ env words i, read env words = .ok i ∧ i.request.helmTimeout = d) ↔ d.Fits := by
  constructor
  · rintro ⟨env, words, i, hread, rfl⟩
    exact fits_read hread
  · intro hd
    obtain ⟨i, hread, htimeout⟩ := exists_read_timeoutWords (Duration.ofText_words hd)
    exact ⟨_, _, i, hread, htimeout⟩

end Invocation

end VolumeMigration.CommandLine
