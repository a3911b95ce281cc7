import Mathlib.Data.List.Chain
import VolumeMigration.Proofs.Releases
import VolumeMigration.Proofs.Steps

/-!
# Forgetting by name

A record says on which cluster its release is, but it is forgotten by name and namespace alone.
So forgetting one release could take a record of another cluster with it, and a release that
still exists would be lost sight of. That this never happens is a matter of the names. They tell
the releases of a run apart, even those of attempts that happen to have drawn the same id.

It is not enough to look at the register when a run is over. A release is gone before it is
forgotten, and if another one were forgotten with it, that would happen in between. So the whole
way of a run is followed, from one state to the next (`Run.Step`), and the same is said of every
state on it (`Run.Remembers`).
-/

namespace VolumeMigration

/-- What is to be said of the register at every moment of a run. -/
structure Run.Remembers (r : Run) : Prop where
  /-- Two records of one name and namespace are of the same cluster. -/
  unambiguous : ∀ x ∈ r.releases.records, ∀ y ∈ r.releases.records,
    x.release.name = y.release.name → x.release.ns = y.release.ns →
      x.release.client = y.release.client
  /-- A record stays as long as its release may still exist. -/
  kept : ∀ entry, r.history.Since (· = .recorded entry) (·.removed? ≠ some entry.release) →
    entry ∈ r.releases.records
  /-- When a release has just been removed, forgetting it forgets no other. -/
  forgets : ∀ release, r.history.HasJustRemoved release → ∀ entry ∈ r.releases.records,
    (entry ∈ (r.forget release).releases.records ↔ entry.release ≠ release)

namespace History

/-- The releases that have been recorded are known by their names, and no other was removed. -/
structure KnownByName (h : History) : Prop where
  release_eq : ∀ x y, .recorded x ∈ h → .recorded y ∈ h → x.release.name = y.release.name →
    x.release = y.release
  recorded : ∀ later e earlier release, h = later ++ e :: earlier → e.removed? = some release →
    ∃ entry, .recorded entry ∈ earlier ∧ entry.release = release

variable {h : History} {release : Helm.ReleaseRef}

namespace KnownByName

theorem of_append {later : History} (hk : KnownByName (later ++ h)) : h.KnownByName where
  release_eq x y hx hy :=
    hk.release_eq x y (List.mem_append_right later hx) (List.mem_append_right later hy)
  recorded since e earlier release hsplit :=
    hk.recorded (later ++ since) e earlier release (by rw [hsplit, List.append_assoc])

theorem of_lawful {p : Prepared} (hl : h.Lawful p) : h.KnownByName where
  release_eq _ _ hx hy := hl.release_eq_of_name_eq hx hy
  recorded := by
    rintro later e earlier release rfl hremoved
    obtain ⟨call, outcome, rfl, hinstall, rfl⟩ :=
      Event.exists_of_uninstalled? (Event.uninstalled?_of_removed? hremoved)
    cases hl.permitted with
    | aside hplain hwork => cases hplain
    | work hplain hc => cases hplain
    | installed n file values outcome hrecorded hc => cases hinstall
    | uninstalled outcome hrecorded hskip => exact ⟨_, hrecorded, rfl⟩

/-- Before the first attempt there is nothing to know. -/
theorem of_idle (hidle : ∀ e ∈ h, e.isIdle = true) : h.KnownByName where
  release_eq _ _ hx := by cases hidle _ hx
  recorded := by
    rintro later e earlier release rfl hremoved
    obtain ⟨call, outcome, rfl, -⟩ :=
      Event.exists_of_uninstalled? (Event.uninstalled?_of_removed? hremoved)
    cases hidle _ (mem_of_eq_append rfl)

end KnownByName

/-- A release that has just been removed has not been recorded since then. -/
theorem HasJustRemoved.not_since {entry : ReleaseRecord} (hgone : h.HasJustRemoved entry.release) :
    ¬h.Since (· = .recorded entry) (·.removed? ≠ some entry.release) := by
  induction h with
  | nil => exact not_since_nil
  | cons e h ih =>
    intro hsince
    rcases since_cons.mp hgone with hremoved | ⟨haside, hgone⟩ <;>
      rcases since_cons.mp hsince with rfl | ⟨hnot, hsince⟩
    · cases hremoved
    · exact hnot hremoved
    · cases haside
    · exact ih hgone hsince

end History

namespace Run

variable {r s : Run} {release : Helm.ReleaseRef}

/-! ### What each step keeps -/

/-- The register holds what may still exist, and nothing that was not recorded. -/
structure Retains (r : Run) : Prop where
  recorded : ∀ entry ∈ r.releases.records, .recorded entry ∈ r.history
  kept : ∀ entry, r.history.Since (· = .recorded entry) (·.removed? ≠ some entry.release) →
    entry ∈ r.releases.records

namespace Retains

/-- Of what is recorded exactly that is forgotten which has just been removed. -/
theorem mem_forget_iff (hr : r.Retains) (hk : r.history.KnownByName)
    (hgone : r.history.HasJustRemoved release) {entry : ReleaseRecord}
    (hentry : entry ∈ r.releases.records) :
    entry ∈ (r.forget release).releases.records ↔ entry.release ≠ release := by
  obtain ⟨later, e, earlier, hsplit, hremoved, -⟩ := hgone
  obtain ⟨other, hother, rfl⟩ := hk.recorded later e earlier release hsplit hremoved
  have hmem := History.mem_of_mem_earlier hsplit hother
  rw [releases_forget, Registry.mem_records_remove, ne_eq]
  constructor
  · rintro ⟨-, hnot⟩ hsame
    exact hnot ⟨by rw [hsame], by rw [hsame]⟩
  · intro hne
    refine ⟨hentry, fun hsame ↦ hne ?_⟩
    exact hk.release_eq entry other (hr.recorded entry hentry) hmem hsame.1

theorem remembers (hr : r.Retains) (hk : r.history.KnownByName) : r.Remembers where
  unambiguous x hx y hy hname _ := by
    rw [hk.release_eq x y (hr.recorded x hx) (hr.recorded y hy) hname]
  kept := hr.kept
  forgets _ hgone _ hentry := hr.mem_forget_iff hk hgone hentry

theorem note (hr : r.Retains) {e : Event} (hnot : ∀ entry, e ≠ .recorded entry) :
    (r.note e).Retains where
  recorded entry hentry := List.mem_cons_of_mem _ (hr.recorded entry hentry)
  kept entry hsince := by
    rcases History.since_cons.mp hsince with he | ⟨-, hsince⟩
    · exact absurd he (hnot entry)
    · exact hr.kept entry hsince

theorem record (hr : r.Retains) (entry : ReleaseRecord) : (r.record entry).Retains where
  recorded other hother := by
    rw [releases_record, Registry.records_record, List.mem_append, List.mem_singleton] at hother
    rcases hother with hother | rfl
    · exact List.mem_cons_of_mem _ (hr.recorded other hother)
    · exact List.mem_cons_self
  kept other hsince := by
    rw [releases_record, Registry.records_record, List.mem_append, List.mem_singleton]
    rcases History.since_cons.mp hsince with he | ⟨-, hsince⟩
    · exact Or.inr (Event.recorded.inj he).symm
    · exact Or.inl (hr.kept other hsince)

/-- What may still exist is not what has just been removed, so it is not forgotten. -/
theorem forget (hr : r.Retains) (hk : r.history.KnownByName)
    (hgone : r.history.HasJustRemoved release) : (r.forget release).Retains where
  recorded entry hentry := hr.recorded entry (Registry.mem_records_remove.mp hentry).1
  kept entry hsince := by
    refine (hr.mem_forget_iff hk hgone (hr.kept entry hsince)).mpr ?_
    rintro rfl
    exact hgone.not_since hsince

theorem step {Does : Event → Prop} (hr : r.Retains) (hk : r.history.KnownByName)
    (hstep : Step Does r s) : s.Retains := by
  rcases hstep with haside | ⟨-, hnot⟩ | - | hgone
  · refine hr.note ?_
    rintro entry rfl
    cases haside
  · exact hr.note hnot
  · exact hr.record _
  · exact hr.forget hk hgone

end Retains

/-! ### The way of a run -/

/-- A way that a run goes, when it does not matter what it does on it. -/
abbrev Way : Run → Run → Prop := Path fun _ ↦ True

/-- Every state on a way that ends with known names remembers what it should. -/
theorem exists_trail (hway : Way r s) (hr : r.Retains) (hk : s.history.KnownByName) :
    ∃ trail, List.IsChain (Step fun _ ↦ True) (r :: trail) ∧
      (r :: trail).getLast (List.cons_ne_nil _ _) = s ∧ ∀ t ∈ r :: trail, t.Remembers := by
  -- what is retained goes forwards, and which names are known comes back from the end
  induction hway using Relation.ReflTransGen.head_induction_on with
  | refl => exact ⟨[], .singleton s, rfl, by simpa using hr.remembers hk⟩
  | @head r t hstep hrest ih =>
    obtain ⟨later, hhistory, -⟩ := Path.exists_later (Relation.ReflTransGen.head hstep hrest)
    have hknown : r.history.KnownByName := by
      rw [hhistory] at hk
      exact hk.of_append
    obtain ⟨trail, hchain, hlast, hall⟩ := ih (hr.step hknown hstep)
    refine ⟨t :: trail, .cons_cons hstep hchain, ?_, ?_⟩
    · rwa [List.getLast_cons_cons]
    · exact List.forall_mem_cons.mpr ⟨hr.remembers hknown, hall⟩

/-- Before the first attempt nothing is recorded. -/
theorem Idle.way (hr : r.Idle) : Way {} r := by
  obtain ⟨history, releases⟩ := r
  obtain rfl : releases = {} := hr.releases
  have hevents := hr.events
  clear hr
  induction history with
  | nil => exact .refl
  | cons e h ih =>
    obtain ⟨he, hh⟩ := List.forall_mem_cons.mp hevents
    refine Path.note (s := ⟨h, {}⟩) (ih hh) trivial ?_
    rintro entry rfl
    cases he

section

variable (w : World) (p : Prepared)

theorem way_round (strategy : Strategy) (r : Run) :
    Way r (Round.of w (p.attempt w) strategy r).close := by
  have hbegun : Way r (r.note (.attemptBegun strategy
      (Attempt.idOfNumber (w r.history).attemptNumber.answer))) :=
    .single (.note r trivial (by simp))
  have hstart := (hbegun.interrupt (w r.history).attemptNumber.cancels).log
    (.info "attempting migration" [])
  refine path_close (hstart.trans ?_)
  exact (Attempt.path_perform w _ strategy _).mono fun _ _ ↦ trivial

theorem way_drive (strategies : List Strategy) (r : Run) :
    Way r (drive w (p.attempt w) strategies r).2 := by
  induction strategies generalizing r with
  | nil => exact .refl
  | cons strategy others ih =>
    rw [drive_cons]
    split
    · exact way_round w p strategy r
    · exact (way_round w p strategy r).trans (ih _)

theorem way_run (strategies : List Strategy) (r : Run) : Way r (p.run w strategies r).2 := by
  have hdrive := way_drive w p strategies r
  have hsweep : ∀ s, Way s (sweep w p.migration.request s).2 := fun s ↦
    (path_sweep w p.migration.request s).mono fun _ _ ↦ trivial
  rw [Prepared.run]
  generalize drive w (p.attempt w) strategies r = out at hdrive ⊢
  rcases out with ⟨result | cause, s⟩ <;> dsimp only at hdrive ⊢
  · split
    · have hdone := hdrive.trans (hsweep s)
      generalize sweep w p.migration.request s = out at hdone ⊢
      rcases out with ⟨⟨⟩ | cause, t⟩ <;> exact hdone
    · exact hdrive
  · exact hdrive

end

end Run

/-- A whole run goes a way on which names are known. -/
theorem migrate_way (w : World) (env : Surroundings) (request : Request)
    (before : Option Interruption) :
    Run.Way {} (migrate w env request (Run.start before)).2 ∧
      (migrate w env request (Run.start before)).2.history.KnownByName := by
  have hstart := Run.Idle.start before
  unfold migrate
  split
  · exact ⟨hstart.way, .of_idle hstart.events⟩
  next strategies hresolve =>
    have hidle := hstart.prepare w env request
    split
    next e s hprepare =>
      rw [hprepare] at hidle
      exact ⟨hidle.way, .of_idle hidle.events⟩
    next p s hprepare =>
      rw [hprepare] at hidle
      refine ⟨hidle.way.trans (Run.way_run w p strategies s), ?_⟩
      have hrun := p.finished w strategies (hidle.between p) hidle.not_observed
      generalize p.run w strategies s = out at hrun ⊢
      rcases hrun with ⟨hs, -⟩ | ⟨hs, -, -⟩ <;> exact .of_lawful hs.lawful

/-- Every run goes from its start to its end step by step, and forgets a release only right after
helm has removed it; and at every moment on its way two records of one name and namespace are of
the same cluster, what may still exist is recorded, and to forget what has just been removed is
to forget nothing else. That holds whatever is answered, the ids of the attempts included. -/
theorem migrate_remembers (w : World) (env : Surroundings) (request : Request)
    (before : Option Interruption) :
    ∃ trail, List.IsChain (Run.Step fun _ ↦ True) ({} :: trail) ∧
      (({} : Run) :: trail).getLast (List.cons_ne_nil _ _) =
        (migrate w env request (Run.start before)).2 ∧
      ∀ r ∈ {} :: trail, r.Remembers := by
  obtain ⟨hway, hknown⟩ := migrate_way w env request before
  exact Run.exists_trail hway ⟨by simp, fun _ hsince ↦ absurd hsince History.not_since_nil⟩ hknown

end VolumeMigration
