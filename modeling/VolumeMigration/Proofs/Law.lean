import VolumeMigration.Engine.Migrate
import VolumeMigration.Proofs.Ledger

/-!
# What may happen next

For a migration that has passed its checks, `Event.Permitted` says which event may follow
which history, in terms of the ledger and of the releases recorded so far; a history is
`Lawful` when every one of its events was permitted at its time. That every run has a lawful
history is proved along the program, in the modules after this one. Here it is shown what
follows from lawfulness alone:

* all releases of a run belong to one of its attempts, so that a release is known by its name
  (`Lawful.release_eq_of_name_eq`). The register, which forgets by name and namespace, thereby
  forgets releases;
* no work is done after a cancellation (`Lawful.not_isWork_of_mem`), and at most one attempt
  begins after it (`Lawful.countP_isAttempt_le_one`), none if one was under way
  (`Lawful.countP_isAttempt_eq_zero`).
-/

namespace VolumeMigration

/-- Whether the event belongs to the carrying out of a strategy's body. -/
def Event.isWork : Event → Bool
  | .keysSought _ | .recorded _ | .serviceWatched _ _ | .sshdPodsSought _ | .nodesSought _
  | .jobAwaited _ _ | .forwardsStarted _ _ | .sshRun _ => true
  | .helmCalled call _ => call.isInstall
  | _ => false

/-- The releases that an attempt may install. -/
def Attempt.releases (a : Attempt) : List Helm.ReleaseRef :=
  [a.soleRelease, a.sourceRelease, a.destinationRelease]

/-- The attempt whose id this number stands for. -/
def Prepared.numbered (p : Prepared) (n : Fin 0x100000) : Attempt where
  migration := p.migration
  chart := p.chart
  id := Attempt.idOfNumber n

/-- What may follow a history. -/
inductive Event.Permitted (p : Prepared) (h : History) : Event → Prop
  /-- Reports, and looks at the clusters before any strategy. -/
  | aside {e : Event} (hplain : e.isPlain = true) (hwork : e.isWork = false) : Permitted p h e
  | interrupted (cause : Interruption) : Permitted p h (.interrupted cause)
  /-- No attempt begins after one that has observed a cancellation. -/
  | attemptBegun (strategy : Strategy) (n : Fin 0x100000) (ho : h.ledger.observed = false) :
    Permitted p h (.attemptBegun strategy (Attempt.idOfNumber n))
  /-- Everything that a body does to its surroundings but for installing. -/
  | work {e : Event} (hplain : e.isPlain = true) (hc : h.isCancelled = false) : Permitted p h e
  /-- The attempt that is under way begins to install one of its releases. -/
  | recorded (n : Fin 0x100000) {release : Helm.ReleaseRef}
      (hrelease : release ∈ (p.numbered n).releases)
      (hunderWay : h.ledger.underWay = some (p.numbered n).id) (hc : h.isCancelled = false) :
    Permitted p h (.recorded ⟨release, (p.numbered n).id⟩)
  /-- What is installed was recorded. -/
  | installed (n : Fin 0x100000) {release : Helm.ReleaseRef} (file : String) (values : Tree)
      (outcome : Helm.Outcome) (hrecorded : .recorded ⟨release, (p.numbered n).id⟩ ∈ h)
      (hc : h.isCancelled = false) :
    Permitted p h (.helmCalled ((p.numbered n).installCall release file values) outcome)
  /-- What is uninstalled was recorded. -/
  | uninstalled {entry : ReleaseRecord} (outcome : Helm.Outcome) (hrecorded : .recorded entry ∈ h)
      (hskip : p.migration.request.skipCleanup = false) :
    Permitted p h
      (.helmCalled (Helm.uninstallCall p.migration.request entry.release) outcome)

/-- Every event was permitted when it happened. -/
def History.Lawful (p : Prepared) : History → Prop
  | [] => True
  | e :: h => e.Permitted p h ∧ Lawful p h

/-! ### The names of releases -/

namespace Attempt

theorem length_idOfNumber (n : Fin 0x100000) : (idOfNumber n).length = 5 := by
  simp [idOfNumber, Text.Hex.ofNat, Text.Hex.length_digits]

/-- The length of a release's name tells which of an attempt's releases it is. -/
theorem release_eq_of_name_eq {a b : Attempt} (hmigration : a.migration = b.migration)
    (hid : a.id.length = b.id.length) {x y : Helm.ReleaseRef} (hx : x ∈ a.releases)
    (hy : y ∈ b.releases) (hname : x.name = y.name) : x = y := by
  have hlength : x.name.length = y.name.length := by rw [hname]
  have hsource : "-src".length = 4 := rfl
  have hdestination : "-dest".length = 5 := rfl
  simp only [releases, List.mem_cons, List.not_mem_nil, or_false] at hx hy
  -- the same of the three releases on both sides, or names of different lengths
  rcases hx with rfl | rfl | rfl <;> rcases hy with rfl | rfl | rfl <;>
    simp only [soleRelease, sourceRelease, destinationRelease, Helm.ReleaseRef.mk.injEq,
      hmigration, releaseName, releasePrefixOf, String.length_append, hid] at hname hlength ⊢ <;>
    first
      | exact ⟨trivial, trivial, hname⟩
      | omega

end Attempt

namespace History.Lawful

variable {p : Prepared} {h later earlier : History}

/-! ### Lawful histories -/

theorem permitted {e : Event} (hl : Lawful p (later ++ e :: earlier)) : e.Permitted p earlier := by
  induction later with
  | nil => exact hl.1
  | cons u later ih => exact ih hl.2

/-- An event was permitted by what had happened before it. -/
theorem exists_permitted_of_mem {e : Event} (hl : Lawful p h) (he : e ∈ h) :
    ∃ later earlier, h = later ++ e :: earlier ∧ e.Permitted p earlier := by
  obtain ⟨later, earlier, rfl⟩ := List.append_of_mem he
  exact ⟨later, earlier, rfl, hl.permitted⟩

/-- Whatever was recorded is a release of an attempt, recorded under that attempt's id. -/
theorem mem_releases_of_recorded {entry : ReleaseRecord} (hl : Lawful p h)
    (hentry : .recorded entry ∈ h) :
    ∃ n, entry.release ∈ (p.numbered n).releases ∧ entry.attempt = (p.numbered n).id := by
  obtain ⟨later, earlier, -, hpermitted⟩ := hl.exists_permitted_of_mem hentry
  cases hpermitted with
  | aside hplain hwork => cases hplain
  | work hplain hc => cases hplain
  | recorded n hrelease hunderWay hc => exact ⟨n, hrelease, rfl⟩

/-- Two recorded releases of one name are the same release: on the same cluster, reached in the
same way, in the same namespace. -/
theorem release_eq_of_name_eq {x y : ReleaseRecord} (hl : Lawful p h) (hx : .recorded x ∈ h)
    (hy : .recorded y ∈ h) (hname : x.release.name = y.release.name) : x.release = y.release := by
  obtain ⟨n, hn, -⟩ := hl.mem_releases_of_recorded hx
  obtain ⟨m, hm, -⟩ := hl.mem_releases_of_recorded hy
  have hid : (p.numbered n).id.length = (p.numbered m).id.length := by
    rw [Prepared.numbered, Prepared.numbered, Attempt.length_idOfNumber,
      Attempt.length_idOfNumber]
  exact Attempt.release_eq_of_name_eq (a := p.numbered n) (b := p.numbered m) rfl hid hn hm hname

/-! ### After a cancellation -/

variable {cause : Interruption}

/-- After a cancellation no work is done. -/
theorem not_isWork_of_mem (hl : Lawful p (later ++ .interrupted cause :: earlier)) {e : Event}
    (he : e ∈ later) : e.isWork = false := by
  obtain ⟨since, before, rfl⟩ := List.append_of_mem he
  have hsplit : since ++ e :: before ++ .interrupted cause :: earlier =
      since ++ e :: (before ++ .interrupted cause :: earlier) := by simp
  rw [hsplit] at hl
  have hcancelled : isCancelled (before ++ .interrupted cause :: earlier) = true :=
    isCancelled_of_mem cause (by simp)
  cases hl.permitted with
  | aside hplain hwork => exact hwork
  | interrupted | attemptBegun | uninstalled => rfl
  | work hplain hc => rw [hcancelled] at hc; cases hc
  | recorded n hrelease hunderWay hc => rw [hcancelled] at hc; cases hc
  | installed n file values outcome hrecorded hc => rw [hcancelled] at hc; cases hc

/-- No attempt begins once a cancellation has been observed. -/
theorem not_isAttempt_of_observed (hl : Lawful p (later ++ earlier))
    (ho : earlier.ledger.observed = true) {e : Event} (he : e ∈ later) : e.isAttempt = false := by
  obtain ⟨since, before, rfl⟩ := List.append_of_mem he
  rw [List.append_assoc] at hl
  cases hl.permitted with
  | aside hplain => cases e <;> first | rfl | cases hplain
  | work hplain => cases e <;> first | rfl | cases hplain
  | attemptBegun strategy n hnot =>
    have hobserved := observed_append ho before
    exact absurd (hnot.symm.trans hobserved) Bool.false_ne_true
  | interrupted | recorded | installed | uninstalled => rfl

/-- A cancellation that meets an attempt under way is followed by no other attempt. -/
theorem countP_isAttempt_eq_zero (hl : Lawful p (later ++ .interrupted cause :: earlier))
    (hunderWay : earlier.ledger.underWay.isSome = true) : later.countP Event.isAttempt = 0 := by
  have ho : (ledger (.interrupted cause :: earlier)).observed = true := by
    simp [Ledger.after, hunderWay]
  rw [List.countP_eq_zero]
  intro e he
  rw [hl.not_isAttempt_of_observed ho he]
  exact Bool.false_ne_true

/-- A cancellation is followed by one attempt at most. -/
theorem countP_isAttempt_le_one (hl : Lawful p (later ++ .interrupted cause :: earlier)) :
    later.countP Event.isAttempt ≤ 1 := by
  induction later with
  | nil => exact Nat.zero_le 1
  | cons e later ih =>
    by_cases he : e.isAttempt = true
    · -- had there been one before this one, it would have observed the cancellation
      have hnone : later.countP Event.isAttempt = 0 := by
        rw [List.countP_eq_zero]
        intro u hu hattempt
        have ho : (ledger (later ++ .interrupted cause :: earlier)).observed = true :=
          observed_of_isAttempt (isCancelled_of_mem cause List.mem_cons_self) hu hattempt
        have hlater : Lawful p ([e] ++ (later ++ .interrupted cause :: earlier)) := hl
        rw [hlater.not_isAttempt_of_observed ho List.mem_cons_self] at he
        cases he
      rw [List.countP_cons_of_pos he]
      omega
    · rw [List.countP_cons_of_neg he]
      exact ih hl.2

end History.Lawful

end VolumeMigration
