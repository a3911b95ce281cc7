import VolumeMigration.Engine.Rehearsal
import VolumeMigration.Proofs.NodeAddresses
import VolumeMigration.Proofs.Steps

/-!
# Declining leaves no trace

To decline a migration is a strategy's own decision, and it is made from the two claims alone. No
helper that a body relies on fails by declining, whatever the world answers, so a body declines
exactly the migrations that its strategy is not for (`Strategy.Declines`).

A body that declines has done nothing yet. Nor does its attempt do anything afterwards: what it
cleans up is what was recorded under its own id, and that is nothing, while the records of earlier
attempts are not its business. So the state of the run is the same after the attempt as before
(`Attempt.declines_without_trace`), its history, in which every key pair and every call of helm
would stand, and its register.
-/

namespace VolumeMigration

/-- The strategy is not for this migration: one pod cannot mount both claims, or the claims are
behind two API servers, and the name of a service is known inside one cluster only. -/
def Strategy.Declines (s : Strategy) (m : Migration) : Prop :=
  s = .mount ∧ m.sharesNode = false ∨
    s = .clusterIp ∧ m.source.client.url ≠ m.destination.client.url

theorem Strategy.declines_iff {s : Strategy} {m : Migration} :
    s.Declines m ↔ s.accepts m = false := by
  cases s <;> simp [Declines, accepts, Migration.sameCluster, Client.sameCluster]

/-- Cleaning up after an attempt of which nothing is recorded does nothing. -/
theorem cleanUp_of_fresh (w : World) (request : Request) {id : String} {r : Run}
    (hfresh : ∀ entry ∈ r.releases.records, entry.attempt ≠ id) :
    cleanUp w request id r = (.value (), r) := by
  simp only [cleanUp, Registry.ofAttempt_eq_nil_iff.mpr hfresh]

namespace Attempt

variable (w : World) (a : Attempt) {strategy : Strategy} {r : Run}

/-- A strategy that is not for a migration declines it before anything else. -/
theorem carryOut_of_declines (hdeclines : strategy.Declines a.migration) (r : Run) :
    (strategy.body a).carryOut w a r = (.result (.error .unaccepted), r) := by
  rcases hdeclines with ⟨rfl, hshares⟩ | ⟨rfl, hurl⟩
  · simp only [Strategy.body, mountBody, hshares]
    rfl
  · have hcluster : a.migration.sameCluster = false := by
      simpa [Migration.sameCluster, Client.sameCluster] using hurl
    simp only [Strategy.body, clusterIpBody, hcluster]
    rfl

/-- No strategy declines a migration that it is for: all that a body relies on fails by mishap. -/
theorem declines_of_carryOut {s : Run}
    (hout : (strategy.body a).carryOut w a r = (.result (.error .unaccepted), s)) :
    strategy.Declines a.migration := by
  by_contra hnot
  have hunaccepted : MigrationError.unaccepted ≠ .unaccepted := by
    refine a.fails_body w strategy (fun e he ↦ (MigrationError.isMishap_iff.mp he).2) ?_ hout
    exact fun haccepts ↦ absurd (Strategy.declines_iff.mpr haccepts) hnot
  exact hunaccepted rfl

/-- An attempt that is declined was begun by a body that declines. -/
theorem carryOut_of_perform {body : Body Unit} {s : Run}
    (hout : a.perform w body r = (.value (.error .unaccepted), s)) :
    r.isCancelled = false ∧ ∃ t, body.carryOut w a r = (.result (.error .unaccepted), t) := by
  unfold perform execute at hout
  by_cases hc : r.isCancelled = true
  · simp only [hc, if_true] at hout
    split at hout <;> cases hout
  · simp only [hc, Bool.false_eq_true, if_false] at hout
    refine ⟨Bool.eq_false_iff.mpr hc, ?_⟩
    rcases hcarried : body.carryOut w a r with ⟨result | _ | cause, t⟩ <;> rw [hcarried] at hout
    · -- the result of the attempt is that of the body, unless cleaning up never ends
      dsimp only at hout
      split at hout
      · cases hout
      · cases hout
        exact ⟨t, rfl⟩
    · dsimp only at hout
      split at hout <;> cases hout
    · cases hout

/-- An attempt that declines leaves the run as it was, if nothing of it was recorded before. -/
theorem perform_of_declines (hfresh : ∀ entry ∈ r.releases.records, entry.attempt ≠ a.id)
    (hdeclines : strategy.Declines a.migration) :
    a.perform w (strategy.body a) r =
      (.value (.error (if r.isCancelled then .cancelled else .unaccepted)), r) := by
  have hclean : cleanUp w a.request a.id r = (.value (), r) := cleanUp_of_fresh w a.request hfresh
  unfold perform execute
  by_cases hc : r.isCancelled = true
  · simp only [hc, if_true, hclean]
  · simp only [hc, Bool.false_eq_true, if_false, a.carryOut_of_declines w hdeclines r, hclean]

/-- A body declines exactly the migrations that its strategy is not for. It leaves the run as it
was, and so does its attempt, unless something was recorded under its own id before. -/
theorem declines_without_trace (strategy : Strategy)
    (hfresh : ∀ entry ∈ r.releases.records, entry.attempt ≠ a.id) :
    ((∃ s, (strategy.body a).carryOut w a r = (.result (.error .unaccepted), s)) ↔
      strategy.Declines a.migration) ∧
    ((∃ s, a.perform w (strategy.body a) r = (.value (.error .unaccepted), s)) ↔
      r.isCancelled = false ∧ strategy.Declines a.migration) ∧
    (strategy.Declines a.migration →
      ((strategy.body a).carryOut w a r).2 = r ∧ (a.perform w (strategy.body a) r).2 = r) := by
  refine ⟨⟨?_, ?_⟩, ⟨?_, ?_⟩, ?_⟩
  · rintro ⟨s, hout⟩
    exact a.declines_of_carryOut w hout
  · intro hdeclines
    exact ⟨r, a.carryOut_of_declines w hdeclines r⟩
  · rintro ⟨s, hout⟩
    obtain ⟨hc, t, hbody⟩ := a.carryOut_of_perform w hout
    exact ⟨hc, a.declines_of_carryOut w hbody⟩
  · rintro ⟨hc, hdeclines⟩
    refine ⟨r, ?_⟩
    rw [a.perform_of_declines w hfresh hdeclines, hc]
    rfl
  · intro hdeclines
    rw [a.carryOut_of_declines w hdeclines r, a.perform_of_declines w hfresh hdeclines]
    exact ⟨rfl, rfl⟩

end Attempt

namespace Abroad

/-- An attempt to migrate into another cluster. -/
def attempt : Attempt := ⟨migration, "chart", "00001"⟩

/-- A run in which an earlier attempt has left a release behind. -/
def run : Run :=
  Run.record {} ⟨⟨Apart.client, "default", "pv-migrate-00000"⟩, "00000"⟩

end Abroad

/-- The name of a service is not known in another cluster; the release of the earlier attempt is
left alone. -/
theorem Attempt.declines_without_trace_abroad :
    (∃ s, Abroad.attempt.perform ({} : Rehearsal).world (Strategy.clusterIp.body Abroad.attempt)
        Abroad.run = (.value (.error .unaccepted), s)) ∧
      (Abroad.attempt.perform ({} : Rehearsal).world (Strategy.clusterIp.body Abroad.attempt)
        Abroad.run).2 = Abroad.run ∧
      Abroad.run.releases.size = 1 := by
  have hfresh : ∀ entry ∈ Abroad.run.releases.records, entry.attempt ≠ Abroad.attempt.id := by
    decide
  have hdeclines : Strategy.clusterIp.Declines Abroad.attempt.migration :=
    .inr ⟨rfl, by decide⟩
  obtain ⟨-, hperform, huntouched⟩ :=
    Attempt.declines_without_trace ({} : Rehearsal).world Abroad.attempt .clusterIp hfresh
  exact ⟨hperform.mpr ⟨by decide, hdeclines⟩, (huntouched hdeclines).2, by decide⟩

end VolumeMigration
