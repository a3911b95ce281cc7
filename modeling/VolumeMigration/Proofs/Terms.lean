import VolumeMigration.Engine.Bodies

/-!
# Bodies on terms

A strategy's body is a tree, and most of what is to be said of it can be said without running
it: what it asks for and in which order, and with which failures it ends. `Terms` are such a
contract. They say what the body may rely on (the answers to its questions and the results of
its errands) and what it owes in turn (which errands it runs, after which others have
succeeded, and with which failures it gives up). `Body.Obeys` is the weakest precondition of a
body under terms; it passes through `bind` (`Body.obeys_bind`), so that each strategy is
checked line by line by `simp`.

Whoever carries out a body then meets the contract at every errand:
`Body.carryOut_of_obeys` turns an invariant of single errands into one of whole bodies. The
interruption of a body needs no clause in the terms, since it is decided by who carries it out.
-/

namespace VolumeMigration

/-- A contract about a body. -/
structure Terms where
  /-- What may be answered to a question. -/
  Answers : (q : Question) → q.Answer → Prop
  /-- What an errand may bring back. -/
  Brings : (e : Errand) → Except MigrationError e.Result → Prop
  /-- Which errands may be run, after which others have succeeded (the latest first). -/
  Allows : List Errand → Errand → Prop
  /-- With which failures a body may end. -/
  Fails : MigrationError → Prop

/-- The errands that have succeeded after one more of them. -/
def Errand.followed (e : Errand) (before : List Errand) : Except MigrationError e.Result →
    List Errand
  | .ok _ => e :: before
  | .error _ => before

/-- What has succeeded is not forgotten. -/
theorem Errand.mem_followed {e other : Errand} {before : List Errand} (h : other ∈ before)
    (result : Except MigrationError e.Result) : other ∈ e.followed before result := by
  cases result with
  | ok _ => exact List.mem_cons_of_mem e h
  | error _ => exact h

namespace Body

variable {α β : Type} {T : Terms}

/-- The weakest precondition of a body for a condition on its value, under terms. -/
def Obeys (T : Terms) : Body α → List Errand → (α → List Errand → Prop) → Prop
  | done a, before, K => K a before
  | fail e, _, _ => T.Fails e
  | report _ next, before, K => next.Obeys T before K
  | ask q next, before, K => ∀ answer, T.Answers q answer → (next answer).Obeys T before K
  | run e next, before, K =>
    T.Allows before e ∧
      ∀ result, T.Brings e result → (next result).Obeys T (e.followed before result) K

/-! ### The contract of each piece -/

@[simp] theorem obeys_pure (a : α) (before : List Errand) (K : α → List Errand → Prop) :
    (pure a : Body α).Obeys T before K ↔ K a before := Iff.rfl

@[simp] theorem obeys_done (a : α) (before : List Errand) (K : α → List Errand → Prop) :
    (done a).Obeys T before K ↔ K a before := Iff.rfl

@[simp] theorem obeys_fail (e : MigrationError) (before : List Errand)
    (K : α → List Errand → Prop) : (fail e).Obeys T before K ↔ T.Fails e := Iff.rfl

@[simp] theorem obeys_report (entries : List LogEntry) (next : Body α) (before : List Errand)
    (K : α → List Errand → Prop) :
    (report entries next).Obeys T before K ↔ next.Obeys T before K := Iff.rfl

@[simp] theorem obeys_ask (q : Question) (next : q.Answer → Body α) (before : List Errand)
    (K : α → List Errand → Prop) :
    (ask q next).Obeys T before K ↔
      ∀ answer, T.Answers q answer → (next answer).Obeys T before K := Iff.rfl

@[simp] theorem obeys_run (e : Errand) (next : Except MigrationError e.Result → Body α)
    (before : List Errand) (K : α → List Errand → Prop) :
    (run e next).Obeys T before K ↔ T.Allows before e ∧
      ∀ result, T.Brings e result → (next result).Obeys T (e.followed before result) K := Iff.rfl

/-- A body that goes on with another one obeys what both obey in turn. -/
@[simp] theorem obeys_bind (b : Body α) (f : α → Body β) (before : List Errand)
    (K : β → List Errand → Prop) :
    (b >>= f).Obeys T before K ↔ b.Obeys T before fun a since ↦ (f a).Obeys T since K := by
  show (b.bind f).Obeys T before K ↔ _
  induction b generalizing before with
  | done a => exact Iff.rfl
  | fail e => exact Iff.rfl
  | report entries next ih => exact ih before
  | ask q next ih => exact forall_congr' fun answer ↦ imp_congr_right fun _ ↦ ih answer before
  | run e next ih =>
    refine and_congr_right fun _ ↦ forall_congr' fun result ↦ imp_congr_right fun _ ↦ ?_
    exact ih result (e.followed before result)

/-- What is reported at the end is of no account. -/
@[simp] theorem obeys_reportAtEnd (entries : List LogEntry) (b : Body α) (before : List Errand)
    (K : α → List Errand → Prop) :
    (b.reportAtEnd entries).Obeys T before K ↔ b.Obeys T before K := by
  induction b generalizing before with
  | done a => exact Iff.rfl
  | fail e => exact Iff.rfl
  | report others next ih => exact ih before
  | ask q next ih => exact forall_congr' fun answer ↦ imp_congr_right fun _ ↦ ih answer before
  | run e next ih =>
    refine and_congr_right fun _ ↦ forall_congr' fun result ↦ imp_congr_right fun _ ↦ ?_
    exact ih result (e.followed before result)

@[simp] theorem obeys_log (entry : LogEntry) (before : List Errand)
    (K : Unit → List Errand → Prop) : (log entry).Obeys T before K ↔ K () before := Iff.rfl

@[simp] theorem obeys_ofExcept (result : Except MigrationError α) (before : List Errand)
    (K : α → List Errand → Prop) :
    (ofExcept result).Obeys T before K ↔
      (∀ a, result = .ok a → K a before) ∧ ∀ e, result = .error e → T.Fails e := by
  cases result <;> simp [ofExcept]

@[simp] theorem obeys_acceptIf (condition : Bool) (before : List Errand)
    (K : Unit → List Errand → Prop) :
    (acceptIf condition).Obeys T before K ↔
      (condition = true → K () before) ∧ (condition = false → T.Fails .unaccepted) := by
  cases condition <;> simp [acceptIf]

/-! ### Carrying out -/

variable {w : World} {a : Attempt}

/-- What keeps a body on its terms while an attempt carries it out: an invariant of the errands
that have succeeded and of the run, what is true when the run is cancelled during an errand, and
what is true at a standstill. -/
structure Care (w : World) (a : Attempt) (T : Terms) where
  /-- Between two errands. -/
  Holds : List Errand → Run → Prop
  Interrupted : Run → Prop
  Stands : Standstill → Run → Prop
  holds_logAll : ∀ {before r} entries, Holds before r → Holds before (r.logAll entries)
  holds_answer : ∀ {before r} q, Holds before r →
    T.Answers q (Attempt.answer w q r).1 ∧ Holds before (Attempt.answer w q r).2
  /-- An errand comes back to a cancelled run, or it brings back what the terms say. -/
  holds_carryOut : ∀ {before r e back s}, Holds before r → T.Allows before e →
    a.carryOut w e r = (.value back, s) →
      s.isCancelled = true ∧ Interrupted s ∨
        s.isCancelled = false ∧ T.Brings e back.result ∧
          Holds (e.followed before back.result) (s.logAll back.logs)
  stands_carryOut : ∀ {before r e cause s}, Holds before r → T.Allows before e →
    a.carryOut w e r = (.standstill cause, s) → Stands cause s

/-- What has come of a body that was carried out with care. -/
inductive Carried {T : Terms} (c : Care w a T) (K : Unit → List Errand → Prop) :
    Verdict Unit × Run → Prop
  | done {since : List Errand} {s : Run} (hK : K () since) (hs : c.Holds since s) :
    Carried c K (.result (.ok ()), s)
  | failed {since : List Errand} {e : MigrationError} {s : Run} (he : T.Fails e)
      (hs : c.Holds since s) : Carried c K (.result (.error e), s)
  | interrupted {s : Run} (hs : c.Interrupted s) : Carried c K (.interrupted, s)
  | standstill {cause : Standstill} {s : Run} (hs : c.Stands cause s) :
    Carried c K (.standstill cause, s)

/-- A body that obeys its terms is carried out on them. -/
theorem carryOut_of_obeys (c : Care w a T) {b : Body Unit} {before : List Errand}
    {K : Unit → List Errand → Prop} {r : Run} (hb : b.Obeys T before K)
    (hr : c.Holds before r) : Carried c K (b.carryOut w a r) := by
  induction b generalizing before r with
  | done _ => exact .done hb hr
  | fail e => exact .failed hb hr
  | report entries next ih => exact ih hb (c.holds_logAll entries hr)
  | ask q next ih =>
    obtain ⟨hanswer, hnext⟩ := c.holds_answer q hr
    exact ih _ (hb _ hanswer) hnext
  | run e next ih =>
    obtain ⟨hallows, hnext⟩ := hb
    rw [carryOut]
    rcases hcarried : a.carryOut w e r with ⟨back | cause, s⟩
    · rcases c.holds_carryOut hr hallows hcarried with ⟨hc, hs⟩ | ⟨hc, hbrings, hs⟩
      · simp only [hc, if_true]
        exact .interrupted hs
      · simp only [hc, Bool.false_eq_true, if_false]
        exact ih _ (hnext _ hbrings) hs
    · exact .standstill (c.stands_carryOut hr hallows hcarried)

end Body

end VolumeMigration
