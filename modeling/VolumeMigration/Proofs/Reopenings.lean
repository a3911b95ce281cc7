import Mathlib.Data.List.Chain
import VolumeMigration.Proofs.Following
import VolumeMigration.Proofs.Sighting

/-!
# How often a log is opened again

A stream is lost if it ends or breaks while it is still wanted, that is before anybody has said
stop and while somebody reads the lines (`Follower.Loses`). Only a lost stream is opened again, a
pause later, and only while the budget lasts and nobody says stop in the pause.

`Follower.Goes` says in one place what a follower can do at an opening. Each property of a whole
following is an induction over it, and `Follower.follow_isBounded` puts them together: the openings
are counted from 0 on and stay within the budget, one pause lies between two of them, an opening
that meets the stop or has lost its reader is the last, the log is given up if the whole budget is
lost, and there is one warning about a broken stream at most, at the first that breaks.
-/

namespace VolumeMigration

/-- Whether an entry is a warning. -/
def LogEntry.isWarning (entry : LogEntry) : Bool := entry.level = .warn

/-- The warnings among the entries of a following. -/
def Following.warnings (g : Following) : List LogEntry := g.logs.filter LogEntry.isWarning

@[simp] theorem Following.opens_cons (t : Turn) (g : Following) :
    (g.cons t).opens = g.opens + 1 := rfl

@[simp] theorem Following.warnings_cons (t : Turn) (g : Following) :
    (g.cons t).warnings = t.entries.filter LogEntry.isWarning ++ g.warnings := by
  simp [warnings, logs, cons]

namespace Follower

section

variable (f : Follower)

/-- The stream of the n-th opening, left to itself, ends or breaks at this moment. -/
def Ends (n : Nat) (opened time : Duration) (outcome : Except MigrationError Unit) : Prop :=
  ∃ duration, f.stream n = .lasting duration outcome ∧ time = opened + duration

/-- The stop comes before the stream of the n-th opening ends at this moment: with the opening
itself, by the moment of the opening, or while the stream is open. A stop at the very moment of
the end is behind it. -/
def StoppedBy (n : Nat) (opened time : Duration) : Prop :=
  f.stopsIn n = true ∨ ∃ stop, f.stopAt = some stop ∧ (¬opened < stop ∨ stop < time)

/-- The stream of the n-th opening ends or breaks while it is still wanted: nobody has said stop,
and somebody reads the lines. -/
def Loses (n : Nat) (opened time : Duration) (outcome : Except MigrationError Unit) : Prop :=
  f.Ends n opened time outcome ∧ ¬f.StoppedBy n opened time ∧ f.readerGone n = false

/-- The stream of a turn ends or breaks while it is still wanted. -/
def Lost (t : Turn) : Prop := ∃ time outcome, f.Loses t.attempt t.opened time outcome

/-- The stream of a turn breaks while it is still wanted. -/
def Breaks (t : Turn) (e : MigrationError) : Prop :=
  ∃ time, f.Loses t.attempt t.opened time (.error e)

/-- A turn comes right behind another: the other's stream was lost, and nobody said stop in the
pause. -/
def Precedes (t u : Turn) : Prop :=
  ∃ time outcome, f.Loses t.attempt t.opened time outcome ∧
    u.attempt = t.attempt + 1 ∧ u.opened = time + pause ∧
    ∀ stop, f.stopAt = some stop → ¬stop < u.opened

/-- A following uses up a budget of openings, and loses the stream of each of them. -/
def GivesUp (budget : Nat) (g : Following) : Prop :=
  g.opens = budget ∧ ∀ t ∈ g.turns, f.Lost t

/-- The warning about a broken stream. -/
def breakWarning (e : MigrationError) : LogEntry :=
  .warn "log stream broke, re-opening" [("pod", f.pod), ("error", e.message)]

/-- The warnings about broken streams in a list of turns: one for the first stream that breaks, in
the entries of its own turn, and none if no stream breaks. -/
inductive BreakWarnings (turns : List Turn) : List LogEntry → Prop
  | none (hnone : ∀ t ∈ turns, ∀ e, ¬f.Breaks t e) : BreakWarnings turns []
  | first {t : Turn} {e : MigrationError} (hfirst : IsFirst (fun u ↦ ∃ e, f.Breaks u e) turns t)
      (hbreaks : f.Breaks t e) (hmem : f.breakWarning e ∈ t.entries) :
    BreakWarnings turns [f.breakWarning e]

end

variable {f : Follower} {n left : Nat} {opened time : Duration} {warned : Bool}
  {outcome : Except MigrationError Unit} {g : Following}

/-! ### One opening -/

theorem Ends.unique {time' : Duration} {outcome' : Except MigrationError Unit}
    (h : f.Ends n opened time outcome) (h' : f.Ends n opened time' outcome') :
    time = time' ∧ outcome = outcome' := by
  obtain ⟨duration, hstream, rfl⟩ := h
  obtain ⟨duration', hstream', rfl⟩ := h'
  rw [hstream] at hstream'
  cases hstream'
  exact ⟨rfl, rfl⟩

theorem isStoppedAt_iff : f.isStoppedAt n opened = true ↔
    f.stopsIn n = true ∨ ∃ stop, f.stopAt = some stop ∧ ¬opened < stop := by
  simp [isStoppedAt, Option.any_eq_true]

theorem stopBefore?_eq_none_iff :
    f.stopBefore? time = none ↔ ∀ stop, f.stopAt = some stop → ¬stop < time := by
  simp [stopBefore?]

theorem stoppedBy_iff : f.StoppedBy n opened time ↔
    f.isStoppedAt n opened = true ∨ ∃ stop, f.stopBefore? time = some stop := by
  simp only [isStoppedAt_iff, stopBefore?_eq_some_iff, StoppedBy, and_or_left, exists_or, or_assoc]

/-- An opening reports the end of its stream exactly if the stream is lost. -/
theorem openLog_eq_finished_iff :
    f.openLog n opened = .finished time outcome ↔ f.Loses n opened time outcome := by
  constructor
  · intro hopen
    unfold openLog at hopen
    split at hopen
    · cases hopen
    split at hopen
    · cases hopen
    next hnot _ duration _ hstream =>
      split at hopen
      · cases hopen
      next hnone =>
        split at hopen
        · cases hopen
        next hreader =>
          cases hopen
          refine ⟨⟨duration, hstream, rfl⟩, fun hstopped ↦ ?_, by simpa using hreader⟩
          obtain hat | ⟨stop, hstop⟩ := stoppedBy_iff.mp hstopped
          · exact hnot hat
          · simp [hnone] at hstop
  · rintro ⟨⟨duration, hstream, rfl⟩, hnot, hreader⟩
    simp only [stoppedBy_iff, not_or, not_exists] at hnot
    obtain ⟨hat, hbefore⟩ := hnot
    have hnone : f.stopBefore? (opened + duration) = none :=
      Option.eq_none_iff_forall_ne_some.mpr hbefore
    simp [openLog, hat, hstream, hnone, hreader]

/-- Only a stream that stays open, and that nobody stops, keeps an opening from being over. -/
theorem stream_of_openLog (h : f.openLog n opened = .stopped none) : f.stream n = .endless := by
  unfold openLog at h
  split at h
  · cases h
  split at h
  next hstream => exact hstream
  next =>
    split at h
    · cases h
    split at h <;> cases h

/-! ### From one opening to the next -/

/-- What a follower does from its n-th opening on, with so many more openings to come at most. -/
inductive Goes (f : Follower) : Nat → Duration → Bool → Nat → Following → Prop
  /-- The stream is not lost: it stays open, the stop comes, or nobody reads any more. -/
  | kept {n left : Nat} {opened : Duration} {warned : Bool} {finish : Option Duration}
      (hkept : ∀ time outcome, ¬f.Loses n opened time outcome)
      (hfinish : finish = none → f.stream n = .endless) :
    Goes f n opened warned left ⟨[⟨n, opened, []⟩], finish⟩
  /-- The stream of the last opening is lost. -/
  | exhausted {n : Nat} {opened time : Duration} {warned : Bool}
      {outcome : Except MigrationError Unit} (hloses : f.Loses n opened time outcome) :
    Goes f n opened warned 0
      ⟨[⟨n, opened, [f.report n warned outcome, f.givingUp]⟩], some time⟩
  /-- The stream is lost, and the stop comes in the pause. -/
  | told {n left : Nat} {opened time stop : Duration} {warned : Bool}
      {outcome : Except MigrationError Unit} (hloses : f.Loses n opened time outcome)
      (hstop : f.stopAt = some stop) (hpause : stop < time + pause) :
    Goes f n opened warned (left + 1)
      ⟨[⟨n, opened, [f.report n warned outcome]⟩], some (time.later stop)⟩
  /-- The stream is lost, and the log is opened again behind the pause. -/
  | again {n left : Nat} {opened time : Duration} {warned : Bool}
      {outcome : Except MigrationError Unit} {rest : Following}
      (hloses : f.Loses n opened time outcome)
      (hpause : ∀ stop, f.stopAt = some stop → ¬stop < time + pause)
      (hrest : Goes f (n + 1) (time + pause) (warned || broke outcome) left rest) :
    Goes f n opened warned (left + 1)
      (rest.cons ⟨n, opened, [f.report n warned outcome]⟩)

theorem Goes.of_stopped {finish : Option Duration} (hopen : f.openLog n opened = .stopped finish)
    (warned : Bool) (left : Nat) : f.Goes n opened warned left ⟨[⟨n, opened, []⟩], finish⟩ := by
  refine .kept (fun time outcome hloses ↦ ?_) fun hfinish ↦ ?_
  · rw [openLog_eq_finished_iff.mpr hloses] at hopen
    cases hopen
  · exact stream_of_openLog (hfinish ▸ hopen)

theorem goes_followFrom (f : Follower) (n : Nat) (opened : Duration) (warned : Bool) (left : Nat) :
    f.Goes n opened warned left (f.followFrom n opened warned left) := by
  -- on the number of openings that are left
  induction left generalizing n opened warned with
  | zero =>
    rw [followFrom]
    split
    next finish hopen => exact .of_stopped hopen warned 0
    next time outcome hopen => exact .exhausted (openLog_eq_finished_iff.mp hopen)
  | succ left ih =>
    rw [followFrom]
    split
    next finish hopen => exact .of_stopped hopen warned (left + 1)
    next time outcome hopen =>
      have hloses := openLog_eq_finished_iff.mp hopen
      dsimp only
      split
      next stop hstop =>
        obtain ⟨hstop, hpause⟩ := stopBefore?_eq_some_iff.mp hstop
        exact .told hloses hstop hpause
      next hnone => exact .again hloses (stopBefore?_eq_none_iff.mp hnone) (ih _ _ _)

namespace Goes

/-! ### The openings -/

theorem attempts (h : f.Goes n opened warned left g) :
    g.turns.map Turn.attempt = List.range' n g.opens := by
  induction h with
  | kept | exhausted | told => rfl
  | again _ _ _ ih => simpa [Following.cons, Following.opens, List.range'_succ] using ih

theorem opens_pos (h : f.Goes n opened warned left g) : 0 < g.opens := by
  cases h <;> simp [Following.opens, Following.cons]

theorem opens_le (h : f.Goes n opened warned left g) : g.opens ≤ left + 1 := by
  induction h with
  | kept | exhausted | told => simp [Following.opens]
  | again _ _ _ ih => simpa [Following.cons, Following.opens] using ih

theorem exists_turns (h : f.Goes n opened warned left g) :
    ∃ entries rest, g.turns = ⟨n, opened, entries⟩ :: rest := by
  cases h with
  | kept | exhausted | told => exact ⟨_, _, rfl⟩
  | again => exact ⟨_, _, rfl⟩

theorem isChain (h : f.Goes n opened warned left g) : g.turns.IsChain f.Precedes := by
  induction h with
  | kept | exhausted | told => exact .singleton _
  | again hloses hpause hrest ih =>
    obtain ⟨entries, rest, hturns⟩ := hrest.exists_turns
    rw [hturns] at ih
    rw [Following.cons, hturns]
    exact .cons_cons ⟨_, _, hloses, rfl, rfl, hpause⟩ ih

/-! ### The end -/

theorem finish_of_lasting (h : f.Goes n opened warned left g)
    (hstream : ∀ n, f.stream n ≠ .endless) : ∃ time, g.finish = some time := by
  induction h with
  | kept _ hfinish => exact Option.ne_none_iff_exists'.mp fun hnone ↦ hstream _ (hfinish hnone)
  | exhausted | told => exact ⟨_, rfl⟩
  | again _ _ _ ih => exact ih

/-- A stream that is lost is the last one for lack of budget, which comes to its end with it, or
because the stop comes in the pause. -/
theorem of_getLast? (h : f.Goes n opened warned left g) {t : Turn}
    (hlast : g.turns.getLast? = some t) (hloses : f.Loses t.attempt t.opened time outcome) :
    (g.opens = left + 1 ∧ g.finish = some time) ∨
      ∃ stop, f.stopAt = some stop ∧ stop < time + pause := by
  induction h with
  | kept hkept =>
    cases hlast
    exact absurd hloses (hkept _ _)
  | exhausted hloses' =>
    cases hlast
    obtain ⟨rfl, -⟩ := hloses.1.unique hloses'.1
    exact .inl ⟨rfl, rfl⟩
  | told hloses' hstop hpause =>
    cases hlast
    obtain ⟨rfl, -⟩ := hloses.1.unique hloses'.1
    exact .inr ⟨_, hstop, hpause⟩
  | again _ _ hrest ih =>
    obtain ⟨entries, rest, hturns⟩ := hrest.exists_turns
    rw [Following.cons, hturns, List.getLast?_cons_cons, ← hturns] at hlast
    simpa [Following.cons, Following.opens] using ih hlast

end Goes

/-! ### The warnings -/

/-- The warnings about broken streams in the turns from one on, of which there are none if an
earlier turn has one. -/
def BreakWarningsFrom (f : Follower) (warned : Bool) (turns : List Turn)
    (breaks : List LogEntry) : Prop :=
  if warned then breaks = [] else f.BreakWarnings turns breaks

theorem breakWarningsFrom_nil (warned : Bool) : f.BreakWarningsFrom warned [] [] := by
  cases warned
  · exact .none fun _ ht ↦ (List.not_mem_nil ht).elim
  · exact rfl

/-- A turn whose stream does not break adds no warning about one. -/
theorem BreakWarnings.cons {t : Turn} {turns : List Turn} {breaks : List LogEntry}
    (ht : ∀ e, ¬f.Breaks t e) (h : f.BreakWarnings turns breaks) :
    f.BreakWarnings (t :: turns) breaks := by
  cases h with
  | none hnone => exact .none (List.forall_mem_cons.mpr ⟨ht, hnone⟩)
  | first hfirst hbreaks hmem =>
    exact .first (hfirst.cons fun ⟨e, hbreaks⟩ ↦ ht e hbreaks) hbreaks hmem

/-- A lost stream adds its warning before those of the turns behind it. -/
theorem BreakWarningsFrom.cons (hloses : f.Loses n opened time outcome) (warned : Bool)
    (more : List LogEntry) {turns : List Turn} {breaks : List LogEntry}
    (h : f.BreakWarningsFrom (warned || broke outcome) turns breaks) :
    f.BreakWarningsFrom warned (⟨n, opened, f.report n warned outcome :: more⟩ :: turns)
      ([f.report n warned outcome].filter LogEntry.isWarning ++ breaks) := by
  cases warned with
  | true =>
    obtain rfl : breaks = [] := h
    cases outcome <;> rfl
  | false =>
    cases outcome with
    | ok =>
      refine BreakWarnings.cons (fun e ⟨time', hbreaks⟩ ↦ ?_) h
      obtain ⟨-, hsame⟩ := hloses.1.unique hbreaks.1
      cases hsame
    | error e =>
      obtain rfl : breaks = [] := h
      have hbreaks : f.Breaks ⟨n, opened, f.breakWarning e :: more⟩ e := ⟨time, hloses⟩
      exact .first (.head ⟨e, hbreaks⟩) hbreaks List.mem_cons_self

theorem givesUp_cons {budget : Nat} {t : Turn} (ht : f.Lost t) :
    f.GivesUp (budget + 1) (g.cons t) ↔ f.GivesUp budget g := by
  simp [GivesUp, Following.cons, Following.opens, ht]

theorem Goes.exists_warnings (h : f.Goes n opened warned left g) :
    ∃ breaks, f.BreakWarningsFrom warned g.turns breaks ∧
      (f.GivesUp (left + 1) g ∧ g.warnings = breaks ++ [f.givingUp] ∨
        ¬f.GivesUp (left + 1) g ∧ g.warnings = breaks) := by
  induction h with
  | @kept n left opened warned finish hkept _ =>
    refine ⟨[], ?_, .inr ⟨fun hgives ↦ ?_, rfl⟩⟩
    · cases warned with
      | true => exact rfl
      | false =>
        have hunbroken : ∀ e, ¬f.Breaks ⟨n, opened, []⟩ e := fun e ⟨_, hloses⟩ ↦ hkept _ _ hloses
        exact BreakWarnings.cons hunbroken (breakWarningsFrom_nil false)
    · obtain ⟨time, outcome, hloses⟩ := hgives.2 _ List.mem_cons_self
      exact hkept _ _ hloses
  | exhausted hloses =>
    refine ⟨_, .cons hloses _ _ (breakWarningsFrom_nil _), .inl ⟨⟨rfl, ?_⟩, ?_⟩⟩
    · simpa using ⟨_, _, hloses⟩
    · rw [List.append_nil]
      exact List.filter_append [_] [f.givingUp]
  | told hloses =>
    refine ⟨_, .cons hloses _ _ (breakWarningsFrom_nil _), .inr ⟨?_, ?_⟩⟩
    · exact fun hgives ↦ by simpa [Following.opens] using hgives.1
    · simp [Following.warnings, Following.logs]
  | @again n left opened time warned outcome rest hloses _ _ ih =>
    obtain ⟨breaks, hbreaks, hwarnings⟩ := ih
    refine ⟨_, .cons hloses _ _ hbreaks, ?_⟩
    rw [givesUp_cons ⟨_, _, hloses⟩, Following.warnings_cons]
    simpa [List.append_assoc] using hwarnings

/-! ### A whole following -/

/-- By this moment, at which the stream of the n-th opening ends, it is not wanted any more. -/
def Unwanted (f : Follower) (n : Nat) (time : Duration) : Prop :=
  f.stopsIn n = true ∨ (∃ stop, f.stopAt = some stop ∧ ¬time < stop) ∨ f.readerGone n = true

theorem Precedes.not_unwanted {t u : Turn} (h : f.Precedes t u)
    (hends : f.Ends t.attempt t.opened time outcome) : ¬f.Unwanted t.attempt time := by
  obtain ⟨time', outcome', ⟨hends', hstopped, hreader⟩, -, hopened, hquiet⟩ := h
  obtain ⟨rfl, -⟩ := hends.unique hends'
  rintro (hin | ⟨stop, hstop, hle⟩ | hgone)
  · exact hstopped (.inl hin)
  · -- a stop that has come by the end would lie before the next opening, a pause later
    refine hquiet stop hstop ?_
    rw [hopened]
    simp only [Duration.lt_iff_nanos_lt, Duration.nanos_add] at hle ⊢
    have hpause : 0 < pause.nanos := by decide
    omega
  · simp [hgone] at hreader

/-- A following keeps to the budget of openings, and stops when it is told to. -/
structure IsBounded (f : Follower) (g : Following) : Prop where
  /-- It is over if every stream ends. -/
  ends : (∀ n, f.stream n ≠ .endless) → ∃ time, g.finish = some time
  /-- It is over by the stop. -/
  heeds : ∀ stop, f.stopAt = some stop → ∃ time, g.finish = some time ∧ ¬stop < time
  opens_pos : 0 < g.opens
  opens_le : g.opens ≤ maxReopenings + 1
  /-- Every opening counts, and counts once. -/
  attempts : g.turns.map Turn.attempt = List.range g.opens
  /-- The first opening is made at once. -/
  starts : g.turns.head?.map Turn.opened = some 0
  /-- Between two openings there is one pause, and no stop. -/
  paced : g.turns.IsChain f.Precedes
  /-- Nothing is opened behind a stream that is not wanted any more when it ends. -/
  stops : ∀ before t after time outcome, g.turns = before ++ t :: after →
    f.Ends t.attempt t.opened time outcome → f.Unwanted t.attempt time → after = []
  /-- A stream that is lost is the last one only if the budget is used up, and then there is no
  pause behind it, or if the stop comes in the pause. -/
  resumes : ∀ t time outcome, g.turns.getLast? = some t →
    f.Loses t.attempt t.opened time outcome →
    (g.opens = maxReopenings + 1 ∧ g.finish = some time) ∨
      ∃ stop, f.stopAt = some stop ∧ stop < time + pause
  /-- The warnings are that of the first broken stream, and that of giving up if the whole budget
  is lost. -/
  warnings : ∃ breaks, f.BreakWarnings g.turns breaks ∧
    (f.GivesUp (maxReopenings + 1) g ∧ g.warnings = breaks ++ [f.givingUp] ∨
      ¬f.GivesUp (maxReopenings + 1) g ∧ g.warnings = breaks)

/-- Opening a log again is bounded, and stops when it is told to. -/
theorem follow_isBounded (f : Follower) : f.IsBounded f.follow := by
  have hgoes : f.Goes 0 0 false maxReopenings f.follow := goes_followFrom f 0 0 false maxReopenings
  exact {
    ends := hgoes.finish_of_lasting
    heeds := fun _ hstop ↦ finish_follow hstop
    opens_pos := hgoes.opens_pos
    opens_le := hgoes.opens_le
    attempts := by rw [hgoes.attempts, List.range_eq_range']
    starts := by
      obtain ⟨entries, rest, hturns⟩ := hgoes.exists_turns
      simp [hturns]
    paced := hgoes.isChain
    stops := fun before t after time outcome hturns hends hunwanted ↦ by
      cases after with
      | nil => rfl
      | cons u after =>
        have hchain := hturns ▸ hgoes.isChain
        have hnext : f.Precedes t u := (List.isChain_append_cons_cons.mp hchain).2.1
        exact absurd hunwanted (hnext.not_unwanted hends)
    resumes := fun _ _ _ ↦ hgoes.of_getLast?
    warnings := hgoes.exists_warnings }

/-- Thirty pauses lie between the openings of a log that always breaks at once. -/
example : (follow ⟨"pod", fun _ ↦ .lasting 0 (.error .cancelled), none, fun _ ↦ false,
    fun _ ↦ false⟩).finish = some (.ofSeconds 30) := by
  decide

end Follower

end VolumeMigration
